import Mathlib
import Storyboard.Proofs.Script.Removal
import Storyboard.Proofs.Speech.Detour

/-!
Two runs over some scripts, of which one leaves a script out. The names that only one of the runs has
taken are contested, with all that their timelines have for their own. Every other timeline is
released in both runs, with the same outcome.
-/

namespace Storyboard

/-! ### What a script offers -/

/-- The timeline that the script at a path stands for. -/
def Store.offer (s : Store) (path : String) : Except Error Timeline :=
  match s.readText path with
  | .error cause => .error (.unreadScript path cause)
  | .ok text => Script.compile text

def Store.titleOf? (s : Store) (path : String) : Option String :=
  (s.offer path).toOption.map (·.name)

/-- Among some scripts, these two are the first ones of one name, which is not taken. -/
def Store.Rivals (s : Store) (taken scripts : List String) (path other : String) : Prop :=
  ∃ name, name ∉ taken ∧ [path, other] <+: scripts.filter (s.titleOf? · = some name)

/-- Of some scripts, the one at a path is the first that asks for a name that is free by chance. -/
def Store.Gains (s : Store) (N : String → Prop) (taken scripts : List String) (path : String) :
    Prop :=
  ∃ name, N name ∧ name ∉ taken ∧ scripts.find? (s.titleOf? · = some name) = some path

section Names

variable {s : Store} {N : String → Prop} {taken more rest : List String} {path script other : String}
  (htaken : taken ⊆ more) (hnamed : ∀ name, s.titleOf? script = some name → name ∈ more)

include htaken hnamed

-- A name that is free behind a script is not the one that it asks for.
theorem Store.Gains.cons (h : s.Gains N more rest other) : s.Gains N taken (script :: rest) other := by
  obtain ⟨name, hN, hfree, hfind⟩ := h
  refine ⟨name, hN, fun hmem => hfree (htaken hmem), ?_⟩
  rw [List.find?_cons_of_neg, hfind]
  intro htitle
  exact hfree (hnamed name (of_decide_eq_true htitle))

theorem Store.Rivals.cons (h : s.Rivals more rest path other) :
    s.Rivals taken (script :: rest) path other := by
  obtain ⟨name, hfree, hrivals⟩ := h
  refine ⟨name, fun hmem => hfree (htaken hmem), ?_⟩
  rw [List.filter_cons_of_neg]
  · exact hrivals
  · intro htitle
    exact hfree (hnamed name (of_decide_eq_true htitle))

omit htaken hnamed in
theorem Store.Gains.rivals (h : s.Gains N taken rest other)
    (htitle : ∀ name, N name → s.titleOf? script = some name) :
    s.Rivals taken (script :: rest) script other := by
  obtain ⟨name, hN, hfree, hfind⟩ := h
  refine ⟨name, hfree, ?_⟩
  rw [List.filter_cons, if_pos (decide_eq_true (htitle name hN)), List.cons_prefix_cons]
  refine ⟨rfl, ?_⟩
  rw [← List.head?_filter] at hfind
  obtain ⟨others, hothers⟩ := List.head?_eq_some_iff.mp hfind
  rw [hothers]
  exact List.prefix_append [other] others

end Names

/-- Wherever a script is kept, it offers what it did. -/
def Store.Fixes (base : Store) (K : Location → Prop) (path : String) : Prop :=
  ∀ ⦃s⦄, base.Grown K s → s.offer path = base.offer path

theorem Store.Fixes.titleOf?_eq {base s : Store} {K : Location → Prop} {path : String}
    (h : base.Fixes K path) (hs : base.Grown K s) : s.titleOf? path = base.titleOf? path := by
  rw [titleOf?, titleOf?, h hs]

theorem Store.Stocks.fixes {base : Store} {K : Location → Prop} {folder name : String}
    (h : base.Stocks folder name) (hK : K (Path.place (Path.join folder name))) :
    base.Fixes K (Path.join folder name) := by
  intro s hs
  rw [offer, offer, hs.readText_eq h hK]

theorem Store.accept_eq (s : Store) (taken : List String) (path : String) :
    s.accept taken path = s.offer path >>= fun t =>
      if t.name ∈ taken then .error (.duplicateName t.name) else .ok t := by
  unfold accept offer
  cases s.readText path with
  | error cause => rfl
  | ok text =>
      dsimp only
      cases Script.compile text <;> rfl

section Outcome

variable {ε σ α : Type} {R Q : σ → σ → Prop} {x : EStateM ε σ α} {s t : σ}

/-- What becomes of a program that is run in a state. -/
def outcomeOf (x : EStateM ε σ α) (s : σ) : Except ε α :=
  match x s with
  | .ok a _ => .ok a
  | .error e _ => .error e

theorem Agree.outcomeOf_eq (h : Agree R Q x s t) : outcomeOf x s = outcomeOf x t := by
  rcases h with ⟨a, s', t', hs, ht, _⟩ | ⟨e, s', t', hs, ht, _⟩
  · rw [outcomeOf, outcomeOf, hs, ht]
  · rw [outcomeOf, outcomeOf, hs, ht]

theorem Build.attempt_eq {σ α : Type} (b : Build σ α) (s : Session σ) :
    b.attempt s = .ok (outcomeOf b s) (after b s) := by
  unfold attempt outcomeOf after
  cases b s <;> rfl

end Outcome

variable {σ : Type} {craft : Craft} {s s' t t' : Session σ} {taken taken' scripts : List String}
  {path : String} {timeline : Timeline}

namespace Studio

variable {studio : Studio σ}

theorem releaseScript_of_offer_error {e : Error} (h : s.world.store.offer path = .error e) :
    studio.releaseScript taken path s = .ok (taken, .error e) s := by
  refine releaseScript_of_error ?_
  rw [Store.accept_eq, h]
  rfl

theorem releaseScript_of_mem (h : s.world.store.offer path = .ok timeline)
    (htaken : timeline.name ∈ taken) : studio.releaseScript taken path s =
      .ok (taken, .error (.duplicateName timeline.name)) s := by
  refine releaseScript_of_error ?_
  rw [Store.accept_eq, h]
  exact if_pos htaken

theorem releaseScript_of_not_mem (h : s.world.store.offer path = .ok timeline)
    (hfresh : timeline.name ∉ taken) : studio.releaseScript taken path s =
      .ok (timeline.name :: taken, (outcomeOf (studio.release timeline) s).map (·.2))
        (after (studio.release timeline) s) := by
  have haccept : s.world.store.accept taken path = .ok timeline := by
    rw [Store.accept_eq, h]
    exact if_neg hfresh
  rw [releaseScript_of_ok haccept, bind_of_ok (Build.attempt_eq _ s)]
  rfl

/-- Behind a script, the name is taken that it asks for. -/
theorem subset_of_releaseScript {outcome : Except Error CatalogueEntry}
    (h : studio.releaseScript taken path s = .ok (taken', outcome) s') :
    taken ⊆ taken' ∧ ∀ name, s.world.store.titleOf? path = some name → name ∈ taken' := by
  unfold Store.titleOf?
  cases hoffer : s.world.store.offer path with
  | error e =>
      rw [releaseScript_of_offer_error hoffer] at h
      cases h
      refine ⟨List.Subset.refl _, ?_⟩
      rintro _ ⟨⟩
  | ok timeline =>
      have hmem : taken ⊆ taken' ∧ timeline.name ∈ taken' := by
        by_cases htaken : timeline.name ∈ taken
        · rw [releaseScript_of_mem hoffer htaken] at h
          cases h
          exact ⟨List.Subset.refl _, htaken⟩
        · rw [releaseScript_of_not_mem hoffer htaken] at h
          cases h
          exact ⟨List.subset_cons_self _ _, List.mem_cons_self⟩
      refine ⟨hmem.1, ?_⟩
      rintro _ ⟨⟩
      exact hmem.2

/-- Behind a script, a run goes on with the names that are taken then. -/
theorem releaseScripts_cons_of_ok {outcome : Except Error CatalogueEntry}
    (h : studio.releaseScript taken path s = .ok (taken', outcome) s') :
    ∃ events, ∀ rest, studio.releaseScripts taken (path :: rest) s =
      (do
        let outcomes ← studio.releaseScripts taken' rest
        return (path, outcome) :: outcomes) { s' with events } := by
  cases outcome with
  | ok entry =>
      refine ⟨s'.events, fun rest => ?_⟩
      rw [releaseScripts_cons, bind_of_ok h]
      rfl
  | error e =>
      refine ⟨s'.events ++ [.failed path e], fun rest => ?_⟩
      rw [releaseScripts_cons, bind_of_ok h]
      rfl

/-- Two runs over some scripts end, and what they tell and leave is as required. -/
def BothEnd (studio : Studio σ) (taken scripts : List String) (s : Session σ)
    (taken' scripts' : List String) (t : Session σ)
    (P : List (String × Except Error CatalogueEntry) →
      List (String × Except Error CatalogueEntry) → Session σ → Session σ → Prop) : Prop :=
  ∃ outcomes outcomes' s' t', studio.releaseScripts taken scripts s = .ok outcomes s' ∧
    studio.releaseScripts taken' scripts' t = .ok outcomes' t' ∧ P outcomes outcomes' s' t'

section BothEnd

variable {P Q : List (String × Except Error CatalogueEntry) →
    List (String × Except Error CatalogueEntry) → Session σ → Session σ → Prop}
  {R : Store → Store → Prop} {more more' rest rest' : List String} {s₁ t₁ : Session σ}
  {outcome outcome' : Except Error CatalogueEntry}

/-- One run releases a script and goes on. -/
theorem BothEnd.left (hs : studio.releaseScript taken path s = .ok (more, outcome) s₁)
    (hst : s₁.Related craft R t)
    (hrest : ∀ {s}, s.Related craft R t → studio.BothEnd more rest s taken' scripts t P)
    (hP : ∀ {outcomes outcomes' s t}, outcomes.map (·.1) = rest → P outcomes outcomes' s t →
      Q ((path, outcome) :: outcomes) outcomes' s t) :
    studio.BothEnd taken (path :: rest) s taken' scripts t Q := by
  obtain ⟨events, hevents⟩ := releaseScripts_cons_of_ok hs
  obtain ⟨outcomes, outcomes', s', t', hs', ht', hends⟩ :=
    hrest (s := { s₁ with events }) ⟨hst.store, hst.left, hst.right⟩
  refine ⟨_, outcomes', s', t', ?_, ht', hP (releaseScripts_names hs' "").1 hends⟩
  rw [hevents, bind_of_ok hs']
  rfl

/-- Both runs release a script and go on. -/
theorem BothEnd.both (hs : studio.releaseScript taken path s = .ok (more, outcome) s₁)
    (ht : studio.releaseScript taken' path t = .ok (more', outcome') t₁)
    (hst : s₁.Related craft R t₁)
    (hrest : ∀ {s t}, s.Related craft R t → studio.BothEnd more rest s more' rest' t P)
    (hP : ∀ {outcomes outcomes' s t}, P outcomes outcomes' s t →
      Q ((path, outcome) :: outcomes) ((path, outcome') :: outcomes') s t) :
    studio.BothEnd taken (path :: rest) s taken' (path :: rest') t Q := by
  obtain ⟨events, hevents⟩ := releaseScripts_cons_of_ok hs
  obtain ⟨events', hevents'⟩ := releaseScripts_cons_of_ok ht
  obtain ⟨outcomes, outcomes', s', t', hs', ht', hends⟩ :=
    hrest (s := { s₁ with events }) (t := { t₁ with events := events' })
      ⟨hst.store, hst.left, hst.right⟩
  refine ⟨_, _, s', t', ?_, ?_, hP hends⟩
  · rw [hevents, bind_of_ok hs']
    rfl
  · rw [hevents', bind_of_ok ht']
    rfl

end BothEnd

end Studio

/-! ### Names that only one of two runs has taken -/

namespace StudioOptions

variable {o : StudioOptions} {name other : String} {l : Location}

/-- Timelines of different names have nothing for their own together. -/
theorem eq_of_own (hname : '/' ∉ name.toList) (hother : '/' ∉ other.toList) (h : o.own name l)
    (h' : o.own other l) : name = other := by
  have hfolder : ∀ {a b : String}, '/' ∉ b.toList →
      ¬ o.outputs b (Path.place o.publicRoot ++ ["speech", a]) := by
    intro a b hb houtputs
    rcases outputs_cases hb houtputs with ⟨file, hl⟩ | hl | hl <;> simp at hl
  rcases h with rfl | houtputs
  · rcases h' with hl | houtputs'
    · simpa using hl
    · exact absurd houtputs' (hfolder hother)
  · rcases h' with rfl | houtputs'
    · exact absurd houtputs (hfolder hname)
    · exact eq_of_outputs hname hother houtputs houtputs'

/-- What some timelines have for their own, and what is set apart from the beginning. -/
def contested (o : StudioOptions) (apart : Location → Prop) (N : String → Prop) (l : Location) :
    Prop :=
  apart l ∨ ∃ name, N name ∧ Timeline.checkName name = .ok () ∧ o.own name l

end StudioOptions

/-- What is assumed of what is set apart from the beginning: nothing of it is shared, and nothing of
it is what a timeline has for its own. -/
structure Contest (o : StudioOptions) (base : Store) (K K' apart : Location → Prop) : Prop where
  reaches : base.Reaches o.publicRoot
  left : ∀ l, K l → Script.isPlace l
  right : ∀ l, K' l → Script.isPlace l
  shared : ∀ l, o.shared l → ¬ apart l
  own : ∀ name, Timeline.checkName name = .ok () → ∀ l, o.own name l → ¬ apart l

namespace Contest

variable {o : StudioOptions} {base : Store} {K K' apart : Location → Prop} {N : String → Prop}

theorem setting (h : Contest o base K K' apart) (N : String → Prop) :
    Setting o base K K' (o.contested apart N) := by
  refine ⟨h.reaches, h.left, h.right, ?_⟩
  rintro l hshared (hapart | ⟨name, _, hname, hown⟩)
  · exact h.shared l hshared hapart
  · exact StudioOptions.not_shared_of_own (Studio.not_mem_of_checkName hname) hown hshared

theorem not_contested (h : Contest o base K K' apart) {name : String} (hN : ¬ N name)
    (hname : Timeline.checkName name = .ok ()) {l : Location} (hl : o.own name l) :
    ¬ o.contested apart N l := by
  rintro (hapart | ⟨other, hother, hcheck, hl'⟩)
  · exact h.own name hname l hl hapart
  · have hsame := StudioOptions.eq_of_own (Studio.not_mem_of_checkName hname)
      (Studio.not_mem_of_checkName hcheck) hl hl'
    exact hN (hsame ▸ hother)

end Contest

/-- Two runs of one craft hold the same, but for what is contested. -/
abbrev RelatedBut (craft : Craft) (o : StudioOptions) (base : Store) (K K' apart : Location → Prop)
    (N : String → Prop) : Session σ → Session σ → Prop :=
  Session.Related craft (Matched o base K K' (o.contested apart N))

/-- Outcomes of the same scripts, which are the same but of some of them. -/
def SameBut (P : String → Prop) :
    List (String × Except Error CatalogueEntry) → List (String × Except Error CatalogueEntry) → Prop :=
  List.Forall₂ fun told told' => told.1 = told'.1 ∧ (¬ P told.1 → told.2 = told'.2)

theorem SameBut.mono {P P' : String → Prop}
    {outcomes outcomes' : List (String × Except Error CatalogueEntry)}
    (h : SameBut P outcomes outcomes') (hP : ∀ path, P path → P' path) :
    SameBut P' outcomes outcomes' :=
  h.imp fun _ _ hsame => ⟨hsame.1, fun hnot => hsame.2 fun hmem => hnot (hP _ hmem)⟩

theorem filter_ne_of_not_mem {α : Type} {entries : List α} (key : α → String)
    (h : path ∉ entries.map key) : entries.filter (key · ≠ path) = entries := by
  refine List.filter_eq_self.mpr fun entry hentry => decide_eq_true ?_
  rintro rfl
  exact h (List.mem_map_of_mem hentry)

namespace Studio

variable {studio : Studio σ} {base : Store} {K K' apart : Location → Prop} {N : String → Prop}

/-- The names taken in two runs are the same, but for some that are taken in the first one. -/
structure TakenBut (N : String → Prop) (taken taken' : List String) : Prop where
  left : ∀ name, N name → name ∈ taken
  same : ∀ name, ¬ N name → (name ∈ taken ↔ name ∈ taken')

section Runs

variable (hfollows : studio.Follows craft) (hcontest : Contest studio.options base K K' apart)

include hfollows hcontest

/-- One script in two runs. Where its name is not contested, or is taken in both runs, it has the
same outcome. -/
theorem exists_releaseScript (hleft : base.Fixes K path) (hright : base.Fixes K' path)
    (htaken : TakenBut N taken taken')
    (hst : RelatedBut craft studio.options base K K' apart N s t) :
    ∃ more more' outcome outcome' s' t',
      studio.releaseScript taken path s = .ok (more, outcome) s' ∧
      studio.releaseScript taken' path t = .ok (more', outcome') t' ∧
      RelatedBut craft studio.options base K K' apart N s' t' ∧
      TakenBut N more more' ∧
      ((∀ name, N name → name ∉ taken' → base.titleOf? path ≠ some name) → outcome = outcome') := by
  have hs := hleft hst.store.left
  have ht := hright hst.store.right
  have hset := hcontest.setting N
  cases hoffer : base.offer path with
  | error e =>
      rw [hoffer] at hs ht
      exact ⟨taken, taken', _, _, s, t, releaseScript_of_offer_error hs,
        releaseScript_of_offer_error ht, hst, htaken, fun _ => rfl⟩
  | ok timeline =>
      rw [hoffer] at hs ht
      by_cases hN : N timeline.name
      · have hmem := htaken.left _ hN
        by_cases hmem' : timeline.name ∈ taken'
        · exact ⟨taken, taken', _, _, s, t, releaseScript_of_mem hs hmem,
            releaseScript_of_mem ht hmem', hst, htaken, fun _ => rfl⟩
        · -- The second run releases the script, and the first one does not.
          have hown : timeline.check = .ok () → ∀ l, studio.options.own timeline.name l →
              studio.options.contested apart N l := fun hcheck l hl =>
            .inr ⟨_, hN, (Timeline.check_eq_ok.mp hcheck).1, hl⟩
          have hst' := (related_release hfollows hset.symm hown hst.symm).symm
          have htitle : base.titleOf? path = some timeline.name := by
            rw [Store.titleOf?, hoffer]
            rfl
          refine ⟨taken, _, _, _, s, _, releaseScript_of_mem hs hmem,
            releaseScript_of_not_mem ht hmem', hst', ⟨htaken.left, ?_⟩,
            fun hsame => absurd htitle (hsame _ hN hmem')⟩
          intro name hname
          have hne : name ≠ timeline.name := by
            rintro rfl
            exact hname hN
          rw [htaken.same name hname, List.mem_cons, or_iff_right hne]
      · by_cases hmem : timeline.name ∈ taken
        · have hmem' := (htaken.same _ hN).mp hmem
          exact ⟨taken, taken', _, _, s, t, releaseScript_of_mem hs hmem,
            releaseScript_of_mem ht hmem', hst, htaken, fun _ => rfl⟩
        · have hmem' := mt (htaken.same _ hN).mpr hmem
          have hagree := agree_release hfollows hset (fun hcheck l hl => hcontest.not_contested hN
            (Timeline.check_eq_ok.mp hcheck).1 hl) hst
          refine ⟨_, _, _, _, _, _, releaseScript_of_not_mem hs hmem,
            releaseScript_of_not_mem ht hmem', hagree.after, ?_,
            fun _ => by rw [hagree.outcomeOf_eq]⟩
          refine ⟨fun name hname => List.mem_cons_of_mem _ (htaken.left name hname), ?_⟩
          intro name hname
          rw [List.mem_cons, List.mem_cons, htaken.same name hname]

/-- A script that one of two runs leaves out. The name that it takes is contested from then on. -/
theorem exists_releaseScript_alone (hleft : base.Fixes K path)
    (htaken : TakenBut (fun _ => False) taken taken')
    (hst : RelatedBut craft studio.options base K K' apart (fun _ => False) s t) :
    ∃ N more outcome s', studio.releaseScript taken path s = .ok (more, outcome) s' ∧
      RelatedBut craft studio.options base K K' apart N s' t ∧
      TakenBut N more taken' ∧ ∀ name, N name → base.titleOf? path = some name := by
  have hs := hleft hst.store.left
  cases hoffer : base.offer path with
  | error e =>
      rw [hoffer] at hs
      exact ⟨_, taken, _, s, releaseScript_of_offer_error hs, hst, htaken, fun _ => False.elim⟩
  | ok timeline =>
      rw [hoffer] at hs
      by_cases hmem : timeline.name ∈ taken
      · exact ⟨_, taken, _, s, releaseScript_of_mem hs hmem, hst, htaken, fun _ => False.elim⟩
      · have hwider := hst.mono (Y := studio.options.contested apart (· = timeline.name))
          fun l hl => hl.imp_right fun ⟨name, hN, _⟩ => hN.elim
        refine ⟨(· = timeline.name), _, _, _, releaseScript_of_not_mem hs hmem,
          related_release hfollows (hcontest.setting _) ?_ hwider, ?_, ?_⟩
        · intro hcheck l hl
          exact .inr ⟨_, rfl, (Timeline.check_eq_ok.mp hcheck).1, hl⟩
        · refine ⟨fun name hname => hname ▸ List.mem_cons_self, fun name hname => ?_⟩
          rw [List.mem_cons, or_iff_right hname, htaken.same name id]
        · rintro name rfl
          rw [Store.titleOf?, hoffer]
          rfl

/-- Some scripts in two runs. They have the same outcomes, but for the first one of each name that
is taken in the first run only. -/
theorem bothEnd_same (hleft : ∀ path ∈ scripts, base.Fixes K path)
    (hright : ∀ path ∈ scripts, base.Fixes K' path) (htaken : TakenBut N taken taken')
    (hst : RelatedBut craft studio.options base K K' apart N s t) :
    studio.BothEnd taken scripts s taken' scripts t fun outcomes outcomes' s' t' =>
      RelatedBut craft studio.options base K K' apart N s' t' ∧
        SameBut (base.Gains N taken' scripts) outcomes outcomes' := by
  induction scripts generalizing taken taken' s t with
  | nil => exact ⟨[], [], s, t, rfl, rfl, hst, .nil⟩
  | cons path rest ih =>
      obtain ⟨hhead, hleft⟩ := List.forall_mem_cons.mp hleft
      obtain ⟨hhead', hright⟩ := List.forall_mem_cons.mp hright
      obtain ⟨more, more', outcome, outcome', s₁, t₁, hs, ht, hst₁, hmore, hsame⟩ :=
        exists_releaseScript hfollows hcontest hhead hhead' htaken hst
      obtain ⟨hsubset, hnamed⟩ := subset_of_releaseScript ht
      rw [hhead'.titleOf?_eq hst.store.right] at hnamed
      refine .both hs ht hst₁ (ih hleft hright hmore) ?_
      rintro outcomes outcomes' s₂ t₂ ⟨hst₂, hothers⟩
      have hrest : SameBut (base.Gains N taken' (path :: rest)) outcomes outcomes' :=
        hothers.mono fun _ hgains => hgains.cons hsubset hnamed
      refine ⟨hst₂, .cons ⟨rfl, fun hnot => hsame fun name hN hfresh htitle => hnot ?_⟩ hrest⟩
      exact ⟨name, hN, hfresh, List.find?_cons_of_pos (decide_eq_true htitle)⟩

/-- Some scripts in a run, and all of them but one in another run. The others have the same
outcomes, but for the one that finds free the name of the missing one. -/
theorem bothEnd_filter (hnodup : scripts.Nodup) (hmem : path ∈ scripts)
    (hleft : ∀ script ∈ scripts, base.Fixes K script)
    (hright : ∀ script ∈ scripts, script ≠ path → base.Fixes K' script)
    (htaken : TakenBut (fun _ => False) taken taken')
    (hst : RelatedBut craft studio.options base K K' apart (fun _ => False) s t) :
    studio.BothEnd taken scripts s taken' (scripts.filter (· ≠ path)) t
      fun outcomes outcomes' s' t' =>
      (∃ N, RelatedBut craft studio.options base K K' apart N s' t') ∧
      SameBut (base.Rivals taken' scripts path) (outcomes.filter (·.1 ≠ path)) outcomes' := by
  induction scripts generalizing taken taken' s t with
  | nil => cases hmem
  | cons script rest ih =>
      obtain ⟨hfresh, hnodup⟩ := List.nodup_cons.mp hnodup
      obtain ⟨hhead, hleft⟩ := List.forall_mem_cons.mp hleft
      obtain ⟨hhead', hright⟩ := List.forall_mem_cons.mp hright
      by_cases hscript : script = path
      · subst hscript
        have hothers : (script :: rest).filter (· ≠ script) = rest := by
          rw [List.filter_cons_of_neg (by simp)]
          exact filter_ne_of_not_mem id (by rwa [List.map_id])
        have hright' : ∀ other ∈ rest, base.Fixes K' other := fun other hother =>
          hright other hother fun hsame => hfresh (hsame ▸ hother)
        rw [hothers]
        obtain ⟨N, more, outcome, s₁, hs, hst₁, hmore, htitle⟩ :=
          exists_releaseScript_alone hfollows hcontest hhead htaken hst
        refine .left hs hst₁ (bothEnd_same hfollows hcontest hleft hright' hmore) ?_
        rintro outcomes outcomes' s₂ t₂ hpaths ⟨hst₂, hsame⟩
        have hkept : ((script, outcome) :: outcomes).filter (·.1 ≠ script) = outcomes := by
          rw [List.filter_cons_of_neg (by simp)]
          exact filter_ne_of_not_mem Prod.fst (by rwa [hpaths])
        rw [hkept]
        exact ⟨⟨N, hst₂⟩, hsame.mono fun _ hgains => hgains.rivals htitle⟩
      · obtain ⟨more, more', outcome, outcome', s₁, t₁, hs, ht, hst₁, hmore, hsame⟩ :=
          exists_releaseScript hfollows hcontest hhead (hhead' hscript) htaken hst
        obtain ⟨hsubset, hnamed⟩ := subset_of_releaseScript ht
        rw [(hhead' hscript).titleOf?_eq hst.store.right] at hnamed
        rw [List.filter_cons_of_pos (by simpa using hscript)]
        have hmem' : path ∈ rest := (List.mem_cons.mp hmem).resolve_left (Ne.symm hscript)
        refine .both hs ht hst₁ (ih hnodup hmem' hleft hright hmore) ?_
        rintro outcomes outcomes' s₂ t₂ ⟨hst₂, hothers⟩
        have hrest : SameBut (base.Rivals taken' (script :: rest) path)
            (outcomes.filter (·.1 ≠ path)) outcomes' :=
          hothers.mono fun _ hrivals => hrivals.cons hsubset hnamed
        refine ⟨hst₂, ?_⟩
        rw [List.filter_cons_of_pos (by simpa using hscript)]
        exact .cons ⟨rfl, fun _ => hsame fun _ hN => hN.elim⟩ hrest

end Runs

end Studio

end Storyboard
