import Mathlib
import Storyboard.Proofs.Speech.Production

/-!
What stays true of a session, however a build in it ends. A build is made of acts on the world, of
notes, and of the opening of a synthesizer. A property that these keep is kept by production, by a
release and by a whole run; so an invariant is told by what single acts do to it, on any medium.
-/

namespace Storyboard

variable {σ α : Type}

/-! ### Single acts -/

namespace Act

variable {m : Medium σ} {w : World σ} {path folder text : String}

theorem after_makeParentOn_eq (hparent : Path.parent? path = some folder) :
    (after (makeParentOn m path) w).store =
      (w.store.makeDirectoriesAmid folder (m.making folder w)).2 := by
  rw [after, makeParentOn_eq m hparent]
  generalize w.store.makeDirectoriesAmid folder (m.making folder w) = made
  obtain ⟨_ | _, made⟩ := made <;> rfl

theorem after_makeParent_eq (hparent : Path.parent? path = some folder) :
    (after (makeParent path) w).store = (w.store.makeDirectories folder).2 :=
  after_makeParentOn_eq hparent

theorem after_changing (error : FileError → Error) (change : Store → Except FileError Store)
    (w : World σ) : (after (changing error change) w).store = w.store ∨
      change w.store = .ok (after (changing error change) w).store := by
  rw [changing, after, store_bind]
  cases change w.store with
  | ok s => exact .inr rfl
  | error cause => exact .inl rfl

/-- What holds behind the making of the directory, and is kept where the file is written, holds
behind the writing of a text. -/
theorem after_writeText {I : Store → Prop} (hmade : I (after (makeParent path) w).store)
    (hwrite : ∀ {s s' : Store}, I s → s.writeText path text = .ok s' → I s') :
    I (after (writeText path text) w).store := by
  rw [writeText_eq]
  refine after_bind (I := fun w : World σ => I w.store) hmade ?_
  intro _ w₁ _ hmade
  rcases after_changing (.unwritten path) (·.writeText path text) w₁ with hsame | hwritten
  · rw [hsame]
    exact hmade
  · exact hwrite hmade hwritten

end Act

namespace Build

theorem after_store_bind (f : Store → Build σ α) (s : Session σ) :
    after (act Act.store >>= f) s = after (f s.world.store) s :=
  rfl

theorem after_act (a : Act σ α) (s : Session σ) :
    after (act a) s = { s with world := after a s.world } := by
  unfold after act
  cases a s.world <;> rfl

/-- An attempt leaves the session as what is attempted leaves it. -/
theorem after_attempt (b : Build σ α) (s : Session σ) : after b.attempt s = after b s := by
  simp only [attempt, after]
  cases b s <;> rfl

end Build

namespace Studio

variable {studio : Studio σ} {m : Medium σ} {I : Session σ → Prop} {s : Session σ} {a : Asset}

/-- A session has its synthesizer already, or one is opened and kept, or that fails. -/
theorem synthesizer_eq (studio : Studio σ) (a : Asset) (s : Session σ) :
    studio.synthesizer a s =
      match s.synthesizer with
      | some x => .ok x s
      | none =>
        match studio.openSynthesizer s.world with
        | .ok x w => .ok x { s with
            world := w
            synthesizer := some x
            opened := s.opened + 1
            events := s.events ++ [.opened a] }
        | .error e w => .error e { s with world := w } := by
  obtain ⟨world, synthesizer, opened, events⟩ := s
  cases synthesizer with
  | some x => rfl
  | none =>
      change (Build.act studio.openSynthesizer >>= _ : Build σ _) _ = _
      cases hopen : studio.openSynthesizer world with
      | ok x w => exact bind_of_ok (Build.act_of_ok hopen) _
      | error e w =>
          refine bind_of_error ?_ _
          simp only [Build.act, hopen]

/-- What is known of the synthesizer of a session and of one that is opened is known of the one that
speaks. -/
theorem safe_synthesizer {Q : Synthesizer σ → Prop} (hs : I s) (hthere : ∀ x ∈ s.synthesizer, Q x)
    (hopen : ∀ {x w}, studio.openSynthesizer s.world = .ok x w → Q x)
    (hworld : I (after (Build.act studio.openSynthesizer) s))
    (hkept : ∀ {x : Synthesizer σ} {t : Session σ}, Q x → I t → I { t with
      synthesizer := some x
      opened := t.opened + 1
      events := t.events ++ [.opened a] }) :
    Safe I Q (studio.synthesizer a) s := by
  rw [Build.after_act] at hworld
  unfold Safe after
  rw [synthesizer_eq]
  cases hopened : s.synthesizer with
  | some x =>
      refine ⟨hs, ?_⟩
      rintro _ _ ⟨⟩
      exact hthere x hopened
  | none =>
      cases hopening : studio.openSynthesizer s.world with
      | ok x w =>
          rw [after_of_ok hopening] at hworld
          refine ⟨hkept (hopen hopening) hworld, ?_⟩
          rintro _ _ ⟨⟩
          exact hopen hopening
      | error e w =>
          rw [after, hopening, hopened] at hworld
          refine ⟨hworld, ?_⟩
          rintro _ _ ⟨⟩

/-! ### Builds -/

section Builds

-- That an asset is found is a note of its own: it may be told only where the asset is.
variable (hnote : ∀ {t : Session σ} {e : BuildEvent}, (∀ b, e ≠ .cached b) → I t →
  I { t with events := t.events ++ [e] })

include hnote

theorem after_speak {Q : Synthesizer σ → Prop}
    (hmake : ∀ {t : Session σ}, I t → I (after (Build.act (Act.makeParentOn m a.speech)) t))
    (hopen : ¬ s.world.store.contains a.speech → ∀ {t : Session σ}, I t →
      Safe I Q (studio.synthesizer a) t)
    (hspeak : ∀ {x : Synthesizer σ} {t : Session σ}, Q x → I t →
      I (after (Build.act (x.synthesize a.text a.voice a.speech)) t))
    (hs : I s) : I (after (studio.speakOn m a) s) := by
  unfold speakOn
  rw [Build.after_store_bind]
  split
  · exact hs
  · next hmissing =>
      refine after_bind (hnote (fun _ => nofun) hs) fun _ ht => ?_
      refine after_bind (hmake ht) fun {_ t} _ ht => ?_
      have hopening := hopen hmissing ht
      refine after_bind hopening.1 fun hx ht => ?_
      exact after_bind (hspeak (hopening.2 hx) ht) fun _ ht => ht

theorem after_discard
    (hremove : ∀ {u : Store},
      s.world.store.removeAmid a.speech (m.removing a.speech s.world) = .ok u →
        I { s with world := { s.world with store := u } })
    (hs : I s) : I (after (discardOn m a) s) := by
  rw [after, discardOn_eq]
  cases hremoved : s.world.store.removeAmid a.speech (m.removing a.speech s.world) with
  | error cause => exact hnote (e := .kept a cause) (by rintro b ⟨⟩) hs
  | ok u => exact hnote (e := .discarded a) (by rintro b ⟨⟩) (hremove hremoved)

theorem after_produce
    (hcached : s.world.store.contains a.encoded → I { s with events := s.events ++ [.cached a] })
    (hspeak : ¬ s.world.store.contains a.encoded → I (after (studio.speakOn m a) s))
    (hencode : ¬ s.world.store.contains a.encoded → ∀ {origin : Origin} {t : Session σ},
      studio.speakOn m a s = .ok origin t → I t →
        I (after (Build.act (studio.encoder.encode a.speech a.encoded studio.options.format)) t))
    (hremove : ∀ {t : Session σ} {u : Store}, I t →
      t.world.store.removeAmid a.speech (m.removing a.speech t.world) = .ok u →
        I { t with world := { t.world with store := u } }) :
    I (after (studio.produceOn m a) s) := by
  unfold produceOn
  rw [Build.after_store_bind]
  split
  · next hthere => exact hcached hthere
  · next hmissing =>
      refine after_bind (hspeak hmissing) fun hspoken ht => ?_
      refine after_bind (hencode hmissing hspoken ht) fun _ ht => ?_
      exact after_bind (after_discard hnote (hremove ht) ht) fun _ ht => ht

omit hnote in
/-- What the production of each asset keeps, the enrichment of the timeline keeps. -/
theorem after_enrich {t : Timeline}
    (hproduce : ∀ i ∈ t.items, ∀ c ∈ i.speech, ∀ {u : Session σ}, I u →
      I (after (studio.produceOn m (.ofCue studio.options t.name c)) u))
    (hs : I s) : I (after (studio.enrichOn m t) s) := by
  refine after_bind (after_mapM (I := I) (fun i hi {u} hu => ?_) hs) fun _ ht => ht
  refine after_bind (after_mapM (I := I) (fun c hc {u} hu => ?_) hu) fun _ ht => ht
  exact after_bind (hproduce i hi c hc hu) fun _ ht => ht

theorem after_release {t : Timeline}
    (henrich : t.check = .ok () → I (after (studio.enrichOn m t) s))
    (hwrite : t.check = .ok () → ∀ {path text : String} {u : Session σ},
      path = documentPath studio.options t.name ∨ path = bundlePath studio.options t.name →
        I u → I (after (Build.act (Act.writeTextOn m path text)) u))
    (hs : I s) : I (after (studio.releaseOn m t) s) := by
  unfold releaseOn
  cases hcheck : t.check with
  | error fault => exact hs
  | ok u =>
      refine after_bind (henrich hcheck) fun _ ht => ?_
      refine after_bind (hwrite hcheck (.inl rfl) ht) fun _ ht => ?_
      refine after_bind (hwrite hcheck (.inr rfl) ht) fun _ ht => ?_
      exact hnote (fun _ => nofun) ht

/-! ### Runs -/

variable (hrelease : ∀ {t : Timeline} {u : Session σ}, I u → I (after (studio.release t) u))

include hrelease

omit hnote in
theorem after_releaseScript (taken : List String) (path : String) (hs : I s) :
    I (after (studio.releaseScript taken path) s) := by
  unfold releaseScript
  rw [Build.after_store_bind]
  split
  · exact hs
  · split
    · exact hs
    · split
      · exact hs
      · refine after_bind ?_ fun _ ht => ht
        rw [Build.after_attempt]
        exact hrelease hs

theorem after_releaseScripts (taken scripts : List String) (hs : I s) :
    I (after (studio.releaseScripts taken scripts) s) := by
  induction scripts generalizing taken s with
  | nil => exact hs
  | cons path rest ih =>
      unfold releaseScripts
      refine after_bind (after_releaseScript hrelease taken path hs) ?_
      rintro ⟨taken', outcome⟩ t - ht
      -- The rest starts behind the script, with a failure noted before it or not.
      have hrest : ∀ {u : Session σ}, I u → I (after (do
          let outcomes ← studio.releaseScripts taken' rest
          return (path, outcome) :: outcomes) u) :=
        fun hu => after_bind (ih taken' hu) fun _ hv => hv
      cases outcome with
      | ok entry => exact hrest ht
      | error e => exact after_bind (hnote (fun _ => nofun) ht) fun _ hu => hrest hu

/-- What releases keep is kept by a whole run, if the look for the encoder and the writing of the
catalogue keep it as well. -/
theorem after_releaseAll
    (havailable : I (after (Build.act studio.encoder.available) s))
    (hcatalogue : ∀ {text : String} {u : Session σ}, I u →
      I (after (Build.act (Act.writeText (cataloguePath studio.options) text)) u)) :
    I (after studio.releaseAll s) := by
  refine after_bind (after_bind havailable ?_) ?_
  · intro _ t _ ht
    rw [Build.after_store_bind]
    split
    · exact ht
    · exact after_bind (hnote (fun _ => nofun) ht) fun _ ht =>
        after_releaseScripts hnote hrelease _ _ ht
  · intro outcomes t _ ht
    exact after_bind (hcatalogue ht) fun _ ht => hnote (fun _ => nofun) ht

end Builds

end Studio

end Storyboard
