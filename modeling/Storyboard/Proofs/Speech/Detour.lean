import Mathlib
import Storyboard.Proofs.Speech.Agreement

/-!
Detours. One of two runs releases a timeline that the other one leaves out. If all that the timeline
has for its own is set apart, the runs hold the same elsewhere behind it as they did before, and
what can be written in place of the catalogue is the same.
-/

namespace Storyboard

/-! ### Changes that keep stores alike -/

namespace Store

variable {s s' : Store} {D X S B : Location → Prop} {l : Location}

theorem Confined.find?_eq (h : s.Confined D X s') (hX : ¬ X l) (hD : ¬ D l) :
    s'.find? l = s.find? l := by
  cases hs : s.find? l with
  | some n => exact h.node hX hs
  | none =>
      cases hs' : s'.find? l with
      | none => rfl
      | some n =>
          rcases h.added hX hs' with hthere | ⟨_, hmade⟩
          · rw [hs] at hthere
            cases hthere
          · exact absurd hmade hD

theorem Confined.alike (h : s.Confined D X s')
    (hD : ∀ l, ¬ X l → D l → S l ∧ ¬ l.isLocked) : Alike X S s s' := by
  intro l hX
  cases hs : s.find? l with
  | some n => exact .inl (h.node hX hs).symm
  | none =>
      cases hs' : s'.find? l with
      | none => exact .inl rfl
      | some n =>
          rcases h.added hX hs' with hthere | ⟨rfl, hmade⟩
          · rw [hs] at hthere
            cases hthere
          · obtain ⟨hS, hopen⟩ := hD l hX hmade
            exact .inr ⟨hS, hopen, .inl ⟨rfl, rfl⟩⟩

theorem Sets.confined {n : Option Node} (h : Sets l n s s')
    (hdir : s.find? l = some .directory → n = some .directory) : s.Confined D (· = l) s' where
  directory := h.directory hdir
  node hm hn := by rw [h.find?_of_ne hm, hn]
  added hm hn := by
    rw [h.find?_of_ne hm] at hn
    exact .inl hn

/-- A folder and those it lies in are made at its place and in front of it. -/
theorem makesOnly_of_below {B : String → Prop} {path parent name : String}
    (hB : ∀ q, B q → s.Leads q) (hparent : Path.Descends B parent)
    (hbelow : Path.Below parent path name)
    (hplace : Path.place path = Path.place parent ++ [name])
    (hD : ∀ l : Location, l <+: Path.place path → ¬ l.isLocked → D l) : s.MakesOnly D path := by
  intro l hl
  cases hfault : Path.fault? path with
  | none =>
      have hpath := Path.Descends.step hbelow hplace hparent
      exact (find?_of_makeDirectories hB hpath (fun _ => hfault) hl).imp_right
        fun hmade => hD l hmade.1 hmade.2
  | some cause =>
      rw [makeDirectories_of_fault hbelow hfault] at hl
      exact .inl hl

end Store

/-! ### Parties that follow a craft are tidy -/

variable {σ : Type} {craft : Craft} {D X : Location → Prop} {w : World σ}

theorem Act.confined_of_performs {a : Act σ Unit} {l : Location}
    {told : Except Error Unit × Option Node} (h : a.Performs l told w)
    (hdir : w.store.find? l = some .directory → told.2 = some .directory) :
    w.store.Confined D (· = l) (after a w).store := by
  obtain ⟨w', hw', hset⟩ := h
  have hafter : after a w = w' := by
    rw [after, hw']
    obtain ⟨_ | _, _⟩ := told <;> rfl
  rw [hafter]
  exact hset.confined hdir

theorem Synthesizer.Follows.tidy {x : Synthesizer σ} (h : x.Follows craft) : x.Tidy D := by
  intro text voice speech w hfolder
  refine Act.confined_of_performs (h text voice speech w hfolder) fun hl => ?_
  rw [hl]
  exact craft.speaking_directory _ _ _

theorem Studio.Follows.tidy {studio : Studio σ} (h : studio.Follows craft) : studio.Tidy D where
  available w := by
    obtain ⟨w', hw', hstore⟩ := h.available w
    rw [after, hw', ← hstore]
    cases craft.available <;> rfl
  opening w := by
    obtain ⟨w', hstore, hopen⟩ := h.opening w
    cases hopening : craft.opening with
    | ok u =>
        rw [hopening] at hopen
        obtain ⟨x, hx, _⟩ := hopen
        rw [after_of_ok hx, hstore]
    | error e =>
        rw [hopening] at hopen
        have hfailed : studio.openSynthesizer w = .error e w' := hopen
        rw [after, hfailed, ← hstore]
  opened := by
    intro x w w' hx
    obtain ⟨v, _, hopen⟩ := h.opening w
    cases hopening : craft.opening with
    | ok u =>
        rw [hopening] at hopen
        obtain ⟨y, hy, hfollows⟩ := hopen
        rw [hx] at hy
        cases hy
        exact hfollows.tidy
    | error e =>
        rw [hopening] at hopen
        have hfailed : studio.openSynthesizer w = .error e v := hopen
        rw [hx] at hfailed
        cases hfailed
  encoding speech target format w hfolder := by
    refine Act.confined_of_performs (h.encoding speech target format w hfolder) fun hl => ?_
    rw [hl]
    exact craft.encoding_directory _ _ _ _

theorem Session.Follows.tidy {s : Session σ} (h : s.Follows craft) : s.Tidy D :=
  fun x hx => (h x hx).1.tidy

/-! ### What a release may make -/

/-- The folders in which a timeline is released, and those that they lie in. -/
def StudioOptions.folders (o : StudioOptions) (name : String) (l : Location) : Prop :=
  (o.shared l ∨ l = Path.place o.publicRoot ++ ["speech", name]) ∧ ¬ l.isLocked

theorem StudioOptions.outputs_cataloguePath (o : StudioOptions) :
    o.outputs "registry" (Path.place (Studio.cataloguePath o)) :=
  .inr (.inl rfl)

theorem StudioOptions.not_folders_cataloguePath (o : StudioOptions) (name : String) :
    ¬ o.folders name (Path.place (Studio.cataloguePath o)) := by
  have hname : '/' ∉ "registry".toList := by decide
  rintro ⟨hshared | hfolder, _⟩
  · exact not_shared_of_own hname (.inr o.outputs_cataloguePath) hshared
  · rw [Studio.cataloguePath_eq, Studio.place_documentPath hname, o.place_outputFolder] at hfolder
    simp at hfolder

namespace Setting

variable {o : StudioOptions} {base s : Store} {K K' J Y : Location → Prop} {name : String}

theorem opensOnly (h : Setting o base K K' X) (hgrown : base.Grown J s)
    (hname : Timeline.checkName name = .ok ()) :
    Studio.OpensOnly o (o.folders name) Y s name := by
  intro t ht
  have hleads : ∀ q, base.Leads q → t.Leads q :=
    fun q hq => (hgrown.leads hq).mono fun _ => ht.directory
  constructor
  · refine Store.makesOnly_of_below hleads h.descends_speechRoot
      (StudioOptions.below_soundFolder hname) (StudioOptions.place_soundFolder hname) ?_
    intro l hl hopen
    rw [StudioOptions.place_soundFolder hname, List.prefix_concat_iff] at hl
    refine ⟨?_, hopen⟩
    rcases hl with rfl | hl
    · right
      rw [o.place_speechRoot, List.append_assoc]
      rfl
    · exact .inl (.inr hl)
  · obtain ⟨parent, hbelow, hplace, hparent⟩ :=
      h.reaches.exists_below StudioOptions.isName_timelines o.place_outputFolder
    exact Store.makesOnly_of_below hleads hparent hbelow hplace
      fun l hl hopen => ⟨.inl (.inl hl), hopen⟩

end Setting

/-! ### Writing in place of the catalogue -/

variable {s : Session σ} {path folder text : String} {C : Location}

/-- A text that is written does not change where one can write. -/
theorem Act.isWritable_writeText (hparent : Path.parent? path = some folder)
    (hfolder : w.store.MakesOnly D folder) (hC : ¬ D C) :
    (after (writeText path text) w).store.isWritable C = w.store.isWritable C := by
  refine after_writeText (I := fun u => u.isWritable C = w.store.isWritable C) ?_
    fun {u v} hmade hwritten => ?_
  · rw [after_makeParent_eq hparent]
    have hmade : w.store.Confined D (fun _ => False) (w.store.makeDirectories folder).2 :=
      .of_makeDirectories hfolder
    exact Store.isWritable_congr (hmade.find?_eq id hC)
  · obtain ⟨l, hl, hwrite⟩ := Store.write_eq_ok.mp hwritten
    rw [← hmade]
    by_cases hplace : C = l
    · subst hplace
      exact Store.isWritable_of_writeAt hwrite
    · exact Store.isWritable_congr ((Store.changesAt_writeAt hwrite).find?_eq hplace)

namespace Studio

variable {studio : Studio σ} {timeline : Timeline}

/-- A release does not change whether one can write in a place that is no sound. -/
theorem isWritable_release (htidy : studio.Tidy D) (hs : s.Tidy D)
    (hopens : ∀ Y, OpensOnly studio.options D Y s.world.store timeline.name)
    (hC : ¬ D C) (hsound : ¬ C.isAsset) :
    (after (studio.release timeline) s).world.store.isWritable C =
      s.world.store.isWritable C := by
  let Unchanged (s' : Session σ) : Prop := s'.Confined D (fun _ => True) s.world.store ∧
    s'.world.store.isWritable C = s.world.store.isWritable C
  have hunchanged : Unchanged (after (studio.release timeline) s) := by
    refine after_release (I := Unchanged) (fun _ ht => ⟨Build.confined_note ht.1 _, ht.2⟩)
      (fun hcheck => ?_) (fun hcheck {path text u} hpath hu => ?_) ⟨⟨.refl _ _ _, hs⟩, rfl⟩
    · have henrich : Session.Confined D Location.isAsset s.world.store
          (after (studio.enrich timeline) s) :=
        confined_enrich htidy.neat (hopens _) (permits_of_kept hcheck fun _ _ hasset _ => hasset)
          hcheck ⟨.refl _ _ _, hs⟩
      exact ⟨⟨henrich.store.mono fun _ _ => trivial, henrich.tidy⟩,
        Store.isWritable_congr (henrich.store.find?_eq hsound hC)⟩
    · have hname := not_mem_of_checkName (Timeline.check_eq_ok.mp hcheck).1
      have hparent : Path.parent? path = some studio.options.outputFolder := by
        rcases hpath with rfl | rfl
        · exact parent?_documentPath _ hname
        · exact parent?_bundlePath _ hname
      have hfolder : u.world.store.MakesOnly D studio.options.outputFolder :=
        (hopens _ hu.1.store).2
      refine ⟨Build.confined_act hu.1 (Act.confined_writeText hparent hfolder trivial), ?_⟩
      rw [Build.after_act, Act.isWritable_writeText hparent hfolder hC, hu.2]
  exact hunchanged.2

end Studio

/-! ### One run goes on alone -/

section Related

variable {o : StudioOptions} {base : Store} {K K' Y : Location → Prop} {s t : Session σ}

theorem Setting.symm (h : Setting o base K K' X) : Setting o base K' K X :=
  ⟨h.reaches, h.right, h.left, h.shared⟩

theorem Setting.self (h : Setting o base K K' X) : Setting o base K K fun _ => False :=
  ⟨h.reaches, h.left, h.left, fun _ _ => id⟩

theorem Session.Related.symm (h : s.Related craft (Matched o base K K' X) t) :
    t.Related craft (Matched o base K' K X) s :=
  ⟨h.store.symm, h.right, h.left⟩

theorem Session.Related.mono (h : s.Related craft (Matched o base K K' X) t)
    (hXY : ∀ l, X l → Y l) : s.Related craft (Matched o base K K' Y) t :=
  ⟨⟨h.store.left, h.store.right, h.store.alike.mono hXY, h.store.writable⟩, h.left, h.right⟩

theorem Session.Related.self (h : s.Related craft (Matched o base K K' X) t) :
    s.Related craft (Matched o base K K fun _ => False) s :=
  ⟨⟨h.store.left, h.store.left, .refl _ _ _, rfl⟩, h.left, h.left⟩

end Related

namespace Studio

variable {studio : Studio σ} {base : Store} {K K' : Location → Prop} {s t : Session σ}
  {timeline : Timeline}

/-- One run releases a timeline of which all that it has for its own is set apart. The other run
leaves it out. -/
theorem related_release (hfollows : studio.Follows craft) (hset : Setting studio.options base K K' X)
    (hown : timeline.check = .ok () → ∀ l, studio.options.own timeline.name l → X l)
    (hst : s.Related craft (Matched studio.options base K K' X) t) :
    (after (studio.release timeline) s).Related craft (Matched studio.options base K K' X) t := by
  cases hcheck : timeline.check with
  | error fault =>
      have hfailed : after (studio.release timeline) s = s := by
        rw [after, release, releaseOn, hcheck]
        rfl
      rwa [hfailed]
  | ok u =>
      have hname := (Timeline.check_eq_ok.mp hcheck).1
      -- Beside itself, the run that goes on stays what it has to be.
      have hself : (after (studio.release timeline) s).Related craft
          (Matched studio.options base K K fun _ => False) (after (studio.release timeline) s) :=
        (agree_release hfollows hset.self (fun _ _ _ => id) hst.self).after
      have hopens : ∀ Y, OpensOnly studio.options (studio.options.folders timeline.name) Y
          s.world.store timeline.name := fun Y => hset.opensOnly hst.store.left hname
      have hconfined : Session.Confined (studio.options.folders timeline.name) X s.world.store
          (after (studio.release timeline) s) :=
        confined_release hfollows.tidy.neat (hopens X)
          (fun _ => permits_of_outputs hcheck fun l hl => hown hcheck l (.inr hl))
          ⟨.refl _ _ _, hst.left.tidy⟩
      have halike : Store.Alike X studio.options.shared s.world.store
          (after (studio.release timeline) s).world.store := by
        refine hconfined.store.alike ?_
        rintro l hX ⟨hshared | hfolder, hopen⟩
        · exact ⟨hshared, hopen⟩
        · exact absurd (hown hcheck l (.inl hfolder)) hX
      have hcatalogue := ending_documentPath studio.options "registry"
      have hwritable := isWritable_release hfollows.tidy hst.left.tidy hopens
        (studio.options.not_folders_cataloguePath timeline.name)
        (not_isAsset_of_ending (.inl hcatalogue))
      exact ⟨⟨hself.store.left, hst.store.right, halike.symm.trans hst.store.alike,
        hwritable.trans hst.store.writable⟩, hself.left, hst.right⟩

end Studio

end Storyboard
