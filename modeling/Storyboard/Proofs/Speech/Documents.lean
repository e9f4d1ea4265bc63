import Mathlib
import Storyboard.Proofs.Speech.Footprint

/-!
What a run has written in the end. Names are taken once, so each built timeline finds its document
and its bundle as it has written them; the catalogue is written last, in place of the document of a
timeline that bears its name.
-/

namespace Storyboard

variable {σ : Type} {s s' : Session σ}

/-- Directories may be made anywhere. -/
abbrev Location.anywhere (_ : Location) : Prop :=
  True

theorem Store.makesOnly_anywhere {s : Store} {folder : String} :
    s.MakesOnly Location.anywhere folder :=
  fun _ => .inr trivial

namespace Studio

variable {studio : Studio σ}

theorem opensOnly_anywhere {o : StudioOptions} {X : Location → Prop} {before : Store}
    {name : String} : OpensOnly o Location.anywhere X before name :=
  fun _ => ⟨Store.makesOnly_anywhere, Store.makesOnly_anywhere⟩

/-- The document and the bundle of a name are two files. -/
theorem place_documentPath_ne (o : StudioOptions) (name : String) :
    Path.place (documentPath o name) ≠ Path.place (bundlePath o name) := by
  intro hsame
  have hending := ending_documentPath o name
  rw [hsame, ending_bundlePath] at hending
  exact absurd hending (by decide)

/-- A release that succeeds has written the document and the bundle of the produced timeline. -/
theorem wrote_of_release {t : Timeline} {r : Timeline × CatalogueEntry}
    (h : studio.release t s = .ok r s') :
    t.check = .ok () ∧
      s'.world.store.Wrote (documentPath studio.options t.name)
        (t.produced studio.options.format).document ∧
      s'.world.store.Wrote (bundlePath studio.options t.name)
        (Bundle.text (t.produced studio.options.format)) := by
  obtain ⟨hcheck, enriched, s₁, w, -, hproduced, hdocument, hbundle, -, -⟩ := parts_of_release h
  have hname := not_mem_of_checkName (Timeline.check_eq_ok.mp hcheck).1
  rw [hproduced] at hdocument hbundle
  refine ⟨hcheck, ?_, Act.wrote_of_writeText hbundle⟩
  have hkept : w.store.Confined Location.anywhere
      (· = Path.place (bundlePath studio.options t.name)) s'.world.store := by
    rw [← after_of_ok hbundle]
    exact Act.confined_writeText (parent?_bundlePath _ hname) Store.makesOnly_anywhere rfl
  exact hkept.wrote (place_documentPath_ne studio.options t.name)
    (Act.wrote_of_writeText hdocument)

/-- Where the timelines are released whose names are not taken yet. -/
def outputsBeside (o : StudioOptions) (taken : List String) (l : Location) : Prop :=
  ∃ name, name ∉ taken ∧ Timeline.checkName name = .ok () ∧ o.outputs name l

theorem not_outputsBeside {o : StudioOptions} {taken : List String} {name : String} {l : Location}
    (hname : Timeline.checkName name = .ok ()) (hl : o.outputs name l) :
    ¬ outputsBeside o (name :: taken) l := by
  rintro ⟨other, hother, hcheck, hl'⟩
  have hsame := StudioOptions.eq_of_outputs (not_mem_of_checkName hname)
    (not_mem_of_checkName hcheck) hl hl'
  exact hother (hsame ▸ List.mem_cons_self)

/-- The script at a path stands for a timeline, whose document and bundle are there. -/
def Documented (o : StudioOptions) (s : Store) (path : String) (t : Timeline) : Prop :=
  (∃ text, s.readText path = .ok text ∧ Script.compile text = .ok t) ∧
    s.Wrote (documentPath o t.name) (t.produced o.format).document ∧
    s.Wrote (bundlePath o t.name) (Bundle.text (t.produced o.format))

theorem Documented.confined {o : StudioOptions} {store store' : Store} {X : Location → Prop}
    {path : String} {t : Timeline} (h : Documented o store path t)
    (hkept : store.Confined Location.anywhere X store') (hplace : ¬ X (Path.place path))
    (hX : ∀ l, o.outputs t.name l → ¬ X l) : Documented o store' path t := by
  obtain ⟨⟨text, hread, hcompile⟩, hdocument, hbundle⟩ := h
  exact ⟨⟨text, hkept.readText hplace hread, hcompile⟩,
    hkept.wrote (hX _ (.inr (.inl rfl))) hdocument, hkept.wrote (hX _ (.inr (.inr rfl))) hbundle⟩

variable {taken taken' scripts : List String} {path : String}

theorem not_outputsBeside_script {o : StudioOptions} (hplace : Script.isPlace (Path.place path)) :
    ¬ outputsBeside o taken (Path.place path) := by
  rintro ⟨name, _, _, hl⟩
  rw [StudioOptions.isPlace_of_outputs hl] at hplace
  cases hplace

/-- A script touches nothing that is released under the names that are taken. If it is built, its
name is free before and taken behind it, and its document is there. -/
theorem releaseScript_documents (htidy : studio.Tidy Location.anywhere)
    (hs : s.Tidy Location.anywhere) (hplace : Script.isPlace (Path.place path))
    {outcome : Except Error CatalogueEntry}
    (h : studio.releaseScript taken path s = .ok (taken', outcome) s') :
    s'.Confined Location.anywhere (outputsBeside studio.options taken) s.world.store ∧
      taken ⊆ taken' ∧ ∀ e, outcome = .ok e → ∃ t, e.name = t.name ∧ t.name ∉ taken ∧
        taken' = t.name :: taken ∧ Timeline.checkName t.name = .ok () ∧
        Documented studio.options s'.world.store path t := by
  cases haccept : s.world.store.accept taken path with
  | error cause =>
      rw [releaseScript_of_error haccept] at h
      cases h
      refine ⟨⟨.refl _ _ _, hs⟩, List.Subset.refl _, ?_⟩
      rintro _ ⟨⟩
  | ok t =>
      rw [releaseScript_of_ok haccept] at h
      obtain ⟨text, hread, hcompile, hfresh⟩ := Store.accept_eq_ok haccept
      obtain ⟨result, s₁, hattempt, h⟩ := bind_eq_ok h
      obtain ⟨hpair, rfl⟩ := pure_eq_ok h
      cases hpair
      have hafter : after (studio.release t) s = s' := by
        rw [← Build.after_attempt, after_of_ok hattempt]
      have hkept : s'.Confined Location.anywhere (outputsBeside studio.options taken)
          s.world.store := by
        rw [← hafter]
        refine confined_release htidy.neat opensOnly_anywhere ?_ ⟨.refl _ _ _, hs⟩
        intro hcheck
        refine permits_of_outputs hcheck ?_
        intro l hl
        exact ⟨t.name, hfresh, (Timeline.check_eq_ok.mp hcheck).1, hl⟩
      refine ⟨hkept, List.subset_cons_self _ _, ?_⟩
      intro e he
      cases result with
      | error cause => cases he
      | ok r =>
          cases he
          have hrelease := Build.attempt_eq_ok hattempt
          obtain ⟨counts, hentry⟩ := isOf_of_release hrelease
          obtain ⟨hcheck, hdocument, hbundle⟩ := wrote_of_release hrelease
          exact ⟨t, congrArg CatalogueEntry.name hentry, hfresh, rfl, (Timeline.check_eq_ok.mp hcheck).1,
            ⟨text, hkept.store.readText (not_outputsBeside_script hplace) hread, hcompile⟩,
            hdocument, hbundle⟩

/-- A run over some scripts touches nothing that is released under the names that are taken, and
the documents of all scripts that it builds are there in the end. -/
theorem releaseScripts_documents (htidy : studio.Tidy Location.anywhere)
    (hs : s.Tidy Location.anywhere)
    (hplaces : ∀ path ∈ scripts, Script.isPlace (Path.place path))
    {outcomes : List (String × Except Error CatalogueEntry)}
    (h : studio.releaseScripts taken scripts s = .ok outcomes s') :
    s'.Confined Location.anywhere (outputsBeside studio.options taken) s.world.store ∧
      ∀ path e, (path, .ok e) ∈ outcomes → Script.isPlace (Path.place path) ∧
        ∃ t, e.name = t.name ∧ t.name ∉ taken ∧ Timeline.checkName t.name = .ok () ∧
          Documented studio.options s'.world.store path t := by
  induction scripts generalizing taken s outcomes with
  | nil =>
      obtain ⟨rfl, rfl⟩ := pure_eq_ok h
      exact ⟨⟨.refl _ _ _, hs⟩, fun path e he => by cases he⟩
  | cons path rest ih =>
      obtain ⟨hplace, hrest⟩ := List.forall_mem_cons.mp hplaces
      obtain ⟨taken', outcome, s₁, events, others, hscript, hothers, rfl⟩ :=
        releaseScripts_cons_eq_ok h
      obtain ⟨hkept, htaken, hbuilt⟩ := releaseScript_documents htidy hs hplace hscript
      obtain ⟨hkept', hdocuments⟩ := ih (s := { s₁ with events }) hkept.tidy hrest hothers
      refine ⟨⟨hkept.store.trans (hkept'.store.mono ?_), hkept'.tidy⟩, ?_⟩
      · rintro l ⟨name, hname, hl⟩
        exact ⟨name, fun hmem => hname (htaken hmem), hl⟩
      · intro path' e he
        rcases List.mem_cons.mp he with hhead | htail
        · cases hhead
          obtain ⟨t, hname, hfresh, rfl, hcheck, hdocumented⟩ := hbuilt e rfl
          exact ⟨hplace, t, hname, hfresh, hcheck, hdocumented.confined hkept'.store
            (not_outputsBeside_script hplace) fun l hl => not_outputsBeside hcheck hl⟩
        · obtain ⟨hplace', t, hname, hfresh, hrest⟩ := hdocuments path' e htail
          exact ⟨hplace', t, hname, fun hmem => hfresh (htaken hmem), hrest⟩

/-- Outputs do not get in each other's way: after a run, for every script that it has built, the
document of the timeline holds the produced timeline, unless the timeline bears the name of the
catalogue, its bundle holds its bundle, and the catalogue holds the list of what was built. Of the
parties it is assumed that they touch no file but the one they are called for. -/
theorem releaseAll_documents {report : RunReport} (htidy : studio.Tidy Location.anywhere)
    (hsession : s.Tidy Location.anywhere) (hrun : studio.releaseAll s = .ok report s') :
    (∀ path e, (path, .ok e) ∈ report.outcomes → ∃ text t,
      s'.world.store.readText path = .ok text ∧ Script.compile text = .ok t ∧ e.name = t.name ∧
      (t.name ≠ "registry" → s'.world.store.Holds (documentPath studio.options t.name)
        (t.produced studio.options.format).document) ∧
      s'.world.store.Holds (bundlePath studio.options t.name)
        (Bundle.text (t.produced studio.options.format))) ∧
    s'.world.store.Holds report.cataloguePath (Catalogue.document report.built) := by
  obtain ⟨w, scripts, havailable, hdiscover⟩ := exists_of_releaseAll hrun
  rw [releaseAll_of_discover havailable hdiscover] at hrun
  obtain ⟨outcomes, s₁, hscripts, hrun⟩ := bind_eq_ok hrun
  obtain ⟨_, s₂, hwrite, hrun⟩ := bind_eq_ok hrun
  obtain ⟨w₂, hw₂, rfl⟩ := Build.act_eq_ok hwrite
  rw [Build.note_bind] at hrun
  obtain ⟨rfl, rfl⟩ := pure_eq_ok hrun
  refine ⟨?_, (Act.wrote_of_writeText hw₂).holds⟩
  obtain ⟨_, hdocuments⟩ := releaseScripts_documents (s := { s with world := w, events := _ }) htidy
    hsession (Script.isPlace_of_mem_discover hdiscover) hscripts
  have hcatalogue : s₁.world.store.Confined Location.anywhere
      (· = Path.place (cataloguePath studio.options)) w₂.store := by
    rw [← after_of_ok hw₂]
    exact Act.confined_writeText (parent?_cataloguePath _) Store.makesOnly_anywhere rfl
  intro path e he
  obtain ⟨hplace, t, hname, _, hcheck, ⟨text, hread, hcompile⟩, hdocument, hbundle⟩ :=
    hdocuments path e he
  have hslash := not_mem_of_checkName hcheck
  have hregistry : studio.options.outputs "registry" (Path.place (cataloguePath studio.options)) :=
    .inr (.inl rfl)
  refine ⟨text, t, hcatalogue.readText ?_ hread, hcompile, hname, ?_, ?_⟩
  · intro hsame
    rw [hsame, StudioOptions.isPlace_of_outputs hregistry] at hplace
    cases hplace
  · intro hother
    refine (hcatalogue.wrote ?_ hdocument).holds
    intro hsame
    exact hother (documentPath_injective hslash (by decide) hsame)
  · refine (hcatalogue.wrote ?_ hbundle).holds
    intro hsame
    have hending := ending_bundlePath studio.options t.name
    rw [hsame, cataloguePath_eq, ending_documentPath] at hending
    exact absurd hending (by decide)

theorem tidy_resting : resting.Tidy Location.anywhere where
  available _ := rfl
  opening _ := rfl
  opened h := by cases h
  encoding _ _ _ _ _ := .refl _ _ _

/-- Two timelines are built from four scripts, and both have their documents. -/
theorem releaseAll_documents_fourScripts :
    ∃ report s', resting.releaseAll (.start ⟨fourScripts, ()⟩) = .ok report s' ∧
      report.built.map (·.name) = ["b", "a"] ∧
      (∀ name ∈ ["b", "a"], ∃ t : Timeline, t.name = name ∧
        s'.world.store.Holds (documentPath resting.options name) (t.produced .opus).document) ∧
      s'.world.store.Holds report.cataloguePath (Catalogue.document report.built) := by
  obtain ⟨report, s', hs', hbuilt⟩ := exists_of_discover (s := .start ⟨fourScripts, ()⟩) resting
    (fun report => report.built.map (·.name)) ["b", "a"] rfl discover_fourScripts (by decide +kernel)
  have hsession : (Session.start ⟨fourScripts, ()⟩ : Session Unit).Tidy Location.anywhere := by
    rintro x ⟨⟩
  obtain ⟨hdocuments, hcatalogue⟩ := releaseAll_documents tidy_resting hsession hs'
  refine ⟨report, s', hs', hbuilt, ?_, hcatalogue⟩
  intro name hname
  have hregistry : name ≠ "registry" := by
    rintro rfl
    exact absurd hname (by decide)
  rw [← hbuilt] at hname
  obtain ⟨e, he, rfl⟩ := List.mem_map.mp hname
  obtain ⟨⟨path, outcome⟩, houtcome, hok⟩ := List.mem_filterMap.mp he
  cases outcome with
  | error cause => cases hok
  | ok entry =>
      cases hok
      obtain ⟨text, t, _, _, hsame, hdocument, _⟩ := hdocuments path e houtcome
      rw [hsame] at hregistry ⊢
      exact ⟨t, rfl, hdocument hregistry⟩

def registryScript : String :=
  "timeline: registry\ncard \"A\"\n"

/-- A folder with one script, whose timeline is named like the catalogue. -/
def oneRegistry : Store :=
  (Store.empty.put ["t"] .directory).put ["t", "a.timeline"] (.file registryScript.toUTF8 false)

/-- The document of a timeline that is named like the catalogue is lost: the run reports no failure
and lists the timeline, but where its document should be, there is the list. -/
theorem releaseAll_documents_fails :
    ∃ t report s', Script.compile registryScript = .ok t ∧
      resting.releaseAll (.start ⟨oneRegistry, ()⟩) = .ok report s' ∧
      report.failures = [] ∧ report.built.map (·.name) = [t.name] ∧
      ¬ s'.world.store.Holds (documentPath resting.options t.name)
        (t.produced resting.options.format).document := by
  have hrun : (resting.releaseAll.run' (.start ⟨oneRegistry, ()⟩)).map
      (fun report => (report.failures, report.built.map (·.name))) = some ([], ["registry"]) := by
    decide +kernel
  have hlost : (Script.compile registryScript).toOption.map (fun t =>
      (t.name, decide ((after resting.releaseAll (.start ⟨oneRegistry, ()⟩)).world.store.Holds
        (documentPath resting.options t.name) (t.produced resting.options.format).document))) =
      some ("registry", false) := by
    decide +kernel
  obtain ⟨report, hreport, htold⟩ := Option.map_eq_some_iff.mp hrun
  obtain ⟨hfailures, hbuilt⟩ := Prod.mk.inj htold
  obtain ⟨s', hs'⟩ := exists_of_run'_eq_some hreport
  obtain ⟨t, hcompile, hname⟩ := Option.map_eq_some_iff.mp hlost
  obtain ⟨hname, hlost⟩ := Prod.mk.inj hname
  rw [after_of_ok hs', decide_eq_false_iff_not] at hlost
  refine ⟨t, report, s', ?_, hs', hfailures, hname ▸ hbuilt, hlost⟩
  cases h : Script.compile registryScript with
  | error e =>
      rw [h] at hcompile
      cases hcompile
  | ok t' =>
      rw [h] at hcompile
      cases hcompile
      rfl

end Studio

end Storyboard
