import Mathlib
import Storyboard.Proofs.Json.Record
import Storyboard.Proofs.Json.RoundTrip
import Storyboard.Proofs.Speech.Repetition
import Storyboard.Proofs.Text.Order

/-!
What a run tells about its scripts. Every script is dealt out to the built or to the failed ones; a
name is taken before its timeline is released, so no two built timelines share one, and the
catalogue lists each of them once.
-/

namespace Storyboard

/-! ### Catalogues of distinct names -/

namespace Catalogue

variable {entries others : List CatalogueEntry}

theorem before_iff {a b : CatalogueEntry} : before a b ↔ a.name ≤ b.name := by
  rw [before, Bool.not_eq_true', decide_eq_false_iff_not, String.not_lt]

theorem perm_sorted (entries : List CatalogueEntry) : (sorted entries).Perm entries :=
  List.mergeSort_perm entries before

theorem pairwise_sorted (entries : List CatalogueEntry) :
    (sorted entries).Pairwise fun a b => a.name ≤ b.name := by
  have htrans : ∀ a b c : CatalogueEntry, before a b → before b c → before a c := by
    intro a b c
    simp only [before_iff]
    exact le_trans
  have htotal : ∀ a b : CatalogueEntry, before a b || before b a := by
    intro a b
    rw [Bool.or_eq_true, before_iff, before_iff]
    exact le_total a.name b.name
  exact (List.pairwise_mergeSort htrans htotal entries).imp before_iff.mp

theorem strictly_sorted (hdistinct : (entries.map (·.name)).Nodup) :
    (sorted entries).Pairwise fun a b => a.name < b.name := by
  have hnodup : ((sorted entries).map (·.name)).Nodup :=
    ((perm_sorted entries).map _).nodup_iff.mpr hdistinct
  have hne : (sorted entries).Pairwise fun a b => a.name ≠ b.name := List.pairwise_map.mp hnodup
  exact (pairwise_sorted entries).imp₂ (fun _ _ => lt_of_le_of_ne) hne

/-- Entries of distinct names have one order. -/
theorem sorted_eq_of_perm (hdistinct : (entries.map (·.name)).Nodup)
    (hperm : others.Perm entries) : sorted others = sorted entries := by
  have hothers : (others.map (·.name)).Nodup := (hperm.map _).nodup_iff.mpr hdistinct
  have hsorted : (sorted others).Perm (sorted entries) :=
    (perm_sorted others).trans (hperm.trans (perm_sorted entries).symm)
  refine hsorted.eq_of_pairwise ?_ (strictly_sorted hothers) (strictly_sorted hdistinct)
  intro a b _ _ hab hba
  exact absurd hba (lt_asymm hab)

theorem lastOfName_eq_self (h : entries.Pairwise fun a b => a.name < b.name) :
    lastOfName entries = entries := by
  induction entries using lastOfName.induct with
  | case1 | case2 => rfl
  | case3 e f rest hname =>
      have hlt := List.rel_of_pairwise_cons h List.mem_cons_self
      rw [hname] at hlt
      exact absurd hlt (lt_irrefl _)
  | case4 e f rest hname ih =>
      rw [lastOfName, if_neg hname, ih h.tail]

/-- The catalogue that lists some names, each with its address and as its own title. -/
def listing (names : List String) : Json :=
  .object
    [(some "names", .array (names.map Json.ofString)),
     (some "modules", .array (names.map fun name => Json.ofString (Bundle.address name))),
     (some "titles", .object (names.map fun name => (some name, Json.ofString name)))]

/-- An entry that tells of a timeline with a name. -/
def IsOf (name : String) (e : CatalogueEntry) : Prop :=
  ∃ counts, e = ⟨name, name, Bundle.address name, counts⟩

theorem parse?_document (hdistinct : (entries.map (·.name)).Nodup)
    (hentries : ∀ e ∈ entries, IsOf e.name e) :
    Json.parse? (document entries).toList = some (listing ((sorted entries).map (·.name))) := by
  have hsorted : ∀ e ∈ sorted entries, e.title = e.name ∧ e.address = Bundle.address e.name := by
    intro e he
    obtain ⟨counts, h⟩ := hentries e ((perm_sorted entries).mem_iff.mp he)
    rw [h]
    exact ⟨rfl, rfl⟩
  have haddresses : (sorted entries).map (·.address) =
      (sorted entries).map fun e => Bundle.address e.name :=
    List.map_congr_left fun e he => (hsorted e he).2
  have htitles : (sorted entries).map (fun e => (some e.name, Json.ofString e.title)) =
      (sorted entries).map fun e => (some e.name, Json.ofString e.name) :=
    List.map_congr_left fun e he => by rw [(hsorted e he).1]
  have htext : (document entries).toList = Json.print (.pretty 0) (toJson entries) :=
    String.toList_ofList
  have hvalue : toJson entries = listing ((sorted entries).map (·.name)) := by
    simp only [toJson, lastOfName_eq_self (strictly_sorted hdistinct), haddresses, Json.ofMembers,
      List.filterMap_map, listing, List.map_map]
    simp only [List.filterMap_cons, List.filterMap_nil, Option.map_some, Json.ofStrings,
      List.map_map, Function.comp_def, List.filterMap_eq_map', htitles]
  rw [htext, Json.parse?_print, hvalue]

end Catalogue

/-! ### Dealing out -/

/-- Some scripts, dealt out in order: each of them is built or has failed. -/
inductive Dealt : List String → List CatalogueEntry → List (String × Error) → Prop
  | nil : Dealt [] [] []
  | built {path : String} {scripts : List String} {entry : CatalogueEntry}
      {built : List CatalogueEntry} {failures : List (String × Error)} :
      Dealt scripts built failures → Dealt (path :: scripts) (entry :: built) failures
  | failed {path : String} {scripts : List String} {e : Error} {built : List CatalogueEntry}
      {failures : List (String × Error)} :
      Dealt scripts built failures → Dealt (path :: scripts) built ((path, e) :: failures)

theorem RunReport.dealt (outcomes : List (String × Except Error CatalogueEntry)) (path : String) :
    Dealt (outcomes.map (·.1)) (RunReport.mk outcomes path).built
      (RunReport.mk outcomes path).failures := by
  induction outcomes with
  | nil => exact .nil
  | cons outcome outcomes ih =>
      obtain ⟨script, e | entry⟩ := outcome
      · exact .failed ih
      · exact .built ih

/-! ### Names that are taken -/

/-- The timeline of the script at a path, unless it cannot be read or its name is taken. -/
def Store.accept (s : Store) (taken : List String) (path : String) : Except Error Timeline :=
  match s.readText path with
  | .error cause => .error (.unreadScript path cause)
  | .ok text =>
    match Script.compile text with
    | .error e => .error e
    | .ok t => if t.name ∈ taken then .error (.duplicateName t.name) else .ok t

theorem Store.accept_eq_ok {s : Store} {taken : List String} {path : String} {t : Timeline}
    (h : s.accept taken path = .ok t) :
    ∃ text, s.readText path = .ok text ∧ Script.compile text = .ok t ∧ t.name ∉ taken := by
  unfold accept at h
  split at h
  · cases h
  · next text hread =>
      split at h
      · cases h
      · next t' hcompile =>
          split at h
          · cases h
          · next hfresh =>
              cases h
              exact ⟨text, hread, hcompile, hfresh⟩

/-- Notes that a script has failed, if it has. -/
def Build.noteOutcome {σ : Type} (path : String) : Except Error CatalogueEntry → Build σ Unit
  | .ok _ => pure ()
  | .error e => note (.failed path e)

variable {σ : Type} {s s' : Session σ} {taken taken' scripts : List String} {path : String}

namespace Studio

variable {studio : Studio σ}

/-- A script that is not accepted leaves the session as it is. -/
theorem releaseScript_of_error {e : Error} (h : s.world.store.accept taken path = .error e) :
    studio.releaseScript taken path s = .ok (taken, .error e) s := by
  unfold Store.accept at h
  unfold releaseScript
  rw [Build.act_store_bind]
  split at h
  · next cause hread =>
      cases h
      rw [hread]
      rfl
  · next text hread =>
      rw [hread]
      dsimp only
      split at h
      · next hcompile =>
          cases h
          rw [hcompile]
          rfl
      · next t hcompile =>
          rw [hcompile]
          split at h
          · next htaken =>
              cases h
              simp only [if_pos htaken]
              rfl
          · cases h

/-- The name of an accepted script is taken whether its release succeeds or fails. -/
theorem releaseScript_of_ok {t : Timeline} (h : s.world.store.accept taken path = .ok t) :
    studio.releaseScript taken path s =
      (Build.attempt (studio.release t) >>= fun result =>
        pure (t.name :: taken, result.map (·.2))) s := by
  unfold Store.accept at h
  unfold releaseScript
  rw [Build.act_store_bind]
  split at h
  · cases h
  · next text hread =>
      rw [hread]
      dsimp only
      split at h
      · cases h
      · next t' hcompile =>
          rw [hcompile]
          split at h
          · cases h
          · next hfresh =>
              cases h
              simp only [if_neg hfresh]

theorem isOf_of_release {t : Timeline} {r : Timeline × CatalogueEntry}
    (h : studio.release t s = .ok r s') : Catalogue.IsOf t.name r.2 := by
  obtain ⟨-, enriched, s₁, w, -, hproduced, -, -, -, rfl⟩ := parts_of_release h
  rw [hproduced]
  exact ⟨_, rfl⟩

/-- A script takes at most one name, which was free, and is built under no other name. -/
theorem releaseScript_takes {outcome : Except Error CatalogueEntry}
    (h : studio.releaseScript taken path s = .ok (taken', outcome) s') :
    (∃ e, taken' = taken ∧ outcome = .error e) ∨
    ∃ name, name ∉ taken ∧ taken' = name :: taken ∧
      ∀ entry, outcome = .ok entry → Catalogue.IsOf name entry := by
  cases haccept : s.world.store.accept taken path with
  | error e =>
      rw [releaseScript_of_error haccept] at h
      cases h
      exact .inl ⟨e, rfl, rfl⟩
  | ok t =>
      rw [releaseScript_of_ok haccept] at h
      obtain ⟨result, t', hattempt, h⟩ := bind_eq_ok h
      obtain ⟨hpair, rfl⟩ := pure_eq_ok h
      cases hpair
      obtain ⟨_, _, _, hfresh⟩ := Store.accept_eq_ok haccept
      refine .inr ⟨t.name, hfresh, rfl, ?_⟩
      intro entry hentry
      cases result with
      | error e => cases hentry
      | ok r =>
          cases hentry
          exact isOf_of_release (Build.attempt_eq_ok hattempt)

theorem releaseScripts_cons (path : String) (rest : List String) :
    studio.releaseScripts taken (path :: rest) = (do
      let (taken', outcome) ← studio.releaseScript taken path
      Build.noteOutcome path outcome
      let outcomes ← studio.releaseScripts taken' rest
      return (path, outcome) :: outcomes) := by
  rw [releaseScripts]
  congr 1
  funext result
  obtain ⟨_, outcome⟩ := result
  cases outcome <;> rfl

/-- What a run over some scripts tells about them: an outcome for each of them, and of those that
are built, distinct names that were not taken before. -/
theorem releaseScripts_names {outcomes : List (String × Except Error CatalogueEntry)}
    (h : studio.releaseScripts taken scripts s = .ok outcomes s') (catalogue : String) :
    outcomes.map (·.1) = scripts ∧
      (∀ e ∈ (RunReport.mk outcomes catalogue).built, Catalogue.IsOf e.name e ∧ e.name ∉ taken) ∧
      ((RunReport.mk outcomes catalogue).built.map (·.name)).Nodup := by
  induction scripts generalizing taken s outcomes with
  | nil =>
      obtain ⟨rfl, _⟩ := pure_eq_ok h
      exact ⟨rfl, List.forall_mem_nil _, List.nodup_nil⟩
  | cons path rest ih =>
      obtain ⟨taken', outcome, s₁, events, others, hscript, hothers, rfl⟩ :=
        releaseScripts_cons_eq_ok h
      obtain ⟨hpaths, hof, hdistinct⟩ := ih hothers
      have hpaths' : ((path, outcome) :: others).map (·.1) = path :: rest := by
        rw [List.map_cons, hpaths]
      refine ⟨hpaths', ?_⟩
      rcases releaseScript_takes hscript with ⟨e, rfl, rfl⟩ | ⟨name, hfresh, rfl, hentry⟩
      · exact ⟨hof, hdistinct⟩
      · have hlater : ∀ e ∈ (RunReport.mk others catalogue).built,
            Catalogue.IsOf e.name e ∧ e.name ∉ taken := by
          intro e he
          exact ⟨(hof e he).1, fun htaken => (hof e he).2 (List.mem_cons_of_mem name htaken)⟩
        cases outcome with
        | error e => exact ⟨hlater, hdistinct⟩
        | ok entry =>
            have hbuilt : (RunReport.mk ((path, .ok entry) :: others) catalogue).built =
                entry :: (RunReport.mk others catalogue).built := rfl
            obtain ⟨counts, rfl⟩ := hentry entry rfl
            rw [hbuilt]
            refine ⟨List.forall_mem_cons.mpr ⟨⟨⟨counts, rfl⟩, hfresh⟩, hlater⟩, ?_⟩
            refine List.nodup_cons.mpr ⟨?_, hdistinct⟩
            rintro hmem
            obtain ⟨e, he, hname⟩ := List.mem_map.mp hmem
            have hlaterName := (hof e he).2
            rw [hname] at hlaterName
            exact hlaterName List.mem_cons_self

end Studio

/-! ### The report of a run -/

theorem Act.wrote_of_writeText {w w' : World σ} {text : String}
    (h : writeText path text w = .ok () w') : w'.store.Wrote path text := by
  rw [writeText_eq] at h
  obtain ⟨_, w₁, _, h⟩ := bind_eq_ok h
  exact Store.wrote_of_write (changing_eq_ok h)

namespace Studio

variable {studio : Studio σ} {report : RunReport}

/-- With an encoder that is available, a run is one over the scripts that it discovers. -/
theorem releaseAll_of_discover {w : World σ}
    (havailable : studio.encoder.available s.world = .ok () w)
    (hdiscover : Script.discover w.store studio.options.scriptFolder = .ok scripts) :
    studio.releaseAll s = (studio.releaseScripts [] scripts >>= studio.catalogue)
      { s with world := w, events := s.events ++ [.started scripts.length] } := by
  have hfolder : studio.releaseFolder s = studio.releaseScripts [] scripts
      { s with world := w, events := s.events ++ [.started scripts.length] } := by
    rw [releaseFolder, bind_of_ok (Build.act_of_ok havailable), Build.act_store_bind]
    simp only [hdiscover]
    rfl
  change EStateM.bind _ _ s = EStateM.bind _ _ _
  simp only [EStateM.bind, hfolder]

theorem exists_of_discover (studio : Studio σ) {w : World σ} {β : Type} (tell : RunReport → β)
    (told : β)
    (havailable : studio.encoder.available s.world = .ok () w)
    (hdiscover : Script.discover w.store studio.options.scriptFolder = .ok scripts)
    (htold : ((studio.releaseScripts [] scripts >>= studio.catalogue).run'
      { s with world := w, events := s.events ++ [.started scripts.length] }).map tell =
        some told) :
    ∃ report s', studio.releaseAll s = .ok report s' ∧ tell report = told := by
  obtain ⟨report, hreport, hresult⟩ := Option.map_eq_some_iff.mp htold
  obtain ⟨s', hs'⟩ := exists_of_run'_eq_some hreport
  exact ⟨report, s', (releaseAll_of_discover havailable hdiscover).trans hs', hresult⟩

/-- A run that ends with a report has found its scripts with an encoder that was available. -/
theorem exists_of_releaseAll (hrun : studio.releaseAll s = .ok report s') :
    ∃ w scripts, studio.encoder.available s.world = .ok () w ∧
      Script.discover w.store studio.options.scriptFolder = .ok scripts := by
  obtain ⟨_, _, hfolder, _⟩ := bind_eq_ok hrun
  obtain ⟨_, s₁, havailable, hfolder⟩ := bind_eq_ok hfolder
  obtain ⟨w, hw, rfl⟩ := Build.act_eq_ok havailable
  rw [Build.act_store_bind] at hfolder
  cases hdiscover : Script.discover w.store studio.options.scriptFolder with
  | error e =>
      simp only [hdiscover] at hfolder
      cases hfolder
  | ok scripts => exact ⟨w, scripts, hw, hdiscover⟩

/-- The report of a run accounts for the scripts that it has found: every one of them is built or
has failed, in their order. The built ones have distinct names, and the catalogue that is written
lists exactly these by their bytes, whatever the order of the entries was. -/
theorem releaseAll_accounts (hrun : studio.releaseAll s = .ok report s') :
    (∃ w scripts, studio.encoder.available s.world = .ok () w ∧
      Script.discover w.store studio.options.scriptFolder = .ok scripts ∧
      report.outcomes.map (·.1) = scripts ∧ Dealt scripts report.built report.failures) ∧
    (report.built.map (·.name)).Nodup ∧
    (∃ names, names.Perm (report.built.map (·.name)) ∧
      names.Pairwise (fun a b => Text.bytes a < Text.bytes b) ∧
      Json.parse? (Catalogue.document report.built).toList = some (Catalogue.listing names)) ∧
    (∀ others, others.Perm report.built →
      Catalogue.document others = Catalogue.document report.built) ∧
    report.cataloguePath = cataloguePath studio.options ∧
    s'.world.store.Holds report.cataloguePath (Catalogue.document report.built) := by
  obtain ⟨w, scripts, havailable, hdiscover⟩ := exists_of_releaseAll hrun
  rw [releaseAll_of_discover havailable hdiscover] at hrun
  obtain ⟨outcomes, s₁, hscripts, hrun⟩ := bind_eq_ok hrun
  obtain ⟨_, s₂, hwrite, hrun⟩ := bind_eq_ok hrun
  obtain ⟨w₂, hw₂, rfl⟩ := Build.act_eq_ok hwrite
  rw [Build.note_bind] at hrun
  obtain ⟨rfl, rfl⟩ := pure_eq_ok hrun
  obtain ⟨hpaths, hof, hdistinct⟩ := releaseScripts_names hscripts (cataloguePath studio.options)
  have hdealt := RunReport.dealt outcomes (cataloguePath studio.options)
  rw [hpaths] at hdealt
  refine ⟨⟨w, scripts, havailable, hdiscover, hpaths, hdealt⟩, hdistinct, ?_, ?_, rfl,
    (Act.wrote_of_writeText hw₂).holds⟩
  · refine ⟨_, (Catalogue.perm_sorted _).map _, ?_,
      Catalogue.parse?_document hdistinct fun e he => (hof e he).1⟩
    exact List.pairwise_map.mpr ((Catalogue.strictly_sorted hdistinct).imp Text.bytes_lt)
  · intro others hperm
    rw [Catalogue.document, Catalogue.document, Catalogue.toJson, Catalogue.toJson,
      Catalogue.sorted_eq_of_perm hdistinct hperm]

/-- A folder of scripts of which the second repeats a name and the third needs speech. -/
def fourScripts : Store :=
  ((((Store.empty.put ["t"] .directory).put ["t", "a.timeline"]
    (.file "timeline: b\ncard \"A\"\n".toUTF8 false)).put ["t", "b.timeline"]
    (.file "timeline: b\ncard \"B\"\n".toUTF8 false)).put ["t", "c.timeline"]
    (.file "timeline: c\ncard \"C\"\n  say \"hi\"\n".toUTF8 false)).put ["t", "d.timeline"]
    (.file "timeline: a\ncard \"D\"\n".toUTF8 false)

theorem discover_fourScripts : Script.discover fourScripts "t" =
    .ok ["t/a.timeline", "t/b.timeline", "t/c.timeline", "t/d.timeline"] :=
  Script.discover_of_pairwise ["t"] ["a.timeline", "b.timeline", "c.timeline", "d.timeline"]
    (by decide +kernel) (by decide +kernel) (by decide +kernel) (by decide +kernel)
    (by decide +kernel)

/-- Where nothing can be made, the timelines without speech are built and listed. -/
theorem releaseAll_accounts_fourScripts :
    ∃ report s', resting.releaseAll (.start ⟨fourScripts, ()⟩) = .ok report s' ∧
      report.built.map (·.name) = ["b", "a"] ∧
      report.failures.map (·.1) = ["t/b.timeline", "t/c.timeline"] ∧
      Json.parse? (Catalogue.document report.built).toList =
        some (Catalogue.listing ["a", "b"]) := by
  obtain ⟨report, s', hs', htold⟩ := exists_of_discover (s := .start ⟨fourScripts, ()⟩) resting
    (fun report => (report.built.map (·.name), report.failures.map (·.1)))
    (["b", "a"], ["t/b.timeline", "t/c.timeline"]) rfl discover_fourScripts (by decide +kernel)
  obtain ⟨hbuilt, hfailures⟩ := Prod.mk.inj htold
  obtain ⟨_, _, ⟨names, hperm, hsorted, hparse⟩, _⟩ := releaseAll_accounts hs'
  refine ⟨report, s', hs', hbuilt, hfailures, ?_⟩
  rw [hbuilt] at hperm
  have hnames : names = ["a", "b"] := by
    refine (hperm.trans (.swap "a" "b" [])).eq_of_pairwise ?_ hsorted ?_
    · intro a b _ _ hab hba
      exact absurd hba (List.lt_asymm hab)
    · exact List.pairwise_pair.mpr (Text.bytes_lt (by decide))
  rw [hparse, hnames]

end Studio

end Storyboard
