import Mathlib
import Storyboard.Proofs.Speech.Contest

/-!
Failures stay where they are. A script that has failed can be taken away, and every other script of
the folder has the outcome that it had, but for one that finds free the name that the failed one
had taken.
-/

namespace Storyboard

variable {σ : Type} {craft : Craft} {s s' t : Session σ} {scripts : List String} {path : String}

namespace Studio

variable {studio : Studio σ} {base : Store} {K K' : Location → Prop}

/-! ### The catalogues of two runs -/

variable {X : Location → Prop} {outcomes : List (String × Except Error CatalogueEntry)}
  {report : RunReport}

/-- Where one run writes its catalogue, both of them have the folder for it. -/
theorem exists_outputFolder (hset : Setting studio.options base K K' X)
    (hst : s.Related craft (Matched studio.options base K K' X) t)
    (h : studio.catalogue outcomes s = .ok report s') :
    ∃ w w' : World σ, ∃ u, Act.makeParent (cataloguePath studio.options) t.world = .ok () w' ∧
      MatchedIn studio.options.outputFolder studio.options base K K' X w.store w'.store ∧
      w.store.writeText (cataloguePath studio.options)
        (Catalogue.document (RunReport.mk outcomes (cataloguePath studio.options)).built) = .ok u := by
  obtain ⟨_, s₁, hwrite, _⟩ := bind_eq_ok h
  obtain ⟨w₁, hw₁, rfl⟩ := Build.act_eq_ok hwrite
  rw [Act.writeText_eq] at hw₁
  obtain ⟨_, w, hparent, hchange⟩ := bind_eq_ok hw₁
  have hfolder : (s.world.store.makeDirectories studio.options.outputFolder).1 =
      (t.world.store.makeDirectories studio.options.outputFolder).1 ∧
      Matched studio.options base K K' X
        (s.world.store.makeDirectories studio.options.outputFolder).2
        (t.world.store.makeDirectories studio.options.outputFolder).2 := hset.outputFolder hst.store
  obtain ⟨w', hparent', hmatched⟩ :=
    (Act.agree_makeParent (parent?_cataloguePath studio.options) hfolder).of_ok hparent
  exact ⟨w, w', _, hparent', hmatched, Act.changing_eq_ok hchange⟩

/-- Where one run can write its catalogue, the other one can write its own. -/
theorem exists_catalogue (hset : Setting studio.options base K K' X)
    (hst : s.Related craft (Matched studio.options base K K' X) t)
    (h : studio.catalogue outcomes s = .ok report s')
    (outcomes' : List (String × Except Error CatalogueEntry)) :
    ∃ t', studio.catalogue outcomes' t = .ok ⟨outcomes', cataloguePath studio.options⟩ t' := by
  obtain ⟨w, w', u, hparent, ⟨hmatched, hs, ht⟩, hwrite⟩ := exists_outputFolder hset hst h
  have hbelow : Path.Below studio.options.outputFolder (cataloguePath studio.options)
      "registry.json" :=
    Path.below_join_join _ StudioOptions.isName_timelines ⟨by decide, by decide, by decide⟩
  obtain ⟨u', hu'⟩ := hmatched.exists_write hbelow hs.leads ht.leads
    (Catalogue.document_nonempty _)
    (Catalogue.document_nonempty (RunReport.mk outcomes' (cataloguePath studio.options)).built)
    hwrite
  have hwrite' : Act.writeText (cataloguePath studio.options)
      (Catalogue.document (RunReport.mk outcomes' (cataloguePath studio.options)).built) t.world =
      .ok () { w' with store := u' } := by
    rw [Act.writeText_eq, bind_of_ok hparent]
    exact Act.changing_of_ok hu'
  exact ⟨_, (bind_of_ok (Build.act_of_ok hwrite') _).trans rfl⟩

/-- Where a run has written its catalogue, no script is in place of what is shared. -/
theorem not_shared_of_catalogue (hset : Setting studio.options base K K' X)
    (hst : s.Related craft (Matched studio.options base K K' X) t)
    (h : studio.catalogue outcomes s = .ok report s') {l : Location} (hl : K l)
    {content : ByteArray} {isProgram : Bool}
    (hfile : base.find? l = some (.file content isProgram)) : ¬ studio.options.shared l := by
  obtain ⟨w, _, _, _, ⟨hmatched, hs, _⟩, _⟩ := exists_outputFolder hset hst h
  have hthere : w.store.find? l = some (.file content isProgram) := by
    rw [hmatched.left.kept hl (by rw [hfile]; rfl), hfile]
  have hdir := hs.leads.2
  have hapart : ¬ l <+: Path.place studio.options.outputFolder := by
    intro hshared
    by_cases hsame : l = Path.place studio.options.outputFolder
    · rw [hsame, hdir] at hthere
      cases hthere
    · rw [hmatched.left.housed.find?_of_prefix (by rw [hdir]; rfl) hshared hsame] at hthere
      cases hthere
  rintro (hshared | hshared)
  · exact hapart hshared
  · rw [studio.options.place_speechRoot, List.prefix_concat_iff] at hshared
    rcases hshared with rfl | hroot
    · have hscript := hset.left _ hl
      rw [Script.isPlace, Location.ending, List.getLast?_concat] at hscript
      exact absurd hscript (by decide)
    · refine hapart ?_
      rw [studio.options.place_outputFolder]
      exact hroot.trans (List.prefix_append _ _)

/-- The catalogue lists what was built. -/
theorem catalogue_eq_ok (h : studio.catalogue outcomes s = .ok report s') :
    report = ⟨outcomes, cataloguePath studio.options⟩ ∧
      s'.world.store.Holds (cataloguePath studio.options) (Catalogue.document report.built) := by
  obtain ⟨_, s₁, hwrite, h⟩ := bind_eq_ok h
  obtain ⟨w₁, hw₁, rfl⟩ := Build.act_eq_ok hwrite
  rw [Build.note_bind] at h
  obtain ⟨rfl, rfl⟩ := pure_eq_ok h
  exact ⟨rfl, (Act.wrote_of_writeText hw₁).holds⟩

end Studio

/-! ### Reports without one script -/

namespace RunReport

variable {outcomes outcomes' : List (String × Except Error CatalogueEntry)} {e : Error}
  {catalogue : String}

theorem mem_outcomes_of_mem_failures {report : RunReport} (h : (path, e) ∈ report.failures) :
    (path, .error e) ∈ report.outcomes := by
  obtain ⟨⟨script, outcome⟩, hmem, hfailed⟩ := List.mem_filterMap.mp h
  cases outcome with
  | ok entry => cases hfailed
  | error cause =>
      cases hfailed
      exact hmem

/-- Without a script that has failed, the same is built. -/
theorem built_filter (hnodup : (outcomes.map (·.1)).Nodup)
    (h : (path, .error e) ∈ outcomes) :
    (RunReport.mk (outcomes.filter (·.1 ≠ path)) catalogue).built =
      (RunReport.mk outcomes catalogue).built := by
  unfold built
  rw [List.filterMap_filter]
  refine List.filterMap_congr fun told htold => ?_
  by_cases hpath : told.1 = path
  · have hsame : told = (path, .error e) := List.inj_on_of_nodup_map hnodup htold h hpath
    rw [hsame]
    simp [Except.toOption]
  · simp [hpath]

end RunReport

theorem SameBut.eq {P : String → Prop} {outcomes outcomes' : List (String × Except Error CatalogueEntry)}
    (h : SameBut P outcomes outcomes') (hP : ∀ path, ¬ P path) : outcomes = outcomes' := by
  induction h with
  | nil => rfl
  | cons hsame _ ih =>
      obtain ⟨hpath, houtcome⟩ := hsame
      rw [ih, Prod.ext hpath (houtcome (hP _))]

/-! ### Taking a failed script away -/

namespace Studio

variable {studio : Studio σ} {store store' : Store} {own : σ} {report : RunReport} {e : Error}

theorem contest_of_script {K K' : Location → Prop} (hreaches : store.Reaches studio.options.publicRoot)
    (hK : ∀ l, K l → Script.isPlace l) (hK' : ∀ l, K' l → Script.isPlace l)
    (hscript : Script.isPlace (Path.place path))
    (hshared : ¬ studio.options.shared (Path.place path))
    (hplace : (Path.place path).dropLast ≠ Path.place studio.options.speechRoot) :
    Contest studio.options store K K' (· = Path.place path) := by
  refine ⟨hreaches, hK, hK', ?_, ?_⟩
  · rintro l hl rfl
    exact hshared hl
  · rintro name _ l (hfolder | houtputs) rfl
    · refine hplace ?_
      rw [hfolder, studio.options.place_speechRoot, List.dropLast_append_of_ne_nil (by simp)]
      rfl
    · rw [StudioOptions.isPlace_of_outputs houtputs] at hscript
      cases hscript

/-- Without a script, the files hold what they held. -/
theorem matched_remove {X : Location → Prop} (hhoused : store.Housed)
    (hremove : store.remove path = .ok store') (hscript : Script.isPlace (Path.place path))
    (hX : X (Path.place path)) (o : StudioOptions) :
    Matched o store (Script.isPlace ·) (fun l => Script.isPlace l ∧ l ≠ Path.place path) X store
      store' := by
  obtain ⟨content, isProgram, hfile, rfl⟩ := Store.remove_eq_ok hremove
  have herase := Store.Sets.erase (s := store) (Store.not_isLocked_of_remove hremove)
  have hgrown : store.Grown (fun l => Script.isPlace l ∧ l ≠ Path.place path) store :=
    ⟨hhoused, id, fun _ _ => rfl⟩
  refine ⟨⟨hhoused, id, fun _ _ => rfl⟩, ?_, ?_, ?_⟩
  · refine hgrown.sets herase ?_ (fun hl => absurd rfl hl.2) ?_
    · rw [hfile]
      rintro ⟨⟩
    · rintro ⟨⟩
  · intro l hl
    refine .inl (herase.find?_of_ne ?_).symm
    rintro rfl
    exact hl hX
  · refine Store.isWritable_congr (herase.find?_of_ne ?_).symm
    intro hsame
    rw [← hsame, isPlace_cataloguePath] at hscript
    cases hscript

section Removal

variable (hfollows : studio.Follows craft) (htree : store.IsTree)
  (hroot : store.Leads studio.options.publicRoot ∨
    ['.', '.'] ∉ Path.pieces studio.options.publicRoot.toList)
  (hplace : (Path.place path).dropLast ≠ Path.place studio.options.speechRoot)
  (hremove : store.remove path = .ok store')

include hfollows htree hroot hplace hremove

/-- Two runs over the scripts of a folder, one of them without a script that has been taken away. -/
theorem exists_removal (hdiscover : Script.discover store studio.options.scriptFolder = .ok scripts)
    (hmem : path ∈ scripts) (hleft : s.Follows craft) (hright : t.Follows craft)
    (hs : s.world.store = store) (ht : t.world.store = store')
    {outcomes : List (String × Except Error CatalogueEntry)} {s₁ : Session σ}
    (hscripts : studio.releaseScripts [] scripts s = .ok outcomes s₁)
    (hcatalogue : studio.catalogue outcomes s₁ = .ok report s') :
    ∃ outcomes' t', (studio.releaseScripts [] (scripts.filter (· ≠ path)) >>= studio.catalogue) t =
        .ok ⟨outcomes', cataloguePath studio.options⟩ t' ∧
      SameBut (store.Rivals [] scripts path) (outcomes.filter (·.1 ≠ path)) outcomes' := by
  have hreaches : store.Reaches studio.options.publicRoot :=
    hroot.elim Store.Leads.reaches htree.housed.reaches
  have hscript := Script.isPlace_of_mem_discover hdiscover path hmem
  have hkept : ∀ script ∈ scripts, store.Fixes (Script.isPlace ·) script := by
    intro script hmem
    obtain ⟨name, rfl, hstocks⟩ := Script.stocks_of_discover htree hdiscover hmem
    exact hstocks.fixes hstocks.isPlace
  have hkept' : ∀ script ∈ scripts, script ≠ path →
      store.Fixes (fun l => Script.isPlace l ∧ l ≠ Path.place path) script := by
    intro script hscript' hother
    obtain ⟨name, rfl, hstocks⟩ := Script.stocks_of_discover htree hdiscover hscript'
    obtain ⟨name', rfl, hstocks'⟩ := Script.stocks_of_discover htree hdiscover hmem
    refine hstocks.fixes ⟨hstocks.isPlace, fun hsame => hother ?_⟩
    rw [Script.eq_of_place hstocks hstocks' hsame]
  have hnone : TakenBut (fun _ => False) [] [] := ⟨fun _ => False.elim, fun _ _ => Iff.rfl⟩
  have hshared : ¬ studio.options.shared (Path.place path) := by
    -- The first run, beside itself, has made the folder for its catalogue.
    have halone : Contest studio.options store (Script.isPlace ·) (Script.isPlace ·)
        (fun _ => False) :=
      ⟨hreaches, fun _ => id, fun _ => id, fun _ _ => id, fun _ _ _ _ => id⟩
    have hself : s.Related craft (Matched studio.options store (Script.isPlace ·) (Script.isPlace ·)
        (studio.options.contested (fun _ => False) fun _ => False)) s := by
      refine ⟨?_, hleft, hleft⟩
      rw [hs]
      exact ⟨⟨htree.housed, id, fun _ _ => rfl⟩, ⟨htree.housed, id, fun _ _ => rfl⟩, .refl _ _ _, rfl⟩
    obtain ⟨_, _, _, _, hscripts', _, hst, _⟩ :=
      bothEnd_same hfollows halone hkept hkept hnone hself
    rw [hscripts] at hscripts'
    cases hscripts'
    obtain ⟨content, isProgram, hfile, _⟩ := Store.remove_eq_ok hremove
    exact not_shared_of_catalogue (halone.setting _) hst hcatalogue hscript hfile
  have hcontest : Contest studio.options store (Script.isPlace ·)
      (fun l => Script.isPlace l ∧ l ≠ Path.place path) (· = Path.place path) :=
    contest_of_script hreaches (fun _ => id) (fun _ => And.left) hscript hshared hplace
  have hapart : studio.options.contested (· = Path.place path) (fun _ => False)
    (Path.place path) := .inl rfl
  have hmatched := matched_remove htree.housed hremove hscript hapart studio.options
  obtain ⟨_, outcomes', _, t₁, hscripts', ht₁, ⟨N, hst₁⟩, hsame⟩ :=
    bothEnd_filter (s := s) (t := t) hfollows hcontest (Script.nodup_discover htree hdiscover) hmem hkept hkept'
      hnone ⟨by rw [hs, ht]; exact hmatched, hleft, hright⟩
  rw [hscripts] at hscripts'
  cases hscripts'
  obtain ⟨t', ht'⟩ := exists_catalogue (hcontest.setting N) hst₁ hcatalogue outcomes'
  exact ⟨outcomes', t', (bind_of_ok ht₁ _).trans ht', hsame⟩

/-- A script that has failed can be taken away: every other script has the outcome that it had, but
for one that finds free the name that the failed one had been the first to take. If there is none,
the catalogue is the same. Of the parties it is assumed that they do what their arguments and the
files at their paths tell them; of the files, that they are a tree in which the way to the public
root goes by names, unless the root is there; of the script, that it is not in the folder of the
sounds. -/
theorem releaseAll_isolates (own' : σ) (hrun : studio.releaseAll (.start ⟨store, own⟩) = .ok report s')
    (hfailed : (path, e) ∈ report.failures) :
    ∃ report' t', studio.releaseAll (.start ⟨store', own'⟩) = .ok report' t' ∧
      SameBut (store.Rivals [] (report.outcomes.map (·.1)) path)
        (report.outcomes.filter (·.1 ≠ path)) report'.outcomes ∧
      ((∀ other, ¬ store.Rivals [] (report.outcomes.map (·.1)) path other) →
        report'.built = report.built ∧ report'.cataloguePath = report.cataloguePath ∧
        ∃ text, s'.world.store.Holds report.cataloguePath text ∧
          t'.world.store.Holds report.cataloguePath text) := by
  obtain ⟨w, scripts, havailable, hdiscover⟩ := exists_of_releaseAll hrun
  rw [releaseAll_of_discover havailable hdiscover] at hrun
  obtain ⟨outcomes, s₁, hscripts, hcatalogue⟩ := bind_eq_ok hrun
  obtain ⟨rfl, hholds⟩ := catalogue_eq_ok hcatalogue
  obtain ⟨hpaths, _⟩ := releaseScripts_names hscripts (cataloguePath studio.options)
  have houtcome := RunReport.mem_outcomes_of_mem_failures hfailed
  have hmem : path ∈ scripts := hpaths ▸ List.mem_map_of_mem houtcome
  obtain ⟨hcraft, hw⟩ := hfollows.available_eq_ok havailable
  obtain ⟨v, hv, hstore⟩ := hfollows.available ⟨store', own'⟩
  rw [hcraft] at hv
  have hdiscover' : Script.discover v.store studio.options.scriptFolder =
      .ok (scripts.filter (· ≠ path)) := by
    obtain ⟨content, isProgram, hfile, rfl⟩ := Store.remove_eq_ok hremove
    rw [hw] at hdiscover
    rw [hstore]
    exact Script.discover_erase htree hdiscover hmem (by rw [hfile]; rintro ⟨⟩)
  rw [hw] at hdiscover
  obtain ⟨outcomes', t', ht', hsame⟩ := exists_removal
    (t := { Session.start ⟨store', own'⟩ with
      world := v
      events := [.started (scripts.filter (· ≠ path)).length] })
    hfollows htree hroot hplace hremove hdiscover hmem (by rintro x ⟨⟩) (by rintro x ⟨⟩)
    hw hstore hscripts hcatalogue
  have hrun' := (releaseAll_of_discover (s := .start ⟨store', own'⟩) hv hdiscover').trans ht'
  rw [hpaths]
  refine ⟨_, t', hrun', hsame, fun hnone => ?_⟩
  have hbuilt : (RunReport.mk outcomes' (cataloguePath studio.options)).built =
      (RunReport.mk outcomes (cataloguePath studio.options)).built := by
    rw [← hsame.eq hnone]
    exact RunReport.built_filter (hpaths ▸ Script.nodup_discover htree hdiscover) houtcome
  obtain ⟨_, t₁, _, hcatalogue'⟩ := bind_eq_ok ht'
  obtain ⟨_, hholds'⟩ := catalogue_eq_ok hcatalogue'
  rw [hbuilt] at hholds'
  exact ⟨hbuilt, rfl, _, hholds, hholds'⟩

end Removal

/-! ### A folder without its failed script -/

/-- The craft of parties that fail and leave all nodes as they are. -/
def restingCraft : Craft where
  available := .ok ()
  opening := .error .emptyCommand
  speaking _ _ _ n := (.error .emptyCommand, n)
  encoding _ _ _ _ n := (.error .emptyCommand, n)
  speaking_directory _ _ _ := rfl
  encoding_directory _ _ _ _ := rfl

/-- The studio in which nothing can be made, with its folders elsewhere. -/
def restingAt (publicRoot scriptFolder : String) : Studio Unit :=
  { resting with options := ⟨publicRoot, scriptFolder, .opus⟩ }

theorem follows_restingAt (publicRoot scriptFolder : String) :
    (restingAt publicRoot scriptFolder).Follows restingCraft where
  available w := ⟨w, rfl, rfl⟩
  opening w := ⟨w, rfl, rfl⟩
  encoding _ _ _ w _ := ⟨w, rfl, .of_find? rfl⟩

theorem not_rivals_fourScripts (other : String) : ¬ fourScripts.Rivals []
    ["t/a.timeline", "t/b.timeline", "t/c.timeline", "t/d.timeline"] "t/c.timeline" other := by
  have htitles : ["t/a.timeline", "t/b.timeline", "t/c.timeline", "t/d.timeline"].map
      fourScripts.titleOf? = [some "b", some "b", some "c", some "a"] := by
    decide +kernel
  simp only [List.map_cons, List.map_nil, List.cons.injEq, and_true] at htitles
  obtain ⟨ha, hb, hc, hd⟩ := htitles
  rintro ⟨name, _, hrivals⟩
  have hname : fourScripts.titleOf? "t/c.timeline" = some name := by
    have hmem := List.mem_filter.mp (hrivals.subset List.mem_cons_self)
    exact of_decide_eq_true hmem.2
  rw [hc] at hname
  cases hname
  simp [ha, hb, hc, hd] at hrivals

/-- From the four scripts, the one that needs speech is taken away: the others are built, or fail,
as before. -/
theorem releaseAll_isolates_fourScripts :
    ∃ report s' t report' t', resting.releaseAll (.start ⟨fourScripts, ()⟩) = .ok report s' ∧
      fourScripts.remove "t/c.timeline" = .ok t ∧
      resting.releaseAll (.start ⟨t, ()⟩) = .ok report' t' ∧
      report'.built = report.built ∧ report'.built.map (·.name) = ["b", "a"] := by
  obtain ⟨report, s', hs', htold⟩ := exists_of_discover (s := .start ⟨fourScripts, ()⟩) resting
    (fun report => (report.built.map (·.name), report.outcomes.map (·.1), report.failures))
    (["b", "a"], ["t/a.timeline", "t/b.timeline", "t/c.timeline", "t/d.timeline"],
      [("t/b.timeline", .duplicateName "b"), ("t/c.timeline", .emptyCommand)]) rfl
    discover_fourScripts (by decide +kernel)
  obtain ⟨hbuilt, hrest⟩ := Prod.mk.inj htold
  obtain ⟨hscripts, hfailures⟩ := Prod.mk.inj hrest
  have hfailed : ("t/c.timeline", .emptyCommand) ∈ report.failures := by
    rw [hfailures]
    decide
  have hremove : fourScripts.remove "t/c.timeline" =
      .ok (fourScripts.erase ["t", "c.timeline"]) := by
    rfl
  obtain ⟨report', t', ht', _, hsame⟩ := releaseAll_isolates (follows_restingAt "p" "t")
    (by decide +kernel) (.inr (by decide)) (by decide) hremove () hs' hfailed
  rw [hscripts] at hsame
  obtain ⟨hbuilt', _⟩ := hsame not_rivals_fourScripts
  exact ⟨report, s', _, report', t', hs', hremove, ht', hbuilt', hbuilt'.symm ▸ hbuilt⟩

/-! ### Where taking a script away does more -/

/-- Taking a failed script away changes what becomes of another one, though the parties do what they
are told. -/
def Disturbs (studio : Studio Unit) (store : Store) (path other : String) : Prop :=
  (∃ craft, studio.Follows craft) ∧ store.IsTree ∧
    ∃ report s' store' report' t', ∃ e outcome outcome',
      studio.releaseAll (.start ⟨store, ()⟩) = .ok report s' ∧ (path, e) ∈ report.failures ∧
      store.remove path = .ok store' ∧ studio.releaseAll (.start ⟨store', ()⟩) = .ok report' t' ∧
      (other, outcome) ∈ report.outcomes ∧ (other, outcome') ∈ report'.outcomes ∧
      outcome ≠ outcome'

theorem disturbs_of_told {studio : Studio Unit} {store store' : Store} {a b : String} {e : Error}
    {outcome outcome' : Except Error CatalogueEntry} (hfollows : studio.Follows craft)
    (havailable : ∀ w, studio.encoder.available w = .ok () w) (htree : store.IsTree)
    (hdiscover : Script.discover store studio.options.scriptFolder = .ok [a, b]) (hne : a ≠ b)
    (hremove : store.remove a = .ok store')
    (htold : ((studio.releaseScripts [] [a, b] >>= studio.catalogue).run'
      ⟨⟨store, ()⟩, none, 0, [.started 2]⟩).map (·.outcomes) = some [(a, .error e), (b, outcome)])
    (htold' : ((studio.releaseScripts [] [b] >>= studio.catalogue).run'
      ⟨⟨store', ()⟩, none, 0, [.started 1]⟩).map (·.outcomes) = some [(b, outcome')])
    (hdiffer : outcome ≠ outcome') : Disturbs studio store a b := by
  obtain ⟨report, s', hs', houtcomes⟩ := exists_of_discover (s := .start ⟨store, ()⟩) studio
    (·.outcomes) _ (havailable _) hdiscover htold
  have hdiscover' : Script.discover store' studio.options.scriptFolder = .ok [b] := by
    obtain ⟨content, isProgram, hfile, rfl⟩ := Store.remove_eq_ok hremove
    rw [Script.discover_erase htree hdiscover List.mem_cons_self (by rw [hfile]; rintro ⟨⟩)]
    simp [Ne.symm hne]
  obtain ⟨report', t', ht', houtcomes'⟩ := exists_of_discover (s := .start ⟨store', ()⟩) studio
    (·.outcomes) _ (havailable _) hdiscover' htold'
  refine ⟨⟨craft, hfollows⟩, htree, report, s', store', report', t', e, outcome, outcome', hs', ?_,
    hremove, ht', ?_, ?_, hdiffer⟩
  · exact List.mem_filterMap.mpr ⟨(a, .error e), by rw [houtcomes]; simp, rfl⟩
  · rw [houtcomes]
    simp
  · rw [houtcomes']
    simp

/-- A script with a name and one cue. -/
def cueScript (name : String) : Node :=
  .file ("timeline: " ++ name ++ "\ncard \"A\"\n  say \"hi\"\n").toUTF8 false

/-- A folder in which a script without speech follows one of the same name that needs some. -/
def sharedName : Store :=
  ((Store.empty.put ["t"] .directory).put ["t", "a.timeline"] (cueScript "x")).put
    ["t", "b.timeline"] (.file "timeline: x\ncard \"B\"\n".toUTF8 false)

/-- The sound of the second script is there, below a folder that is reached through one that is
missing. -/
def missingFolder : Store :=
  ((((((Store.empty.put ["t"] .directory).put ["t", "a.timeline"] (cueScript "x")).put
    ["t", "b.timeline"] (cueScript "y")).put ["p"] .directory).put ["p", "speech"] .directory).put
    ["p", "speech", "y"] .directory).put
    ["p", "speech", "y", "hi-af_heart-19207e0611f00fc3.opus"] (.file .empty false)

/-- The scripts lie among the sounds, the first of them in place of the folder of the second. -/
def amongSounds : Store :=
  (((Store.empty.put ["p"] .directory).put ["p", "speech"] .directory).put
    ["p", "speech", "a.timeline"] (cueScript "x")).put
    ["p", "speech", "b.timeline"] (cueScript "a.timeline")

/-- The failure of a script is not isolated where the script has taken the name of another one,
where it has made a folder on the way to the sounds of another one, or where it is in place of the
folder for the sounds of another one. -/
theorem releaseAll_isolates_fails :
    Disturbs (restingAt "p" "t") sharedName "t/a.timeline" "t/b.timeline" ∧
      Disturbs (restingAt "m/../p" "t") missingFolder "t/a.timeline" "t/b.timeline" ∧
      Disturbs (restingAt "p" "p/speech") amongSounds "p/speech/a.timeline"
        "p/speech/b.timeline" := by
  refine ⟨?_, ?_, ?_⟩
  · have hdiscover : Script.discover sharedName "t" = .ok ["t/a.timeline", "t/b.timeline"] :=
      Script.discover_of_pairwise ["t"] ["a.timeline", "b.timeline"] (by decide +kernel)
        (by decide +kernel) (by decide +kernel) (by decide +kernel) (by decide +kernel)
    have hdiffer : (.error (.duplicateName "x") : Except Error CatalogueEntry) ≠
        .ok ⟨"x", "x", Bundle.address "x", ⟨0, 0, 0, 0⟩⟩ := by
      rintro ⟨⟩
    exact disturbs_of_told (e := .emptyCommand) (follows_restingAt _ _) (fun _ => rfl)
      (by decide +kernel) hdiscover (by decide) rfl (by decide +kernel) (by decide +kernel) hdiffer
  · have hdiscover : Script.discover missingFolder "t" = .ok ["t/a.timeline", "t/b.timeline"] :=
      Script.discover_of_pairwise ["t"] ["a.timeline", "b.timeline"] (by decide +kernel)
        (by decide +kernel) (by decide +kernel) (by decide +kernel) (by decide +kernel)
    have hdiffer : (.ok ⟨"y", "y", Bundle.address "y", ⟨1, 1, 0, 0⟩⟩ :
        Except Error CatalogueEntry) ≠ .error .emptyCommand := by
      rintro ⟨⟩
    exact disturbs_of_told (e := .emptyCommand) (follows_restingAt _ _) (fun _ => rfl)
      (by decide +kernel) hdiscover (by decide) rfl (by decide +kernel) (by decide +kernel) hdiffer
  · have hdiscover : Script.discover amongSounds "p/speech" =
        .ok ["p/speech/a.timeline", "p/speech/b.timeline"] :=
      Script.discover_of_pairwise ["p", "speech"] ["a.timeline", "b.timeline"] (by decide +kernel)
        (by decide +kernel) (by decide +kernel) (by decide +kernel) (by decide +kernel)
    have hdiffer : (.error (.noAssetDirectory "p/speech/a.timeline" .taken) :
        Except Error CatalogueEntry) ≠ .error .emptyCommand := by
      simp
    exact disturbs_of_told (e := .emptyCommand) (follows_restingAt _ _) (fun _ => rfl)
      (by decide +kernel) hdiscover (by decide) rfl (by decide +kernel) (by decide +kernel) hdiffer

end Studio

end Storyboard
