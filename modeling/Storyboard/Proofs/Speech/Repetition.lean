import Mathlib
import Storyboard.Proofs.Speech.Production

/-!
Repeated runs. A run that has released all its scripts leaves files on which another run finds every
asset and writes what is written already: it needs no synthesizer, and in the end the files are as
they were. In between they differ at most at the catalogue, whose place a timeline may share.
-/

namespace Storyboard

/-! ### Catalogues -/

/-- The entry of a timeline all of whose cues were found. -/
def CatalogueEntry.reused (e : CatalogueEntry) : CatalogueEntry :=
  { e with counts := ⟨e.counts.cues, e.counts.cues, 0, 0⟩ }

theorem BuildCounts.ofOrigins_cached (n : Nat) :
    ofOrigins (List.replicate n .cached) = ⟨n, n, 0, 0⟩ := by
  simp [ofOrigins, List.countP_replicate]

namespace Catalogue

theorem lastOfName_map (entries : List CatalogueEntry) :
    lastOfName (entries.map CatalogueEntry.reused) =
      (lastOfName entries).map CatalogueEntry.reused := by
  induction entries using lastOfName.induct with
  | case1 | case2 e => rfl
  | case3 e f rest hname ih =>
      have hname' : e.reused.name = f.reused.name := hname
      simpa only [List.map_cons, lastOfName, hname', hname, if_true] using ih
  | case4 e f rest hname ih =>
      have hname' : ¬ e.reused.name = f.reused.name := hname
      simpa only [List.map_cons, lastOfName, hname', hname, if_false, List.cons.injEq, true_and]
        using ih

/-- The catalogue does not tell how the cues came by their assets. -/
theorem document_reused (entries : List CatalogueEntry) :
    document (entries.map CatalogueEntry.reused) = document entries := by
  have hsorted : sorted (entries.map CatalogueEntry.reused) =
      (sorted entries).map CatalogueEntry.reused :=
    (List.map_mergeSort (r := before) (s := before) (f := CatalogueEntry.reused)
      fun _ _ _ _ => rfl).symm
  simp only [document, toJson, hsorted, lastOfName_map, List.map_map]
  rfl

theorem document_nonempty (entries : List CatalogueEntry) :
    (document entries).toUTF8.isEmpty = false := by
  have hne : document entries ≠ "" := by
    refine String.toList_inj.not.mp ?_
    simp [document, toJson, Json.pretty, Json.ofMembers, Json.print]
  simp [ByteArray.isEmpty, hne]

end Catalogue

/-! ### What a successful run leaves behind -/

/-- A run has released all scripts from some names on: each of them can be read again, and what was
released is there. -/
inductive Finished (o : StudioOptions) (s : Store) :
    List String → List String → List (String × Except Error CatalogueEntry) → Prop
  | nil {taken : List String} : Finished o s taken [] []
  | cons {taken rest : List String} {path text : String} {t : Timeline} {origins : List Origin}
      {outcomes : List (String × Except Error CatalogueEntry)}
      (read : s.readText path = .ok text) (compiled : Script.compile text = .ok t)
      (fresh : t.name ∉ taken) (released : t.Released o s) (counted : origins.length = t.cueCount)
      (finished : Finished o s (t.name :: taken) rest outcomes) :
      Finished o s taken (path :: rest)
        ((path, .ok (Studio.catalogueEntry (t.produced o.format) origins)) :: outcomes)

variable {σ : Type} {s s' : Session σ}

namespace Build

variable {α : Type} {b : Build σ α} {x : α}

theorem attempt_eq_ok (h : b.attempt s = .ok (.ok x) s') : b s = .ok x s' := by
  unfold attempt at h
  split at h
  · next hb =>
      cases h
      exact hb
  · cases h

theorem attempt_of_ok (h : b s = .ok x s') : b.attempt s = .ok (.ok x) s' := by
  simp only [attempt, h]

end Build

namespace Studio

variable {studio : Studio σ}

theorem releaseScript_eq_ok {taken taken' : List String} {path : String} {e : CatalogueEntry}
    (h : studio.releaseScript taken path s = .ok (taken', .ok e) s') :
    ∃ text t u, s.world.store.readText path = .ok text ∧ Script.compile text = .ok t ∧
      t.name ∉ taken ∧ taken' = t.name :: taken ∧ studio.release t s = .ok (u, e) s' := by
  unfold releaseScript at h
  rw [Build.act_store_bind] at h
  cases hread : s.world.store.readText path with
  | error cause =>
      rw [hread] at h
      cases h
  | ok text =>
      rw [hread] at h
      cases hcompile : Script.compile text with
      | error fault =>
          simp only [hcompile] at h
          cases h
      | ok t =>
          simp only [hcompile] at h
          split at h
          · cases h
          · next hfresh =>
              obtain ⟨result, s₁, hrelease, h⟩ := bind_eq_ok h
              cases result with
              | error fault => cases h
              | ok r =>
                  cases h
                  exact ⟨text, t, r.1, rfl, hcompile, hfresh, rfl, Build.attempt_eq_ok hrelease⟩

/-- Behind its first script, a run goes on in the session that this one has left, in which more may
have been noted. -/
theorem releaseScripts_cons_eq_ok {taken rest : List String} {path : String}
    {outcomes : List (String × Except Error CatalogueEntry)}
    (h : studio.releaseScripts taken (path :: rest) s = .ok outcomes s') :
    ∃ taken' outcome s₁ events others,
      studio.releaseScript taken path s = .ok (taken', outcome) s₁ ∧
      studio.releaseScripts taken' rest { s₁ with events } = .ok others s' ∧
      outcomes = (path, outcome) :: others := by
  obtain ⟨⟨taken', outcome⟩, s₁, hscript, h⟩ := bind_eq_ok h
  cases outcome with
  | ok e =>
      obtain ⟨others, s₂, hothers, h⟩ := bind_eq_ok h
      obtain ⟨rfl, rfl⟩ := pure_eq_ok h
      exact ⟨taken', _, s₁, s₁.events, others, hscript, hothers, rfl⟩
  | error fault =>
      obtain ⟨_, s₂, hnote, h⟩ := bind_eq_ok h
      cases hnote
      obtain ⟨others, s₃, hothers, h⟩ := bind_eq_ok h
      obtain ⟨rfl, rfl⟩ := pure_eq_ok h
      exact ⟨taken', _, s₁, _, others, hscript, hothers, rfl⟩

theorem releaseScripts_eq_ok (hstudio : studio.Careful) {taken scripts : List String}
    {outcomes : List (String × Except Error CatalogueEntry)}
    (hscripts : ∀ path ∈ scripts, Script.isPlace (Path.place path))
    (h : studio.releaseScripts taken scripts s = .ok outcomes s') (hs : s.Careful)
    (hsuccess : ∀ outcome ∈ outcomes, ∃ e, outcome.2 = .ok e) :
    s.Keeps (studio.options.writes (· ∉ taken)) s' ∧
      ∀ final, s'.world.store.Keeps (· = Path.place (cataloguePath studio.options)) final →
        Finished studio.options final taken scripts outcomes := by
  induction scripts generalizing taken outcomes s with
  | nil =>
      obtain ⟨rfl, rfl⟩ := pure_eq_ok h
      exact ⟨⟨.refl _ _, hs⟩, fun _ _ => .nil⟩
  | cons path rest ih =>
      obtain ⟨hpath, hrest⟩ := List.forall_mem_cons.mp hscripts
      obtain ⟨taken', outcome, s₁, events, others, hscript, hothers, rfl⟩ :=
        releaseScripts_cons_eq_ok h
      obtain ⟨⟨e, rfl⟩, hrestSuccess⟩ := List.forall_mem_cons.mp hsuccess
      obtain ⟨text, t, u, hread, hcompile, hfresh, rfl, hrelease⟩ := releaseScript_eq_ok hscript
      obtain ⟨hkept, hreleased, origins, hcount, rfl⟩ := release_eq_ok hstudio hrelease hs
      obtain ⟨hkept', hfinished⟩ := ih hrest hothers hkept.careful hrestSuccess
      have hwrites : ∀ l, studio.options.writes (· = t.name) l →
          studio.options.writes (· ∉ taken) l :=
        fun _ => .imp_right fun ⟨name, hname, hplace⟩ => ⟨name, hname ▸ hfresh, hplace⟩
      have hothers : ∀ l, studio.options.writes (· ∉ t.name :: taken) l →
          studio.options.writes (· ∉ taken) l :=
        fun _ => .imp_right fun ⟨name, hname, hplace⟩ =>
          ⟨name, fun hmem => hname (List.mem_cons_of_mem _ hmem), hplace⟩
      have hall : s.Keeps (studio.options.writes (· ∉ taken)) s' :=
        ⟨(hkept.store.mono hwrites).trans (hkept'.store.mono hothers), hkept'.careful⟩
      -- The script is read again at the end, since no script stands where a run writes.
      have hscript : ¬ studio.options.writesInRun (· ∉ taken) (Path.place path) := by
        intro hwrites
        rw [isPlace_of_writesInRun hwrites] at hpath
        cases hpath
      refine ⟨hall, fun final hfinal => ?_⟩
      refine .cons ?_ hcompile hfresh ?_ hcount (hfinished final hfinal)
      · exact (hall.store.catalogue hfinal).readText hscript hread
      · exact hreleased.keeps (hkept'.store.catalogue hfinal) fun hmem => hmem List.mem_cons_self

/-- Files in which nothing is left to be done for some scripts, nor for the catalogue. -/
structure Settled (o : StudioOptions) (final : Store) (scripts : List String)
    (outcomes : List (String × Except Error CatalogueEntry)) (text : String) : Prop where
  discovered : Script.discover final o.scriptFolder = .ok scripts
  finished : Finished o final [] scripts outcomes
  catalogue : final.Ready (cataloguePath o)
  catalogued : final.writeAt (Path.place (cataloguePath o)) text.toUTF8 = .ok final

theorem releaseAll_eq_ok (hstudio : studio.Careful) {report : RunReport}
    (h : studio.releaseAll s = .ok report s') (hs : s.Careful) (hsuccess : report.failures = []) :
    ∃ scripts, Settled studio.options s'.world.store scripts report.outcomes
      (Catalogue.document report.built) := by
  obtain ⟨outcomes, s₁, hfolder, h⟩ := bind_eq_ok h
  obtain ⟨_, s₂, havailable, hfolder⟩ := bind_eq_ok hfolder
  obtain ⟨w₂, hw₂, rfl⟩ := Build.act_eq_ok havailable
  rw [Build.act_store_bind] at hfolder
  cases hscripts : Script.discover w₂.store studio.options.scriptFolder with
  | error e =>
      rw [hscripts] at hfolder
      cases hfolder
  | ok scripts =>
      rw [hscripts] at hfolder
      obtain ⟨_, _, hnote, hfolder⟩ := bind_eq_ok hfolder
      cases hnote
      obtain ⟨_, s₃, hwrite, h⟩ := bind_eq_ok h
      obtain ⟨w₃, hw₃, rfl⟩ := Build.act_eq_ok hwrite
      rw [Build.note_bind] at h
      obtain ⟨rfl, rfl⟩ := pure_eq_ok h
      have hall : ∀ outcome ∈ outcomes, ∃ e, outcome.2 = .ok e := by
        rintro ⟨path, outcome⟩ hmem
        cases outcome with
        | ok e => exact ⟨e, rfl⟩
        | error e => cases List.filterMap_eq_nil_iff.mp hsuccess _ hmem
      obtain ⟨hkept, hfinished⟩ := releaseScripts_eq_ok hstudio
        (Script.isPlace_of_mem_discover hscripts) hfolder hs hall
      obtain ⟨hwritten, hready, hcatalogued⟩ := Act.writeText_eq_ok
        (W := (· = Path.place (cataloguePath studio.options))) hw₃ rfl
        (isPlace_cataloguePath _)
      exact ⟨scripts, (hkept.store.catalogue hwritten).discover hscripts, hfinished _ hwritten,
        hready, hcatalogued⟩

end Studio

/-! ### Another run -/

section Again

variable {o : StudioOptions} {final : Store}

/-- A session that has not opened a synthesizer, and whose files differ from the final ones at most
in what was written where the catalogue is. -/
structure Session.Rests (o : StudioOptions) (final : Store) (s : Session σ) : Prop where
  synthesizer : s.synthesizer = none
  opened : s.opened = 0
  store : ∃ content, final.writeAt (Path.place (Studio.cataloguePath o)) content = .ok s.world.store

namespace Session.Rests

theorem keeps (h : s.Rests o final) :
    final.Keeps (· = Path.place (Studio.cataloguePath o)) s.world.store := by
  obtain ⟨content, hwrite⟩ := h.store
  exact .of_writeAt hwrite rfl (Studio.isPlace_cataloguePath o)

/-- A document that is there is written again without an effect. -/
theorem writeText (h : s.Rests o final) {path text : String} (hready : final.Ready path)
    (hother : Path.place path ≠ Path.place (Studio.cataloguePath o))
    (hwritten : final.writeAt (Path.place path) text.toUTF8 = .ok final) :
    Act.writeText path text s.world = .ok () s.world :=
  Act.writeText_of_ready (hready.mono fun _ => h.keeps.directory)
    (h.keeps.writeAt_self hother hwritten)

/-- What is written where the catalogue is takes the place of what was. -/
theorem writeCatalogue (h : s.Rests o final) {text : String}
    (hready : final.Ready (Studio.cataloguePath o)) {store : Store}
    (hwrite : final.writeAt (Path.place (Studio.cataloguePath o)) text.toUTF8 = .ok store) :
    Act.writeText (Studio.cataloguePath o) text s.world = .ok () { s.world with store } := by
  obtain ⟨content, hbefore⟩ := h.store
  refine Act.writeText_of_ready (hready.mono fun _ => h.keeps.directory) ?_
  rw [Store.writeAt_writeAt hbefore, hwrite]

end Session.Rests

namespace Studio

variable {other : Studio σ}

/-- An asset that is there is used as it is. -/
theorem produce_of_contains {a : Asset} (h : s.world.store.contains a.encoded) :
    other.produce a s = .ok .cached { s with events := s.events ++ [.cached a] } := by
  rw [produce, produceOn, Build.act_store_bind, if_pos h]
  rfl

/-- Where all assets are there, every cue is found. -/
theorem enrich_of_assets {t : Timeline} {world : World σ}
    (h : ∀ i ∈ t.items, ∀ c ∈ i.speech, world.store.HasAsset other.options t.name c)
    (hs : s.world = world ∧ s.synthesizer = none ∧ s.opened = 0) :
    ∃ r s', other.enrich t s = .ok r s' ∧ (∀ origin ∈ r.2, origin = .cached) ∧
      s'.world = world ∧ s'.synthesizer = none ∧ s'.opened = 0 := by
  have hcue : ∀ i ∈ t.items, ∀ c ∈ i.speech, ∀ s : Session σ,
      s.world = world ∧ s.synthesizer = none ∧ s.opened = 0 →
      ∃ r s', other.produceCue t.name c s = .ok r s' ∧ r.2 = .cached ∧
        s'.world = world ∧ s'.synthesizer = none ∧ s'.opened = 0 := by
    rintro i hi c hc u ⟨rfl, hu⟩
    let a := Asset.ofCue other.options t.name c
    refine ⟨(.plain a.source c.anchor c.offset, .cached),
      { u with events := u.events ++ [.cached a] }, ?_, rfl, rfl, hu⟩
    rw [produceCue, produceCueOn, bind_of_ok (produce_of_contains (h i hi c hc))]
    rfl
  have hitem : ∀ i ∈ t.items, ∀ s : Session σ,
      s.world = world ∧ s.synthesizer = none ∧ s.opened = 0 →
      ∃ r s', other.produceItem t.name i s = .ok r s' ∧ (∀ origin ∈ r.2, origin = .cached) ∧
        s'.world = world ∧ s'.synthesizer = none ∧ s'.opened = 0 := by
    intro i hi s hs
    obtain ⟨produced, s', hproduced, hcached, hs'⟩ := exists_mapM_eq_ok (hcue i hi) hs
    let sounded := i.withSound [] (i.audio ++ produced.map (·.1))
    refine ⟨(sounded, produced.map (·.2)), s', ?_, List.forall_mem_map.mpr hcached, hs'⟩
    rw [produceItem, produceItemOn, bind_of_ok hproduced]
    rfl
  obtain ⟨produced, s', hproduced, hcached, hs'⟩ := exists_mapM_eq_ok hitem hs
  have hall : ∀ origin ∈ (produced.map (·.2)).flatten, origin = .cached :=
    List.forall_mem_flatten.mpr (List.forall_mem_map.mpr hcached)
  refine ⟨(⟨t.name, produced.map (·.1)⟩, (produced.map (·.2)).flatten), s', ?_, hall, hs'⟩
  rw [enrich, enrichOn, bind_of_ok hproduced]
  rfl

/-- A timeline whose release is there is released again without an effect, but that its document
takes the place of the catalogue if it has the same name. -/
theorem release_of_released {t : Timeline} {text : String}
    (ht : t.Released other.options final) (hs : s.Rests other.options final)
    (hcatalogue : final.writeAt (Path.place (cataloguePath other.options)) text.toUTF8 = .ok final)
    (htext : text.toUTF8.isEmpty = false) :
    ∃ s', other.release t s = .ok (t.produced other.options.format,
      catalogueEntry (t.produced other.options.format) (List.replicate t.cueCount .cached)) s' ∧
      s'.Rests other.options final := by
  have hassets : ∀ i ∈ t.items, ∀ c ∈ i.speech,
      s.world.store.HasAsset other.options t.name c :=
    fun i hi c hc => hs.keeps.hasAsset (ht.assets i hi c hc)
  obtain ⟨⟨u, origins⟩, s₁, henrich, hcached, hworld, hsynthesizer, hopened⟩ :=
    enrich_of_assets hassets ⟨rfl, hs.synthesizer, hs.opened⟩
  obtain rfl : u = t.produced other.options.format := enrich_eq_ok henrich
  obtain rfl : origins = List.replicate t.cueCount .cached :=
    List.eq_replicate_iff.mpr ⟨length_origins_of_enrich henrich, hcached⟩
  have hrests : s₁.Rests other.options final := ⟨hsynthesizer, hopened, hworld ▸ hs.store⟩
  have hbundle : Path.place (bundlePath other.options t.name) ≠
      Path.place (cataloguePath other.options) := by
    intro hsame
    have hending := ending_bundlePath other.options t.name
    rw [hsame, cataloguePath_eq, ending_documentPath] at hending
    exact absurd hending (by decide)
  -- The document is the only thing that can be written where something else stands.
  have hdocument : ∃ w, Act.writeText (documentPath other.options t.name)
      (t.produced other.options.format).document s₁.world = .ok () w ∧
      Session.Rests other.options final { s₁ with world := w } := by
    by_cases hname : t.name = "registry"
    · obtain ⟨store, hstore⟩ := Store.exists_writeAt hcatalogue htext
        (t.produced other.options.format).document.toUTF8
      have hready := ht.document
      rw [hname, ← cataloguePath_eq] at hready ⊢
      exact ⟨_, hrests.writeCatalogue hready hstore, hsynthesizer, hopened, _, hstore⟩
    · have hother : Path.place (documentPath other.options t.name) ≠
          Path.place (cataloguePath other.options) :=
        fun hsame => hname (documentPath_injective ht.not_mem_name (by decide) hsame)
      exact ⟨_, hrests.writeText ht.document hother (ht.documentWritten hname), hrests⟩
  obtain ⟨w, hw, hrests'⟩ := hdocument
  have hw' := hrests'.writeText ht.bundle hbundle ht.bundleWritten
  refine ⟨{ s₁ with world := w, events := s₁.events ++ [.released (catalogueEntry
    (t.produced other.options.format) (List.replicate t.cueCount .cached))] }, ?_,
    hrests'.synthesizer, hrests'.opened, hrests'.store⟩
  have hcheck := ht.check
  simp only [release, releaseOn, hcheck]
  rw [bind_of_ok henrich, bind_of_ok (Build.act_of_ok hw), bind_of_ok (Build.act_of_ok hw')]
  rfl

/-- The outcome of a script when it is released again. -/
def again (outcome : String × Except Error CatalogueEntry) :
    String × Except Error CatalogueEntry :=
  (outcome.1, outcome.2.map CatalogueEntry.reused)

theorem releaseScripts_of_finished {taken scripts : List String} {text : String}
    {outcomes : List (String × Except Error CatalogueEntry)}
    (h : Finished other.options final taken scripts outcomes) (hs : s.Rests other.options final)
    (hcatalogue : final.writeAt (Path.place (cataloguePath other.options)) text.toUTF8 = .ok final)
    (htext : text.toUTF8.isEmpty = false)
    (hscripts : ∀ path ∈ scripts, Script.isPlace (Path.place path)) :
    ∃ s', other.releaseScripts taken scripts s = .ok (outcomes.map again) s' ∧
      s'.Rests other.options final := by
  induction h generalizing s with
  | nil => exact ⟨s, rfl, hs⟩
  | @cons taken rest path text t origins outcomes read compiled fresh released counted _ ih =>
      obtain ⟨hpath, hrest⟩ := List.forall_mem_cons.mp hscripts
      have hread : s.world.store.readText path = .ok text := by
        refine hs.keeps.readText (fun hplace => ?_) read
        rw [hplace, isPlace_cataloguePath] at hpath
        cases hpath
      obtain ⟨s₁, hrelease, hs₁⟩ := release_of_released released hs hcatalogue htext
      obtain ⟨s₂, hothers, hs₂⟩ := ih hs₁ hrest
      have hscript : other.releaseScript taken path s =
          .ok (t.name :: taken, .ok (catalogueEntry (t.produced other.options.format)
            (List.replicate t.cueCount .cached))) s₁ := by
        rw [releaseScript, Build.act_store_bind, hread]
        simp only [compiled, if_neg fresh]
        rw [bind_of_ok (Build.attempt_of_ok hrelease)]
        rfl
      have hentry : (catalogueEntry (t.produced other.options.format) origins).reused =
          catalogueEntry (t.produced other.options.format)
            (List.replicate t.cueCount .cached) := by
        simp only [CatalogueEntry.reused, catalogueEntry, BuildCounts.ofOrigins_cached, ← counted]
        rfl
      refine ⟨s₂, ?_, hs₂⟩
      rw [releaseScripts, bind_of_ok hscript]
      dsimp only
      rw [bind_of_ok hothers, List.map_cons, again, Except.map, hentry]
      rfl

end Studio

end Again

/-! ### Idempotence -/

namespace RunReport

variable {outcomes : List (String × Except Error CatalogueEntry)} {path path' : String}

theorem built_again : (⟨outcomes.map Studio.again, path⟩ : RunReport).built =
    (⟨outcomes, path'⟩ : RunReport).built.map CatalogueEntry.reused := by
  change (outcomes.map Studio.again).filterMap _ = (outcomes.filterMap _).map _
  rw [List.filterMap_map, List.map_filterMap]
  refine List.filterMap_congr fun outcome _ => ?_
  obtain ⟨_, e | e⟩ := outcome <;> rfl

theorem failures_again (h : (⟨outcomes, path'⟩ : RunReport).failures = []) :
    (⟨outcomes.map Studio.again, path⟩ : RunReport).failures = [] := by
  change (outcomes.map Studio.again).filterMap _ = []
  rw [List.filterMap_map]
  refine List.filterMap_eq_nil_iff.mpr fun outcome hmem => ?_
  have hnone := List.filterMap_eq_nil_iff.mp h outcome hmem
  obtain ⟨_, e | e⟩ := outcome
  · cases hnone
  · rfl

end RunReport

namespace Studio

/-- Runs are idempotent: after a run without failures, another one with the same options, on the
files that the first one has left and with an encoder that is there, has no failures, builds the
same timelines in the same order with every cue found, opens no synthesizer, and leaves the files as
they are. Of the parties to the first run it is assumed that they are careful, and of the encoder of
the second one that it touches no file when it is asked for; nothing else is assumed of the
second. -/
theorem releaseAll_idempotent {σ τ : Type} {studio : Studio σ} {other : Studio τ}
    {s s' : Session σ} {report : RunReport} {w w' : World τ} (hcareful : studio.Careful)
    (hsession : s.Careful) (hrun : studio.releaseAll s = .ok report s')
    (hsuccess : report.failures = []) (hoptions : other.options = studio.options)
    (hfiles : w.store = s'.world.store) (havailable : other.encoder.available w = .ok () w')
    (huntouched : w'.store = w.store) :
    ∃ report' r, other.releaseAll (.start w) = .ok report' r ∧ report'.failures = [] ∧
      report'.built = report.built.map CatalogueEntry.reused ∧
      r.synthesizer = none ∧ r.opened = 0 ∧ r.world.store = s'.world.store := by
  obtain ⟨scripts, hsettled⟩ := releaseAll_eq_ok hcareful hrun hsession hsuccess
  rw [← hoptions] at hsettled
  have hstart : Session.Rests other.options s'.world.store
      { Session.start w with world := w', events := [.started scripts.length] } :=
    ⟨rfl, rfl, _, by rw [huntouched, hfiles, hsettled.catalogued]⟩
  obtain ⟨s₁, hscripts, hrests⟩ := releaseScripts_of_finished hsettled.finished hstart
    hsettled.catalogued (Catalogue.document_nonempty _)
    (Script.isPlace_of_mem_discover hsettled.discovered)
  have hdiscovered : Script.discover w'.store other.options.scriptFolder = .ok scripts := by
    rw [huntouched, hfiles, hsettled.discovered]
  have hfolder : other.releaseFolder (.start w) = .ok (report.outcomes.map again) s₁ := by
    rw [releaseFolder, bind_of_ok (Build.act_of_ok havailable), Build.act_store_bind]
    simp only [hdiscovered]
    exact hscripts
  let report' : RunReport := ⟨report.outcomes.map again, cataloguePath other.options⟩
  have hbuilt : report'.built = report.built.map CatalogueEntry.reused := RunReport.built_again
  have htext : Catalogue.document report'.built = Catalogue.document report.built := by
    rw [hbuilt, Catalogue.document_reused]
  have hwrite := hrests.writeCatalogue hsettled.catalogue (htext ▸ hsettled.catalogued)
  let catalogued : BuildEvent :=
    .catalogued report'.cataloguePath report'.built.length report'.failures.length
  refine ⟨report', { s₁ with
    world := { s₁.world with store := s'.world.store }
    events := s₁.events ++ [catalogued] }, ?_, RunReport.failures_again hsuccess, hbuilt,
    hrests.synthesizer, hrests.opened, rfl⟩
  rw [releaseAll, bind_of_ok hfolder, catalogue, bind_of_ok (Build.act_of_ok hwrite)]
  rfl

/-- A runner whose programs make an empty file where their last argument says, unless something is
there. -/
def touching : Runner Unit := fun call w =>
  match w.store.locate (call.arguments.getLast?.getD "") with
  | .error cause => (.error cause, w)
  | .ok l =>
    if (w.store.find? l).isSome then (.error .taken, w)
    else (.ok ⟨.success, .empty, .empty, 0⟩, { w with store := w.store.put l (.file .empty false) })

theorem touching_eq_ok {call : ProgramCall} {w w' : World Unit} {r : ProgramResult}
    (h : touching call w = (.ok r, w')) :
    ∃ l, w.store.locate (call.arguments.getLast?.getD "") = .ok l ∧ w.store.find? l = none ∧
      l.fixed? = none ∧ w'.store = w.store.put l (.file .empty false) := by
  unfold touching at h
  split at h
  · cases h
  · next l hl =>
      split at h
      · cases h
      · next hfree =>
          cases h
          have hnone := Option.not_isSome_iff_eq_none.mp hfree
          refine ⟨l, hl, hnone, ?_, rfl⟩
          cases hfixed : l.fixed? with
          | none => rfl
          | some n => simp [Store.find?, hfixed] at hnone

theorem makes_touching {call : ProgramCall} {path : String}
    (hlast : call.arguments.getLast? = some path) : touching.Makes call path := by
  intro w w' r h _
  obtain ⟨l, hl, hnone, hfixed, hstore⟩ := touching_eq_ok h
  rw [hlast, Option.getD_some] at hl
  rw [hstore]
  refine ⟨w.store, l, .empty, false, .refl _, hl, by simp [hnone], Store.changesAt_put _, ?_⟩
  rw [Store.find?_put _ hfixed, if_pos rfl]

/-- A studio whose programs are touching. Its speaker is called in the way of an encoder. -/
def sketching : Studio Unit where
  options := ⟨"p", "t", .opus⟩
  openSynthesizer := pure
    ⟨fun text _ speech => EncoderProgram.encode touching ⟨"speak"⟩ text speech .opus⟩
  encoder := ⟨pure (), EncoderProgram.standard.encode touching⟩

/-- A studio in which nothing can be made. -/
def resting : Studio Unit where
  options := ⟨"p", "t", .opus⟩
  openSynthesizer := throw .emptyCommand
  encoder := ⟨pure (), fun _ _ _ => throw .emptyCommand⟩

/-- A folder with one script, which has one cue. -/
def oneScript : Store :=
  (Store.empty.put ["t"] .directory).put ["t", "a.timeline"]
    (.file "card \"A\"\n  say \"hi\"\n".toUTF8 false)

theorem careful_sketching : sketching.Careful := by
  have hencode : ∀ {e : EncoderProgram} {speech target : String} {format : SpeechFormat}
      {w w' : World Unit}, e.encode touching speech target format w = .ok () w' →
      w.store.Receives target w'.store :=
    EncoderProgram.receives_of_encode (makes_touching List.getLast?_concat)
  refine ⟨fun h => ?_, hencode⟩
  obtain ⟨rfl, rfl⟩ := pure_eq_ok h
  exact ⟨rfl, hencode⟩

/-- What one run has made of a folder, a run in which nothing can be made finds. -/
theorem releaseAll_idempotent_oneScript :
    ∃ report s' report' r, sketching.releaseAll (.start ⟨oneScript, ()⟩) = .ok report s' ∧
      report.built.map (·.counts) = [⟨1, 0, 1, 1⟩] ∧
      resting.releaseAll (.start s'.world) = .ok report' r ∧
      report'.built.map (·.counts) = [⟨1, 1, 0, 0⟩] ∧ r.world.store = s'.world.store := by
  have hrun : ((sketching.releaseAll).run' (.start ⟨oneScript, ()⟩)).map
      (fun report => (report.failures.isEmpty, report.built.map (·.counts))) =
        some (true, [⟨1, 0, 1, 1⟩]) := by
    decide +kernel
  obtain ⟨report, hreport, hresult⟩ := Option.map_eq_some_iff.mp hrun
  obtain ⟨hsuccess, hcounts⟩ := Prod.mk.inj hresult
  obtain ⟨s', hs'⟩ := exists_of_run'_eq_some hreport
  have hoptions : resting.options = sketching.options := rfl
  obtain ⟨report', r, hagain, _, hbuilt, _, _, hstore⟩ := releaseAll_idempotent
    careful_sketching (by rintro x ⟨⟩) hs' (List.isEmpty_iff.mp hsuccess) hoptions rfl rfl rfl
  refine ⟨report, s', report', r, hs', hcounts, hagain, ?_, hstore⟩
  have hreused :=
    congrArg (List.map fun n : BuildCounts => BuildCounts.mk n.cues n.cues 0 0) hcounts
  rw [List.map_map] at hreused
  rw [hbuilt, List.map_map]
  exact hreused

/-! ### Where another run finds less -/

/-- Whoever succeeds in speaking or encoding has made the one file that was asked for; of the opening
of a synthesizer nothing is known. -/
structure Obliging {σ : Type} (studio : Studio σ) : Prop where
  opened : ∀ {w w' : World σ} {x : Synthesizer σ},
    studio.openSynthesizer w = .ok x w' → x.Careful
  encoding : ∀ {speech target : String} {format : SpeechFormat} {w w' : World σ},
    studio.encoder.encode speech target format w = .ok () w' → w.store.Receives target w'.store

theorem obliging_sketching : sketching.Obliging where
  opened h := (careful_sketching.opening h).2
  encoding := careful_sketching.encoding

/-- A studio that takes a script away when it opens its synthesizer. -/
def forgetful : Studio Unit :=
  { sketching with
    openSynthesizer := do
      Act.changing (.unwritten "t/a.timeline") (·.remove "t/a.timeline")
      sketching.openSynthesizer }

theorem obliging_forgetful : forgetful.Obliging where
  opened h := by
    obtain ⟨_, _, -, h⟩ := bind_eq_ok h
    exact obliging_sketching.opened h
  encoding := careful_sketching.encoding

/-- A studio in which nothing can be made, and whose encoder leaves a note when it is asked for. -/
def noting : Studio Unit :=
  { resting with encoder := { resting.encoder with available := Act.writeText "note" "" } }

/-- After a run without failures, another one with the same options builds other timelines, or leaves
other files. -/
def Varies (studio other : Studio Unit) (store : Store) : Prop :=
  other.options = studio.options ∧ ∃ report s' report' r,
    studio.releaseAll (.start ⟨store, ()⟩) = .ok report s' ∧ report.failures = [] ∧
    other.releaseAll (.start s'.world) = .ok report' r ∧
    (report'.built.length ≠ report.built.length ∨
      ∃ l, r.world.store.find? l ≠ s'.world.store.find? l)

theorem varies_of_told {studio other : Studio Unit} {store : Store} (l : Location)
    (hoptions : other.options = studio.options)
    (h : (match studio.releaseAll (.start ⟨store, ()⟩) with
      | .error .. => false
      | .ok report s' => report.failures.isEmpty &&
        match other.releaseAll (.start s'.world) with
        | .error .. => false
        | .ok report' r => decide (report'.built.length ≠ report.built.length) ||
          decide (r.world.store.find? l ≠ s'.world.store.find? l)) = true) :
    Varies studio other store := by
  refine ⟨hoptions, ?_⟩
  split at h
  · cases h
  · next report s' hrun =>
      obtain ⟨hsuccess, h⟩ := Bool.and_eq_true_iff.mp h
      split at h
      · cases h
      · next report' r hagain =>
          refine ⟨report, s', report', r, hrun, List.isEmpty_iff.mp hsuccess, hagain, ?_⟩
          rcases Bool.or_eq_true_iff.mp h with hbuilt | hfiles
          · exact .inl (of_decide_eq_true hbuilt)
          · exact .inr ⟨l, of_decide_eq_true hfiles⟩

/-- Another run finds less where the opening of the synthesizer has taken a script away, and it leaves
other files where its encoder touches one when it is asked for. -/
theorem releaseAll_idempotent_fails :
    (forgetful.Obliging ∧ Varies forgetful resting oneScript) ∧
      sketching.Obliging ∧ Varies sketching noting oneScript := by
  refine ⟨⟨obliging_forgetful, varies_of_told [] rfl ?_⟩, obliging_sketching,
    varies_of_told ["note"] rfl ?_⟩
  · decide +kernel
  · decide +kernel

end Studio

end Storyboard
