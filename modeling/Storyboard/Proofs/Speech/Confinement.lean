import Mathlib
import Storyboard.Proofs.Speech.Delivery
import Storyboard.Proofs.Speech.Documents

/-!
Which files a build can touch, however it ends: the speech of the cues of its timeline and what it
is encoded to, in the folder of the timeline, and the two documents of the timeline. Where a cue
fails, no document is touched; where the timeline does not pass the checks, nothing is; and no asset
that is there is made again.
-/

namespace Storyboard

/-! ### Files of a timeline -/

namespace StudioOptions

variable (o : StudioOptions) (t : Timeline)

/-- The files in the folder of a timeline that belong to its cues. -/
def soundFiles (l : Location) : Prop :=
  ∃ i ∈ t.items, ∃ c ∈ i.speech, ∃ extension ∈ ["wav", o.format.extension],
    l = Path.place o.publicRoot ++ ["speech", t.name, Asset.base c ++ "." ++ extension]

def documentFiles (l : Location) : Prop :=
  ∃ file ∈ [t.name ++ ".json", t.name ++ ".speech.js"],
    l = Path.place o.publicRoot ++ ["timelines", file]

/-- The files that belong to the cues of a timeline, as far as they are not encoded already. -/
def openFiles (before : Store) (l : Location) : Prop :=
  ∃ i ∈ t.items, ∃ c ∈ i.speech, l = Path.place (Asset.ofCue o t.name c).speech ∨
    l = Path.place (Asset.ofCue o t.name c).encoded ∧ ¬ before.HasAsset o t.name c

variable {o t}

theorem not_soundFiles_of_documentFiles {l : Location} (h : o.documentFiles t l) :
    ¬ o.soundFiles t l := by
  rintro ⟨i, -, c, -, extension, -, rfl⟩
  obtain ⟨file, -, hl⟩ := h
  have hlength := congrArg List.length hl
  simp at hlength

end StudioOptions

namespace Studio

variable {o : StudioOptions} {t : Timeline} {before : Store} {l : Location} {i : Item} {c : Cue}

theorem permits_openFiles : Permits o (o.openFiles t before) before t where
  speech i hi c hc := ⟨i, hi, c, hc, .inl rfl⟩
  encoded i hi c hc hmissing := ⟨i, hi, c, hc, .inr ⟨rfl, hmissing⟩⟩

theorem soundFiles_speech (ht : t.check = .ok ()) (hi : i ∈ t.items) (hc : c ∈ i.speech) :
    o.soundFiles t (Path.place (Asset.ofCue o t.name c).speech) := by
  have hname := (Timeline.check_eq_ok.mp ht).1
  refine ⟨i, hi, c, hc, Asset.speechExtension, List.mem_cons_self, ?_⟩
  rw [Asset.place_speech hname (Timeline.isVoice_of_check ht hi hc), Location.kept, Asset.named]

theorem soundFiles_encoded (ht : t.check = .ok ()) (hi : i ∈ t.items) (hc : c ∈ i.speech) :
    o.soundFiles t (Path.place (Asset.ofCue o t.name c).encoded) := by
  have hname := (Timeline.check_eq_ok.mp ht).1
  refine ⟨i, hi, c, hc, o.format.extension, List.mem_cons_of_mem _ List.mem_cons_self, ?_⟩
  rw [Asset.place_encoded hname (Timeline.isVoice_of_check ht hi hc), Location.kept, Asset.named]

theorem soundFiles_of_openFiles (ht : t.check = .ok ()) (h : o.openFiles t before l) :
    o.soundFiles t l := by
  obtain ⟨i, hi, c, hc, hl | ⟨hl, -⟩⟩ := h
  · rw [hl]
    exact soundFiles_speech ht hi hc
  · rw [hl]
    exact soundFiles_encoded ht hi hc

/-- What is encoded already is not made for another cue either. -/
theorem not_openFiles_of_hasAsset (ht : t.check = .ok ()) (hi : i ∈ t.items) (hc : c ∈ i.speech)
    (hthere : before.HasAsset o t.name c) :
    ¬ o.openFiles t before (Path.place (Asset.ofCue o t.name c).encoded) := by
  have hname := (Timeline.check_eq_ok.mp ht).1
  rintro ⟨j, hj, d, hd, hspeech | ⟨hencoded, hmissing⟩⟩
  · have hending := congrArg Location.ending hspeech
    rw [Asset.ending_speech] at hending
    exact Asset.ending_encoded_ne _ _ _ hending
  · refine hmissing ?_
    have hplain := o.format.extension_plain.2.1
    rw [Asset.place_encoded hname (Timeline.isVoice_of_check ht hi hc),
      Asset.place_encoded hname (Timeline.isVoice_of_check ht hj hd)] at hencoded
    have hbase := (Asset.kept_injective hplain hplain hencoded).1
    rw [Store.HasAsset, Asset.encoded_ofCue, hbase, ← Asset.encoded_ofCue] at hthere
    exact hthere

theorem place_documentFiles (ht : t.check = .ok ()) :
    o.documentFiles t (Path.place (documentPath o t.name)) ∧
      o.documentFiles t (Path.place (bundlePath o t.name)) := by
  have hslash := not_mem_of_checkName (Timeline.check_eq_ok.mp ht).1
  rw [place_documentPath hslash, place_bundlePath hslash, StudioOptions.place_outputFolder]
  constructor
  · exact ⟨_, List.mem_cons_self, List.append_assoc _ _ _⟩
  · exact ⟨_, List.mem_cons_of_mem _ List.mem_cons_self, List.append_assoc _ _ _⟩

/-! ### Builds -/

variable {σ : Type} {studio : Studio σ} {s s' : Session σ} {e : Error}

theorem release_of_check_error {fault : Fault} (h : t.check = .error fault) :
    studio.release t s = .error (.invalid fault) s := by
  rw [release, releaseOn, h]
  rfl

theorem release_of_enrich_error (ht : t.check = .ok ()) (h : studio.enrich t s = .error e s') :
    studio.release t s = .error e s' := by
  rw [release, releaseOn, ht]
  exact bind_of_error h _

theorem confined_enrich_openFiles (hneat : studio.Neat Location.anywhere)
    (hs : s.Tidy Location.anywhere) (ht : t.check = .ok ()) :
    s.world.store.Confined Location.anywhere (studio.options.openFiles t s.world.store)
      (after (studio.enrich t) s).world.store :=
  (confined_enrich hneat opensOnly_anywhere permits_openFiles ht ⟨.refl _ _ _, hs⟩).store

theorem confined_release_openFiles (hneat : studio.Neat Location.anywhere)
    (hs : s.Tidy Location.anywhere) (ht : t.check = .ok ()) :
    s.world.store.Confined Location.anywhere
      (fun l => studio.options.openFiles t s.world.store l ∨ studio.options.documentFiles t l)
      (after (studio.release t) s).world.store := by
  refine (confined_release hneat opensOnly_anywhere ?_ ⟨.refl _ _ _, hs⟩).store
  intro _
  obtain ⟨hdocument, hbundle⟩ := place_documentFiles ht
  have hpermits : Permits studio.options (studio.options.openFiles t s.world.store) s.world.store t :=
    permits_openFiles
  refine ⟨⟨?_, ?_⟩, .inr hdocument, .inr hbundle⟩
  · intro i hi c hc
    exact .inl (hpermits.speech i hi c hc)
  · intro i hi c hc hmissing
    exact .inl (hpermits.encoded i hi c hc hmissing)

theorem kept_of_locate (hneat : studio.Neat Location.anywhere) (hs : s.Tidy Location.anywhere)
    (ht : t.check = .ok ()) (hi : i ∈ t.items) (hc : c ∈ i.speech) {n : Node}
    (hl : s.world.store.locate (Asset.ofCue studio.options t.name c).encoded = .ok l)
    (hn : s.world.store.find? l = some n) :
    (after (studio.release t) s).world.store.find? l = some n := by
  have hthere : s.world.store.HasAsset studio.options t.name c :=
    Store.contains_iff.mpr ⟨l, hl, Option.isSome_iff_exists.mpr ⟨n, hn⟩⟩
  -- Where the asset is, nothing may be touched: it is encoded, and it is no document.
  refine (confined_release_openFiles hneat hs ht).node ?_ hn
  rw [Store.locate_eq_ok hl]
  rintro (hopen | hdocument)
  · exact not_openFiles_of_hasAsset ht hi hc hthere hopen
  · exact StudioOptions.not_soundFiles_of_documentFiles hdocument (soundFiles_encoded ht hi hc)

theorem addresses_of_enrich (ht : t.check = .ok ()) {r : Timeline × List Origin}
    (h : studio.enrich t s = .ok r s') :
    List.Forall₂ (fun i j : Item => ∃ made, j = i.withSound [] (i.audio ++ made) ∧
      List.Forall₂ (fun c a => Path.join studio.options.publicRoot a.source =
        (Asset.ofCue studio.options t.name c).encoded) i.speech made) t.items r.1.items := by
  have hname := (Timeline.check_eq_ok.mp ht).1
  rw [enrich_eq_ok h, Timeline.produced, List.forall₂_map_right_iff, List.forall₂_same]
  intro i hi
  refine ⟨_, rfl, ?_⟩
  rw [List.forall₂_map_right_iff, List.forall₂_same]
  intro c hc
  exact (Asset.encoded_eq_join hname (Timeline.isVoice_of_check ht hi hc)).symm

/-- Whether a build succeeds or fails, no file is made, changed or taken away but sounds of its
timeline's own cues, direct children of the folder of the timeline, and two documents; what is
encoded already stays. A timeline that does not pass the checks leaves everything as it is, and a
cue that fails leaves the documents. In what is produced, every cue has become a sound whose address
leads from the public root to the encoded file. Of the parties it is assumed that they touch nothing
but the file they are called for, and of the opening of a synthesizer that it touches none. -/
theorem release_confined (hneat : studio.Neat Location.anywhere) (hs : s.Tidy Location.anywhere)
    (t : Timeline) :
    (∀ fault, t.check = .error fault → studio.release t s = .error (.invalid fault) s) ∧
    s.world.store.Confined Location.anywhere
      (fun l => studio.options.soundFiles t l ∨ studio.options.documentFiles t l)
      (after (studio.release t) s).world.store ∧
    (∀ i ∈ t.items, ∀ c ∈ i.speech, s.world.store.HasAsset studio.options t.name c →
      ∃ l n, s.world.store.locate (Asset.ofCue studio.options t.name c).encoded = .ok l ∧
        s.world.store.find? l = some n ∧
        (after (studio.release t) s).world.store.find? l = some n) ∧
    (∀ e s', t.check = .ok () → studio.enrich t s = .error e s' →
      studio.release t s = .error e s' ∧
      s.world.store.Confined Location.anywhere (studio.options.soundFiles t) s'.world.store ∧
      ∀ l, studio.options.documentFiles t l → ¬ studio.options.soundFiles t l) ∧
    ∀ r s', t.check = .ok () → studio.enrich t s = .ok r s' →
      List.Forall₂ (fun i j : Item => ∃ made, j = i.withSound [] (i.audio ++ made) ∧
        List.Forall₂ (fun c a => Path.join studio.options.publicRoot a.source =
          (Asset.ofCue studio.options t.name c).encoded) i.speech made) t.items r.1.items := by
  have hunchecked : ∀ fault, t.check = .error fault → after (studio.release t) s = s := by
    intro fault hcheck
    rw [after, release_of_check_error hcheck]
  refine ⟨fun fault => release_of_check_error, ?_, ?_, ?_, ?_⟩
  · cases hcheck : t.check with
    | error fault =>
        rw [hunchecked fault hcheck]
        exact .refl _ _ _
    | ok u =>
        refine (confined_release_openFiles hneat hs hcheck).mono ?_
        rintro l (hopen | hdocument)
        · exact .inl (soundFiles_of_openFiles hcheck hopen)
        · exact .inr hdocument
  · intro i hi c hc hthere
    obtain ⟨l, hl, hsome⟩ := Store.contains_iff.mp hthere
    obtain ⟨n, hn⟩ := Option.isSome_iff_exists.mp hsome
    refine ⟨l, n, hl, hn, ?_⟩
    cases hcheck : t.check with
    | error fault => rw [hunchecked fault hcheck, hn]
    | ok u => exact kept_of_locate hneat hs hcheck hi hc hl hn
  · intro e s' hcheck hfailed
    refine ⟨release_of_enrich_error hcheck hfailed, ?_, ?_⟩
    · have hconfined := confined_enrich_openFiles hneat hs hcheck
      rw [after, hfailed] at hconfined
      exact hconfined.mono fun l => soundFiles_of_openFiles hcheck
    · intro l
      exact StudioOptions.not_soundFiles_of_documentFiles
  · intro r s' hcheck henrich
    exact addresses_of_enrich hcheck henrich

theorem neat_reciting : reciting.Neat Location.anywhere where
  opening _ := rfl
  opened h := by
    obtain ⟨rfl, -⟩ := pure_eq_ok h
    intro text voice speech w _
    obtain hsame | hwrite := Act.after_changing (.unwritten speech) (·.write speech text.toUTF8) w
    · exact hsame ▸ .refl _ _ _
    · exact .of_write hwrite rfl
  encoding speech target format w _ := by
    obtain hsame | ⟨content, -, -, hwrite⟩ := after_recited speech target format w
    · exact hsame ▸ .refl _ _ _
    · exact .of_write hwrite rfl

def greet (text : String) : Cue :=
  ⟨text, "v", .inEnd, .zero⟩

/-- Two cues, of which the first one is encoded already where there has been a greeting. -/
def greetings : Timeline :=
  ⟨"d", [.card ⟨"A", none, .zero, [greet "", greet "hi"], []⟩]⟩

def greetedAgain : Session Unit :=
  after (reciting.release greetings) (.start ⟨greeted, ()⟩)

/-- The first cue keeps its file, and the second one gets one. -/
theorem release_confined_greetings :
    (∃ l n, greeted.locate (Asset.ofCue reciting.options "d" (greet "")).encoded = .ok l ∧
      greeted.find? l = some n ∧ greetedAgain.world.store.find? l = some n) ∧
    ¬ greeted.HasAsset reciting.options "d" (greet "hi") ∧
    greetedAgain.world.store.HasAsset reciting.options "d" (greet "hi") := by
  have hs : (Session.start ⟨greeted, ()⟩ : Session Unit).Tidy Location.anywhere := by
    rintro x ⟨⟩
  obtain ⟨-, -, hkept, -⟩ := release_confined neat_reciting hs greetings
  have hfirst : greeted.HasAsset reciting.options "d" (greet "") := by
    unfold Store.HasAsset
    decide +kernel
  refine ⟨?_, ?_, ?_⟩
  · unfold greetedAgain
    exact hkept _ List.mem_cons_self (greet "") List.mem_cons_self hfirst
  · unfold Store.HasAsset
    decide +kernel
  · unfold Store.HasAsset
    decide +kernel

/-! ### Where a build is not confined -/

/-- Parties that touch no file but the one they are called for; of the opening of a synthesizer
nothing is known. -/
structure Dutiful (studio : Studio σ) : Prop where
  opened : ∀ {x : Synthesizer σ} {w w' : World σ}, studio.openSynthesizer w = .ok x w' →
    x.Tidy Location.anywhere
  encoding : ∀ (speech target : String) (format : SpeechFormat) (w : World σ),
    w.store.Houses target → w.store.Confined Location.anywhere (· = Path.place target)
      (after (studio.encoder.encode speech target format) w).store

def recitingAt (publicRoot : String) : Studio Unit :=
  { reciting with options := ⟨publicRoot, "t", .opus⟩ }

theorem dutiful_recitingAt (publicRoot : String) : (recitingAt publicRoot).Dutiful :=
  ⟨neat_reciting.opened, neat_reciting.encoding⟩

/-- A studio that leaves a note when it opens its synthesizer. -/
def scribbling : Studio Unit :=
  { reciting with
    openSynthesizer := do
      Act.writeText "note" ""
      reciting.openSynthesizer }

theorem dutiful_scribbling : scribbling.Dutiful where
  opened h := by
    obtain ⟨_, _, -, h⟩ := bind_eq_ok h
    exact neat_reciting.opened h
  encoding := neat_reciting.encoding

theorem not_files_of_length_eq_one {o : StudioOptions} {l : Location} (h : l.length = 1) :
    ¬ o.soundFiles t l ∧ ¬ o.documentFiles t l := by
  constructor
  · rintro ⟨_, _, _, _, _, _, rfl⟩
    simp at h
  · rintro ⟨_, _, rfl⟩
    simp at h

def hello : Timeline :=
  ⟨"d", [.card ⟨"A", none, .zero, [greet "hi"], []⟩]⟩

/-- Files among which there is another recording of the cue. -/
def recorded : Store :=
  (((Store.empty.put ["p"] .directory).put ["p", "speech"] .directory).put ["p", "speech", "d"]
    .directory).put ["p", "speech", "d", Asset.named (AssetName.basename "hi" "v") "opus"]
      (.file "OPUS".toUTF8 false)

/-- A build is not confined where the opening of the synthesizer touches a file, and what is encoded
already is made again where only the build itself opens the way to it. -/
theorem release_confined_fails :
    (scribbling.Dutiful ∧ ∃ l, ¬ scribbling.options.soundFiles hello l ∧
      ¬ scribbling.options.documentFiles hello l ∧
      (after (scribbling.release hello) (.start ⟨.empty, ()⟩)).world.store.find? l =
        some (.file .empty false)) ∧
    (recitingAt "m/../p").Dutiful ∧ ∃ l,
      l = Path.place (Asset.ofCue (recitingAt "m/../p").options "d" (greet "hi")).encoded ∧
      recorded.find? l = some (.file "OPUS".toUTF8 false) ∧
      (after ((recitingAt "m/../p").release hello) (.start ⟨recorded, ()⟩)).world.store.find? l =
        some (.file "hi".toUTF8 false) := by
  obtain ⟨hsound, hdocument⟩ := not_files_of_length_eq_one (o := scribbling.options) (t := hello)
    (l := ["note"]) rfl
  refine ⟨⟨dutiful_scribbling, ["note"], hsound, hdocument, ?_⟩, dutiful_recitingAt _, _, rfl,
    ?_, ?_⟩
  · decide +kernel
  · decide +kernel
  · decide +kernel

end Studio

end Storyboard
