import Mathlib
import Storyboard.Proofs.Disk.Change
import Storyboard.Proofs.Script.Folder
import Storyboard.Proofs.Timeline.Check
import Storyboard.Speech.Release

/-!
Where a studio writes, and what its writing leaves alone. The extension of a file tells whether it
is speech, encoded speech or a document; no script has such an extension. What a build keeps of the
files is told as a relation between the files before and after it.
-/

namespace Storyboard

/-! ### Places of the files of a studio -/

/-- Whether a location is one of speech, encoded or not. -/
def Location.isAsset (l : Location) : Prop :=
  l.ending = Asset.speechExtension.toList ∨
    ∃ format : SpeechFormat, l.ending = format.extension.toList

theorem SpeechFormat.extension_plain (format : SpeechFormat) :
    format.extension.toList ≠ [] ∧ '.' ∉ format.extension.toList ∧
      '/' ∉ format.extension.toList := by
  cases format <;> decide

theorem SpeechFormat.extension_injective {format other : SpeechFormat}
    (h : format.extension = other.extension) : format = other := by
  cases format <;> cases other <;> first | rfl | exact absurd h (by decide)

namespace Asset

theorem toList_named (base extension : String) :
    (named base extension).toList = base.toList ++ '.' :: extension.toList := by
  simp [named]

variable (o : StudioOptions) (name : String) (c : Cue)

/-- The name of the asset of the cue, without an extension. -/
def base : String :=
  AssetName.basename (Pronunciation.apply c.text) c.voice

theorem speech_ofCue : (ofCue o name c).speech =
    Path.join (Path.join o.speechRoot name) (named (base c) speechExtension) := by
  simp only [ofCue, base]

theorem encoded_ofCue : (ofCue o name c).encoded =
    Path.join (Path.join o.speechRoot name) (named (base c) o.format.extension) := by
  simp only [ofCue, base]

theorem basename_ofCue :
    AssetName.basename (ofCue o name c).text (ofCue o name c).voice = base c := by
  simp only [ofCue, base]

theorem ending_speech :
    (Path.place (ofCue o name c).speech).ending = speechExtension.toList := by
  rw [speech_ofCue]
  exact Path.ending_place_join _ (toList_named _ _) (by decide) (by decide) (by decide)

theorem ending_encoded :
    (Path.place (ofCue o name c).encoded).ending = o.format.extension.toList := by
  obtain ⟨hne, hdot, hslash⟩ := o.format.extension_plain
  rw [encoded_ofCue]
  exact Path.ending_place_join _ (toList_named _ _) hne hdot hslash

end Asset

namespace Studio

variable (o : StudioOptions) (name : String)

theorem toList_document : (name ++ ".json").toList = name.toList ++ '.' :: "json".toList := by
  simp

theorem toList_bundle :
    (name ++ ".speech.js").toList = (name.toList ++ ".speech".toList) ++ '.' :: "js".toList := by
  simp

theorem ending_documentPath : (Path.place (documentPath o name)).ending = "json".toList :=
  Path.ending_place_join _ (toList_document name) (by decide) (by decide) (by decide)

theorem ending_bundlePath : (Path.place (bundlePath o name)).ending = "js".toList :=
  Path.ending_place_join _ (toList_bundle name) (by decide) (by decide) (by decide)

theorem isPlace_documentPath : Script.isPlace (Path.place (documentPath o name)) = false := by
  rw [Script.isPlace, ending_documentPath]
  decide

theorem isPlace_bundlePath : Script.isPlace (Path.place (bundlePath o name)) = false := by
  rw [Script.isPlace, ending_bundlePath]
  decide

/-- The catalogue is written where the document of a timeline of its name would be. -/
theorem cataloguePath_eq : cataloguePath o = documentPath o "registry" :=
  rfl

end Studio

theorem Location.isPlace_of_isAsset {l : Location} (h : l.isAsset) : Script.isPlace l = false := by
  unfold Script.isPlace
  obtain h | ⟨format, h⟩ := h
  · rw [h]
    decide
  · rw [h]
    cases format <;> decide

/-- The locations that are written for timelines with some names. -/
def StudioOptions.writes (o : StudioOptions) (names : String → Prop) (l : Location) : Prop :=
  l.isAsset ∨ ∃ name, names name ∧ '/' ∉ name.toList ∧
    (l = Path.place (Studio.documentPath o name) ∨ l = Path.place (Studio.bundlePath o name))

namespace Studio

variable {o : StudioOptions} {name other : String}

theorem not_mem_of_checkName (h : Timeline.checkName name = .ok ()) : '/' ∉ name.toList := by
  obtain ⟨-, -, -, hslash, -⟩ := Timeline.checkName_eq_ok.mp h
  exact hslash

theorem place_documentPath (h : '/' ∉ name.toList) :
    Path.place (documentPath o name) = Path.place o.outputFolder ++ [name ++ ".json"] :=
  Path.place_join_named _ (toList_document name) (by decide) (by decide) (by simp [h])

theorem place_bundlePath (h : '/' ∉ name.toList) :
    Path.place (bundlePath o name) = Path.place o.outputFolder ++ [name ++ ".speech.js"] :=
  Path.place_join_named _ (toList_bundle name) (by decide) (by decide) (by simp [h])

theorem documentPath_injective (hname : '/' ∉ name.toList) (hother : '/' ∉ other.toList)
    (h : Path.place (documentPath o name) = Path.place (documentPath o other)) : name = other := by
  rw [place_documentPath hname, place_documentPath hother] at h
  simpa using h

theorem bundlePath_injective (hname : '/' ∉ name.toList) (hother : '/' ∉ other.toList)
    (h : Path.place (bundlePath o name) = Path.place (bundlePath o other)) : name = other := by
  rw [place_bundlePath hname, place_bundlePath hother] at h
  simpa using h

/-- No script stands where something is written. -/
theorem isPlace_of_writes {names : String → Prop} {l : Location} (h : o.writes names l) :
    Script.isPlace l = false := by
  obtain hasset | ⟨name, _, _, rfl | rfl⟩ := h
  · exact Location.isPlace_of_isAsset hasset
  · exact isPlace_documentPath o name
  · exact isPlace_bundlePath o name

theorem not_isAsset_of_ending {l : Location}
    (h : l.ending = "json".toList ∨ l.ending = "js".toList) : ¬ l.isAsset := by
  rintro (hasset | ⟨format, hasset⟩)
  all_goals
    rw [hasset] at h
  · exact absurd h (by decide)
  · cases format <;> exact absurd h (by decide)

theorem not_writes_documentPath {names : String → Prop} (hname : '/' ∉ name.toList)
    (h : ¬ names name) : ¬ o.writes names (Path.place (documentPath o name)) := by
  have hending := ending_documentPath o name
  rintro (hasset | ⟨other, hother, hslash, hdocument | hbundle⟩)
  · exact not_isAsset_of_ending (.inl hending) hasset
  · exact h (documentPath_injective hname hslash hdocument ▸ hother)
  · rw [hbundle, ending_bundlePath] at hending
    exact absurd hending (by decide)

theorem not_writes_bundlePath {names : String → Prop} (hname : '/' ∉ name.toList)
    (h : ¬ names name) : ¬ o.writes names (Path.place (bundlePath o name)) := by
  have hending := ending_bundlePath o name
  rintro (hasset | ⟨other, hother, hslash, hdocument | hbundle⟩)
  · exact not_isAsset_of_ending (.inr hending) hasset
  · rw [hdocument, ending_documentPath] at hending
    exact absurd hending (by decide)
  · exact h (bundlePath_injective hname hslash hbundle ▸ hother)

end Studio

/-- The locations that a run writes for timelines with some names: theirs and the catalogue's. -/
def StudioOptions.writesInRun (o : StudioOptions) (names : String → Prop) (l : Location) : Prop :=
  o.writes names l ∨ l = Path.place (Studio.cataloguePath o)

theorem Studio.isPlace_cataloguePath (o : StudioOptions) :
    Script.isPlace (Path.place (cataloguePath o)) = false :=
  isPlace_documentPath o "registry"

theorem Studio.isPlace_of_writesInRun {o : StudioOptions} {names : String → Prop} {l : Location}
    (h : o.writesInRun names l) : Script.isPlace l = false := by
  obtain h | rfl := h
  · exact isPlace_of_writes h
  · exact isPlace_cataloguePath o

/-! ### What is kept -/

namespace Store

variable {s s' s'' : Store} {W V : Location → Prop} {path : String}

/-- Files as a build leaves them that writes at some locations only: directories stay, what stands
elsewhere stays as it is, nothing is taken away but speech, and the scripts are the same. -/
structure Keeps (W : Location → Prop) (s s' : Store) : Prop where
  directory : ∀ {l}, s.find? l = some .directory → s'.find? l = some .directory
  node : ∀ {l n}, ¬ W l → s.find? l = some n → s'.find? l = some n
  present : ∀ {l : Location}, l.ending ≠ Asset.speechExtension.toList →
    (s.find? l).isSome → (s'.find? l).isSome
  scripts : s'.entries.filter Script.isEntry = s.entries.filter Script.isEntry

namespace Keeps

protected theorem refl (W : Location → Prop) (s : Store) : Keeps W s s :=
  ⟨id, fun _ => id, fun _ => id, rfl⟩

protected theorem trans (h : Keeps W s s') (h' : Keeps W s' s'') : Keeps W s s'' :=
  ⟨fun hl => h'.directory (h.directory hl), fun hW hl => h'.node hW (h.node hW hl),
    fun hend hl => h'.present hend (h.present hend hl), h'.scripts.trans h.scripts⟩

theorem mono (h : Keeps W s s') (hWV : ∀ l, W l → V l) : Keeps V s s' :=
  ⟨h.directory, fun hV hl => h.node (fun hW => hV (hWV _ hW)) hl, h.present, h.scripts⟩

theorem of_addsDirectories (h : AddsDirectories s s') : Keeps W s s' where
  directory := h.node
  node _ hl := h.node hl
  present _ hl := by
    obtain ⟨n, hn⟩ := Option.isSome_iff_exists.mp hl
    exact Option.isSome_iff_exists.mpr ⟨n, h.node hn⟩
  scripts := h.filter Script.isEntry_directory

theorem of_changesAt {l : Location} (h : ChangesAt l s s') (hW : W l)
    (hscript : Script.isPlace l = false) (hl : s.find? l ≠ some .directory)
    (hthere : l.ending = Asset.speechExtension.toList ∨ (s'.find? l).isSome) : Keeps W s s' where
  directory := by
    intro m hm
    rwa [h.find?_eq]
    rintro rfl
    exact hl hm
  node := by
    intro m n hm hn
    rwa [h.find?_eq]
    rintro rfl
    exact hm hW
  present := by
    intro m hend hm
    by_cases hml : m = l
    · exact hml ▸ hthere.resolve_left (hml ▸ hend)
    · rwa [h.find?_eq hml]
  scripts := by
    refine h.filter_eq fun n => ?_
    rw [← Bool.not_eq_true]
    intro hentry
    rw [Script.isPlace_of_isEntry hentry] at hscript
    cases hscript

theorem of_writeAt {l : Location} {content : ByteArray} (h : s.writeAt l content = .ok s')
    (hW : W l) (hscript : Script.isPlace l = false) : Keeps W s s' :=
  .of_changesAt (changesAt_writeAt h) hW hscript (find?_ne_directory_of_writeAt h)
    (.inr (isSome_of_writeAt h))

theorem of_remove (h : s.remove path = .ok s') (hW : W (Path.place path))
    (hend : (Path.place path).ending = Asset.speechExtension.toList) : Keeps W s s' := by
  obtain ⟨content, isProgram, hfile, rfl⟩ := remove_eq_ok h
  refine .of_changesAt changesAt_erase hW (Location.isPlace_of_isAsset (.inl hend)) ?_ (.inl hend)
  rw [hfile]
  nofun

theorem contains (h : Keeps W s s')
    (hend : (Path.place path).ending ≠ Asset.speechExtension.toList) (hs : s.contains path) :
    s'.contains path := by
  obtain ⟨l, hl, hsome⟩ := contains_iff.mp hs
  refine contains_iff.mpr ⟨l, locate_mono (fun _ => h.directory) hl, h.present ?_ hsome⟩
  rwa [locate_eq_ok hl]

theorem readText (h : Keeps W s s') (hW : ¬ W (Path.place path)) {text : String}
    (hs : s.readText path = .ok text) : s'.readText path = .ok text :=
  readText_mono (fun _ => h.directory) (h.node hW) hs

theorem discover (h : Keeps W s s') {directory : String} {scripts : List String}
    (hs : Script.discover s directory = .ok scripts) :
    Script.discover s' directory = .ok scripts :=
  Script.discover_congr (fun _ => h.directory) h.scripts hs

end Keeps

/-- What a run writes for timelines, and then the catalogue. -/
theorem Keeps.catalogue {o : StudioOptions} {names : String → Prop}
    (h : s.Keeps (o.writes names) s')
    (h' : s'.Keeps (· = Path.place (Studio.cataloguePath o)) s'') :
    s.Keeps (o.writesInRun names) s'' :=
  (h.mono fun _ => Or.inl).trans (h'.mono fun _ => Or.inr)

/-! ### Documents that are there -/

/-- A document can be written at a path without making directories. -/
structure Ready (s : Store) (path : String) : Prop where
  furnished : ∀ parent ∈ Path.parent? path, s.Furnished parent
  located : s.locateNew path = .ok (Path.place path)

theorem Ready.mono (hdir : ∀ l, s.find? l = some .directory → s'.find? l = some .directory)
    (h : s.Ready path) : s'.Ready path :=
  ⟨fun parent hparent => (h.furnished parent hparent).mono hdir, locateNew_mono hdir h.located⟩

theorem Keeps.writeAt_self (h : Keeps W s s') {l : Location} (hW : ¬ W l) {content : ByteArray}
    (hs : s.writeAt l content = .ok s) : s'.writeAt l content = .ok s' := by
  refine writeAt_self_congr hs ?_
  obtain ⟨isProgram, hl⟩ | ⟨_, d, hl⟩ := find?_of_writeAt hs
  all_goals rw [hl, h.node hW hl]

end Store

end Storyboard
