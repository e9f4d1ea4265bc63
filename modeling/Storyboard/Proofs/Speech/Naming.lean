import Mathlib
import Storyboard.Proofs.Disk.Folder
import Storyboard.Proofs.Speech.Output

/-!
Names of assets. All characters of a name are ones that a slug keeps, so the speech of a timeline
whose name passes the check stands two steps below the root of the speech, in a directory that is
named like the timeline.
-/

namespace Storyboard

/-! ### Characters -/

theorem Text.exists_of_mem_hexDigits {count n : Nat} {c : Char} (h : c ∈ hexDigits count n) :
    ∃ d < 16, c = hexChar d := by
  induction count generalizing n with
  | zero => cases h
  | succ count ih =>
      obtain h | h := List.mem_append.mp h
      · exact ih h
      · exact ⟨_, Nat.mod_lt n (by decide), List.mem_singleton.mp h⟩

namespace AssetName

theorem isSlugChar_of_mem_dashed (afterDash : Bool) (s : List Char) :
    ∀ c ∈ dashed afterDash s, isSlugChar c := by
  induction s generalizing afterDash with
  | nil => exact List.forall_mem_nil _
  | cons c rest ih =>
      have hkept : isSlugChar (if isSlugChar c then c else '-') := by
        split
        · assumption
        · decide
      rw [dashed]
      generalize (if isSlugChar c then c else '-') = d at hkept ⊢
      by_cases hdash : d = '-'
      · rw [if_pos hdash]
        cases afterDash with
        | true => exact ih true
        | false => exact List.forall_mem_cons.mpr ⟨hdash ▸ hkept, ih true⟩
      · rw [if_neg hdash]
        exact List.forall_mem_cons.mpr ⟨hkept, ih false⟩

theorem isSlugChar_of_mem_slug {text : String} : ∀ c ∈ (slug text).toList, isSlugChar c := by
  unfold slug
  split
  · exact List.all_eq_true.mp (by decide)
  · intro c hc
    rw [String.toList_ofList] at hc
    refine isSlugChar_of_mem_dashed false text.toList c ?_
    have htrimmed := List.mem_of_mem_take hc
    have hfront := List.mem_reverse.mp htrimmed
    have hback := List.mem_reverse.mp ((List.dropWhile_suffix _).subset hfront)
    exact (List.dropWhile_suffix _).subset hback

theorem isSlugChar_of_mem_key {voice text : String} :
    ∀ c ∈ (key voice text).toList, isSlugChar c := by
  have hdigit : ∀ d < 16, isSlugChar (Text.hexChar d) := by decide
  intro c hc
  rw [key, String.toList_ofList] at hc
  obtain ⟨d, hd, rfl⟩ := Text.exists_of_mem_hexDigits hc
  exact hdigit d hd

theorem isSlugChar_of_mem_basename {text voice : String} (hvoice : Cue.isVoice voice) :
    ∀ c ∈ (basename text voice).toList, isSlugChar c := by
  have hvoice' : ∀ c ∈ voice.toList, isSlugChar c := by
    rw [Cue.isVoice, Bool.and_eq_true, List.all_eq_true] at hvoice
    intro c hc
    rw [isSlugChar, hvoice.2 c hc, Bool.true_or]
  have hdash : ∀ c ∈ "-".toList, isSlugChar c := List.all_eq_true.mp (by decide)
  simp only [basename, String.toList_append, List.forall_mem_append]
  exact ⟨⟨⟨⟨isSlugChar_of_mem_slug, hdash⟩, hvoice'⟩, hdash⟩, isSlugChar_of_mem_key⟩

end AssetName

/-! ### Places -/

/-- Where the sounds of a timeline are kept, below the root of all that is served. -/
def Location.kept (root name file : String) : Location :=
  Path.place root ++ ["speech", name, file]

theorem Timeline.isName_of_checkName {name : String} (h : checkName name = .ok ()) :
    Path.IsName name := by
  obtain ⟨hnonempty, hdot, hdots, hslash, -⟩ := checkName_eq_ok.mp h
  refine ⟨hslash, ?_, fun hup => hdots (String.toList_inj.mp hup)⟩
  rw [Path.isIdle, Bool.or_eq_false_iff, beq_eq_false_iff_ne, List.isEmpty_eq_false_iff]
  refine ⟨?_, fun hidle => hdot (String.toList_inj.mp hidle)⟩
  intro hempty
  rw [hempty] at hnonempty
  exact hnonempty rfl

namespace Asset

variable {o : StudioOptions} {name : String} {c : Cue}

theorem place_join_speechRoot (hname : Timeline.checkName name = .ok ()) :
    Path.place (Path.join o.speechRoot name) = Path.place o.publicRoot ++ ["speech", name] := by
  have hroot : Path.place o.speechRoot = Path.place o.publicRoot ++ ["speech"] := by
    rw [StudioOptions.speechRoot, Path.place_join_name _ ⟨by decide, by decide, by decide⟩,
      Location.child_eq (by decide) (by decide)]
  rw [Path.place_join_name _ (Timeline.isName_of_checkName hname), hroot,
    Location.child_concat (by decide), List.append_assoc]
  rfl

theorem not_mem_base (hvoice : Cue.isVoice c.voice) : '/' ∉ (base c).toList :=
  fun hslash => absurd (AssetName.isSlugChar_of_mem_basename hvoice '/' hslash) (by decide)

theorem not_mem_named (hvoice : Cue.isVoice c.voice) {extension : String}
    (hslash : '/' ∉ extension.toList) : '/' ∉ (named (base c) extension).toList := by
  rw [toList_named]
  simp [not_mem_base hvoice, hslash]

theorem place_join_named (hname : Timeline.checkName name = .ok ()) (hvoice : Cue.isVoice c.voice)
    {extension : String} (hne : extension.toList ≠ []) (hdot : '.' ∉ extension.toList)
    (hslash : '/' ∉ extension.toList) :
    Path.place (Path.join (Path.join o.speechRoot name) (named (base c) extension)) =
      Location.kept o.publicRoot name (named (base c) extension) := by
  rw [Path.place_join_named _ (toList_named _ _) hne hdot (not_mem_named hvoice hslash), place_join_speechRoot hname,
    Location.kept, List.append_assoc]
  rfl

theorem place_speech (hname : Timeline.checkName name = .ok ()) (hvoice : Cue.isVoice c.voice) :
    Path.place (ofCue o name c).speech =
      Location.kept o.publicRoot name (named (base c) speechExtension) := by
  rw [speech_ofCue]
  exact place_join_named hname hvoice (by decide) (by decide) (by decide)

theorem place_encoded (hname : Timeline.checkName name = .ok ()) (hvoice : Cue.isVoice c.voice) :
    Path.place (ofCue o name c).encoded =
      Location.kept o.publicRoot name (named (base c) o.format.extension) := by
  obtain ⟨hne, hdot, hslash⟩ := o.format.extension_plain
  rw [encoded_ofCue]
  exact place_join_named hname hvoice hne hdot hslash

/-- A file tells the name of its asset and its extension. -/
theorem kept_injective {root root' name other base base' extension extension' : String}
    (hdot : '.' ∉ extension.toList) (hdot' : '.' ∉ extension'.toList)
    (h : Location.kept root name (named base extension) =
      Location.kept root' other (named base' extension')) :
    base = base' ∧ extension = extension' := by
  obtain ⟨-, htail⟩ := List.append_inj' h rfl
  obtain ⟨-, hfile⟩ : name = other ∧ named base extension = named base' extension' := by
    simpa using htail
  have hending : extension.toList = extension'.toList := by
    rw [← Location.ending_concat [] (toList_named base extension) hdot, hfile,
      Location.ending_concat [] (toList_named base' extension') hdot']
  obtain rfl := String.toList_inj.mp hending
  refine ⟨String.toList_inj.mp ?_, rfl⟩
  have hlist := congrArg String.toList hfile
  rw [toList_named, toList_named] at hlist
  exact List.append_cancel_right hlist

/-- The paths of the files of an asset. -/
def files (a : Asset) : List String :=
  [a.speech, a.encoded]

theorem speech_mem_files (a : Asset) : a.speech ∈ a.files :=
  List.mem_cons_self

theorem encoded_mem_files (a : Asset) : a.encoded ∈ a.files :=
  List.mem_cons_of_mem _ List.mem_cons_self

/-- Two assets have a file in common. -/
def Shares (a b : Asset) : Prop :=
  ∃ p ∈ a.files, ∃ q ∈ b.files, Path.place p = Path.place q

theorem place_of_mem_files (hname : Timeline.checkName name = .ok ())
    (hvoice : Cue.isVoice c.voice) {p : String} (hp : p ∈ (ofCue o name c).files) :
    ∃ extension : String, '.' ∉ extension.toList ∧
      Path.place p = Location.kept o.publicRoot name (named (base c) extension) := by
  rw [files, List.mem_pair] at hp
  obtain hp | hp := hp
  · exact ⟨speechExtension, by decide, hp ▸ place_speech hname hvoice⟩
  · exact ⟨o.format.extension, o.format.extension_plain.2.1, hp ▸ place_encoded hname hvoice⟩

theorem base_eq_of_shares {o' : StudioOptions} {name' : String} {c' : Cue}
    (hname : Timeline.checkName name = .ok ()) (hvoice : Cue.isVoice c.voice)
    (hname' : Timeline.checkName name' = .ok ()) (hvoice' : Cue.isVoice c'.voice)
    (h : (ofCue o name c).Shares (ofCue o' name' c')) : base c = base c' := by
  obtain ⟨p, hp, q, hq, hplace⟩ := h
  obtain ⟨extension, hdot, hkept⟩ := place_of_mem_files hname hvoice hp
  obtain ⟨extension', hdot', hkept'⟩ := place_of_mem_files hname' hvoice' hq
  rw [hkept, hkept'] at hplace
  exact (kept_injective hdot hdot' hplace).1

end Asset

end Storyboard
