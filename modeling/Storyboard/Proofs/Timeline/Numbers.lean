import Mathlib
import Storyboard.Timeline.Document
import Storyboard.Proofs.Json.Record

/-!
The numbers of a timeline, and which of them a document can carry: those of a timeline that was
read are finite, and a finite one that is read back from its text is kept.
-/

namespace Storyboard
open Json (Record)

/-- Whether a finite number is read back from the text that it is printed as. -/
def Binary64.ReadsBack (x : Binary64) : Prop :=
  x.isFinite → (Json.parse? (Json.print .compact (Json.ofBinary64 x))).bind Json.toBinary64? = some x

/-- Whether the value that a number is written as denotes the number. -/
def Binary64.Kept (x : Binary64) : Prop :=
  (Json.ofBinary64 x).toBinary64? = some x

namespace Binary64

theorem readsBack_iff {x : Binary64} : x.ReadsBack ↔ (x.isFinite → x.Kept) := by
  unfold ReadsBack Kept
  rw [Json.parse?_print, Option.bind_some]

theorem Kept.sound {x : Binary64} (h : x.Kept) (depth : Nat) :
    (Json.ofBinary64 x).sound depth := by
  unfold Kept at h
  cases hv : Json.ofBinary64 x with
  | number n =>
      rw [hv] at h
      exact Option.isSome_of_eq_some h
  | null | bool b | text s | array values | object members =>
      rw [hv] at h
      cases h

theorem Kept.readsBack {x : Binary64} (h : x.Kept) : x.ReadsBack :=
  readsBack_iff.mpr fun _ => h

/-- A number that is not finite is written as null. -/
theorem ofBinary64_eq_null {x : Binary64} (h : ¬ x.isFinite) : Json.ofBinary64 x = .null := by
  cases x with
  | nan | infinite s => rfl
  | finite s u hu => exact absurd rfl h

theorem ReadsBack.sound {x : Binary64} (h : x.ReadsBack) (depth : Nat) :
    (Json.ofBinary64 x).sound depth := by
  by_cases hx : x.isFinite
  · exact (readsBack_iff.mp h hx).sound depth
  · rw [ofBinary64_eq_null hx]
    rfl

end Binary64

namespace Json

theorem isFinite_toBinary64? {v : Json} {x : Binary64} (h : v.toBinary64? = some x) :
    x.isFinite := by
  cases v with
  | number n => exact Numeral.isFinite_toBinary64? h
  | null | bool b | text s | array values | object members => cases h

namespace Record

/-- A record that was read has the field that comes first. -/
theorem exists_of_field {α β : Type} {v : Option (Option Json)} {read : Option Json → Option α}
    {next : α → Option β} {b : β} (h : (v.bind fun u => (read u).bind next) = some b) :
    ∃ u a, read u = some a ∧ next a = some b := by
  obtain ⟨u, _, hu⟩ := Option.bind_eq_some_iff.mp h
  obtain ⟨a, ha, hnext⟩ := Option.bind_eq_some_iff.mp hu
  exact ⟨u, a, ha, hnext⟩

theorem isFinite_defaulted {v : Option Json} {x : Binary64}
    (h : defaulted .zero toBinary64? v = some x) : x.isFinite := by
  cases v with
  | none =>
      cases h
      rfl
  | some v => exact isFinite_toBinary64? h

theorem isFinite_nullable {v : Option Json} {o : Option Binary64}
    (h : nullable toBinary64? v = some o) : ∀ x ∈ o, x.isFinite := by
  unfold nullable at h
  split at h
  · cases h
    exact fun x hx => nomatch hx
  · cases h
    exact fun x hx => nomatch hx
  · obtain ⟨x, hx, rfl⟩ := Option.map_eq_some_iff.mp h
    rintro y ⟨⟩
    exact isFinite_toBinary64? hx

end Record

end Json

open Json.Record (exists_of_field isFinite_defaulted isFinite_nullable)

namespace Cue

theorem isFinite_of_ofJson? {v : Json} {c : Cue} (h : ofJson? v = some c) : c.offset.isFinite := by
  obtain ⟨r, _, hr⟩ := Option.bind_eq_some_iff.mp h
  obtain ⟨_, _, _, hr⟩ := exists_of_field hr
  obtain ⟨_, _, _, hr⟩ := exists_of_field hr
  obtain ⟨_, _, _, hr⟩ := exists_of_field hr
  obtain ⟨_, offset, hoffset, hr⟩ := exists_of_field hr
  cases hr
  exact isFinite_defaulted hoffset

end Cue

namespace Attachment

def numbers (a : Attachment) : List Binary64 :=
  a.offset :: (a.volume.toList ++ (a.fadeIn.toList ++ a.fadeOut.toList))

theorem forall_mem_numbers {a : Attachment} {p : Binary64 → Prop} :
    (∀ x ∈ a.numbers, p x) ↔
      p a.offset ∧ (∀ x ∈ a.volume, p x) ∧ (∀ x ∈ a.fadeIn, p x) ∧ ∀ x ∈ a.fadeOut, p x := by
  simp only [numbers, List.forall_mem_cons, List.forall_mem_append, Option.mem_toList,
    Option.mem_def]

theorem isFinite_of_ofJson? {v : Json} {a : Attachment} (h : ofJson? v = some a) :
    ∀ x ∈ a.numbers, x.isFinite := by
  obtain ⟨r, _, hr⟩ := Option.bind_eq_some_iff.mp h
  obtain ⟨_, _, _, hr⟩ := exists_of_field hr
  obtain ⟨_, _, _, hr⟩ := exists_of_field hr
  obtain ⟨_, offset, hoffset, hr⟩ := exists_of_field hr
  obtain ⟨_, volume, hvolume, hr⟩ := exists_of_field hr
  obtain ⟨_, _, _, hr⟩ := exists_of_field hr
  obtain ⟨_, fadeIn, hin, hr⟩ := exists_of_field hr
  obtain ⟨_, fadeOut, hout, hr⟩ := exists_of_field hr
  obtain ⟨_, _, _, hr⟩ := exists_of_field hr
  cases hr
  exact forall_mem_numbers.mpr ⟨isFinite_defaulted hoffset, isFinite_nullable hvolume,
    isFinite_nullable hin, isFinite_nullable hout⟩

theorem isFinite_of_oneOrMany? {v : Json} {as : List Attachment} (h : oneOrMany? v = some as) :
    ∀ a ∈ as, ∀ x ∈ a.numbers, x.isFinite := by
  unfold oneOrMany? at h
  split at h
  · cases h
    exact List.forall_mem_nil _
  · split at h
    · next a ha =>
        cases h
        exact List.forall_mem_singleton.mpr (isFinite_of_ofJson? ha)
    · intro a ha
      obtain ⟨w, hw⟩ := Json.exists_of_mem_toListOf? h a ha
      exact isFinite_of_ofJson? hw

end Attachment

namespace Item

/-- The numbers of a clip's narration and sounds. -/
def soundNumbers (speech : List Cue) (audio : List Attachment) : List Binary64 :=
  speech.map Cue.offset ++ audio.flatMap Attachment.numbers

def numbers : Item → List Binary64
  | .transition _ => []
  | .card c => c.seconds :: soundNumbers c.speech c.audio
  | .cast c => soundNumbers c.speech c.audio

theorem forall_mem_soundNumbers {speech : List Cue} {audio : List Attachment}
    {p : Binary64 → Prop} :
    (∀ x ∈ soundNumbers speech audio, p x) ↔
      (∀ c ∈ speech, p c.offset) ∧ ∀ a ∈ audio, ∀ x ∈ a.numbers, p x := by
  simp only [soundNumbers, List.forall_mem_append, List.forall_mem_map, List.mem_flatMap,
    forall_exists_index, and_imp]
  exact and_congr_right fun _ => ⟨fun h a ha x hx => h x a ha hx, fun h x a ha hx => h a ha x hx⟩

theorem isFinite_speech? {v : Option Json} {speech : List Cue} (h : speech? v = some speech) :
    ∀ c ∈ speech, c.offset.isFinite := by
  cases v with
  | none =>
      cases h
      exact List.forall_mem_nil _
  | some v =>
      intro c hc
      obtain ⟨w, hw⟩ := Json.exists_of_mem_toListOf? h c hc
      exact Cue.isFinite_of_ofJson? hw

theorem isFinite_audio? {v : Option Json} {audio : List Attachment} (h : audio? v = some audio) :
    ∀ a ∈ audio, ∀ x ∈ a.numbers, x.isFinite := by
  cases v with
  | none =>
      cases h
      exact List.forall_mem_nil _
  | some v => exact Attachment.isFinite_of_oneOrMany? h

theorem isFinite_of_cardOfRecord? {r : Record} {c : Card} (h : cardOfRecord? r = some c) :
    ∀ x ∈ (Item.card c).numbers, x.isFinite := by
  obtain ⟨_, _, _, h⟩ := exists_of_field h
  obtain ⟨_, _, _, h⟩ := exists_of_field h
  obtain ⟨_, seconds, hseconds, h⟩ := exists_of_field h
  obtain ⟨_, speech, hspeech, h⟩ := exists_of_field h
  obtain ⟨_, audio, haudio, h⟩ := exists_of_field h
  cases h
  refine List.forall_mem_cons.mpr ⟨?_, forall_mem_soundNumbers.mpr
    ⟨isFinite_speech? hspeech, isFinite_audio? haudio⟩⟩
  cases seconds with
  | none => rfl
  | some x => exact isFinite_nullable hseconds x rfl

theorem isFinite_of_castOfRecord? {r : Record} {c : Cast} (h : castOfRecord? r = some c) :
    ∀ x ∈ (Item.cast c).numbers, x.isFinite := by
  obtain ⟨_, _, _, h⟩ := exists_of_field h
  obtain ⟨_, _, _, h⟩ := exists_of_field h
  obtain ⟨_, _, _, h⟩ := exists_of_field h
  obtain ⟨_, speech, hspeech, h⟩ := exists_of_field h
  obtain ⟨_, audio, haudio, h⟩ := exists_of_field h
  cases h
  exact forall_mem_soundNumbers.mpr ⟨isFinite_speech? hspeech, isFinite_audio? haudio⟩

theorem isFinite_of_ofFields? {type : String} {v : Json} {i : Item}
    (h : ofFields? type v = some i) : ∀ x ∈ i.numbers, x.isFinite := by
  unfold ofFields? at h
  split at h
  · obtain ⟨t, _, rfl⟩ := Option.map_eq_some_iff.mp h
    exact List.forall_mem_nil _
  split at h
  · obtain ⟨c, hc, rfl⟩ := Option.map_eq_some_iff.mp h
    obtain ⟨r, _, hr⟩ := Option.bind_eq_some_iff.mp hc
    exact isFinite_of_cardOfRecord? hr
  split at h
  · obtain ⟨c, hc, rfl⟩ := Option.map_eq_some_iff.mp h
    obtain ⟨r, _, hr⟩ := Option.bind_eq_some_iff.mp hc
    exact isFinite_of_castOfRecord? hr
  · cases h

theorem isFinite_of_ofJson? {v : Json} {i : Item} (h : ofJson? v = some i) :
    ∀ x ∈ i.numbers, x.isFinite := by
  unfold ofJson? at h
  split at h
  · split at h
    · exact isFinite_of_ofFields? h
    · cases h
  · exact isFinite_of_ofFields? h
  · cases h

end Item

namespace Timeline

def numbers (t : Timeline) : List Binary64 :=
  t.items.flatMap Item.numbers

/-- The numbers of a timeline that was read are finite. -/
theorem isFinite_of_ofJson? {v : Json} {t : Timeline} (h : ofJson? v = some t) :
    ∀ x ∈ t.numbers, x.isFinite := by
  unfold ofJson? at h
  split at h
  · obtain ⟨r, _, hr⟩ := Option.bind_eq_some_iff.mp h
    obtain ⟨_, _, _, hr⟩ := exists_of_field hr
    obtain ⟨_, items, hitems, hr⟩ := exists_of_field hr
    cases hr
    obtain ⟨w, _, hw⟩ := Option.bind_eq_some_iff.mp hitems
    intro x hx
    obtain ⟨i, hi, hx⟩ := List.mem_flatMap.mp hx
    obtain ⟨u, hu⟩ := Json.exists_of_mem_toListOf? hw i hi
    unfold Item.ofSound? at hu
    split at hu
    · exact Item.isFinite_of_ofJson? hu x hx
    · cases hu
  · cases h

end Timeline

end Storyboard
