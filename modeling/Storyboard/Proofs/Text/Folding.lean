import Mathlib
import Storyboard.Text.Case
import Storyboard.Text.Folding

/-!
Folding and ASCII. Among ASCII characters folding is the small letter of a capital, and beyond them
there are two characters that fold to one of ASCII, the Kelvin sign and the long s.
-/

namespace Storyboard.Text

/-- What holds of 128 characters one by one holds of every ASCII character. -/
theorem of_ascii {P : Char → Prop} (h : ∀ n < 128, P (Char.ofNat n)) (c : Char)
    (hc : c.toNat < 128) : P c := by
  rw [← Char.ofNat_toNat c]
  exact h c.toNat hc

theorem fold_of_ascii : ∀ c : Char, c.toNat < 128 → fold c = c.toLower :=
  of_ascii (by decide +kernel)

theorem map_fold_of_ascii {s : List Char} (h : ∀ c ∈ s, c.toNat < 128) : s.map fold = lower s :=
  List.map_congr_left fun c hc => fold_of_ascii c (h c hc)

theorem toNat_toLower_of_ascii : ∀ c : Char, c.toNat < 128 → 0 < c.toNat →
    0 < c.toLower.toNat ∧ c.toLower.toNat < 128 :=
  of_ascii (by decide +kernel)

theorem toLower_of_not_ascii {c : Char} (h : 128 ≤ c.toNat) : c.toLower = c := by
  rw [Char.toLower, dif_neg]
  rintro ⟨-, hz⟩
  have hz' : c.toNat ≤ 90 := UInt32.le_iff_toNat_le.mp hz
  omega

/-- A run begins and ends within ASCII, or is one of two characters, or leads beyond ASCII. -/
theorem foldingRuns_apart : ∀ r ∈ foldingRuns, r.last < 128 ∨
    (r.first = r.last ∧ (r.last = 0x17f ∨ r.last = 0x212a)) ∨ 128 ≤ r.first + r.shift := by
  decide +kernel

theorem le_foldCode {n : Nat} (h : 128 ≤ n) (hs : n ≠ 0x17f) (hk : n ≠ 0x212a) :
    128 ≤ foldCode n := by
  rw [foldCode]
  cases hfound : foldingRuns.findSome? (·.image? n) with
  | none => exact h
  | some m =>
      obtain ⟨r, hr, himage⟩ := List.exists_of_findSome?_eq_some hfound
      rw [FoldingRun.image?, Option.ite_none_right_eq_some, FoldingRun.has] at himage
      obtain ⟨hhas, himage⟩ := himage
      simp only [Bool.and_eq_true, decide_eq_true_eq] at hhas
      have hapart := foldingRuns_apart r hr
      rw [Option.getD_some, ← Option.some.inj himage]
      omega

theorem fold_ne_of_not_ascii {c w : Char} (h : 128 ≤ c.toNat) (hs : c ≠ '\u017f')
    (hk : c ≠ '\u212a') (hpos : 0 < w.toNat) (hw : w.toNat < 128) : fold c ≠ w := by
  have hne : ∀ d : Char, c ≠ d → c.toNat ≠ d.toNat := fun _ hcd hn => hcd (Char.toNat_inj.mp hn)
  have hle := le_foldCode h (hne _ hs) (hne _ hk)
  rintro rfl
  rw [fold, Char.toNat_ofNat] at hpos hw
  split at hw
  · omega
  · rename_i hinvalid
    rw [if_neg hinvalid] at hpos
    omega

theorem fold_eq_iff {c w : Char} (hpos : 0 < w.toNat) (hw : w.toNat < 128) :
    fold c = fold w ↔ (c.toNat < 128 ∧ c.toLower = w.toLower) ∨
      (c = '\u212a' ∧ w.toLower = 'k') ∨ (c = '\u017f' ∧ w.toLower = 's') := by
  have hkelvin : fold '\u212a' = 'k' := by decide +kernel
  have hlong : fold '\u017f' = 's' := by decide +kernel
  rw [fold_of_ascii w hw]
  by_cases hk : c = '\u212a'
  · subst hk
    simp [hkelvin, eq_comm]
  by_cases hs : c = '\u017f'
  · subst hs
    simp [hlong, eq_comm]
  by_cases hc : c.toNat < 128
  · simp [fold_of_ascii c hc, hc, hk, hs]
  · obtain ⟨hpos', hw'⟩ := toNat_toLower_of_ascii w hw hpos
    simp [fold_ne_of_not_ascii (Nat.le_of_not_lt hc) hs hk hpos' hw', hc, hk, hs]

theorem isWordChar_toLower : ∀ c : Char, c.toNat < 128 → isWordChar c.toLower = isWordChar c :=
  of_ascii (by decide +kernel)

/-- A spelling of an identifier's character is one itself, unless it is one of the two beyond
ASCII. -/
theorem isWordChar_of_fold_eq {c w : Char} (hpos : 0 < w.toNat) (hw : w.toNat < 128)
    (hword : isWordChar w) (hs : w.toLower ≠ 's') (h : fold c = fold w) :
    isWordChar c ∨ (c = '\u212a' ∧ w.toLower = 'k') := by
  obtain ⟨hc, hlower⟩ | hk | ⟨-, hs'⟩ := (fold_eq_iff hpos hw).mp h
  · left
    rw [← isWordChar_toLower c hc, hlower, isWordChar_toLower w hw]
    exact hword
  · exact .inr hk
  · exact absurd hs' hs

end Storyboard.Text
