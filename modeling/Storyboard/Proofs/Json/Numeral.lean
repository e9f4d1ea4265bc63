import Mathlib
import Storyboard.Json.Numeral
import Storyboard.Proofs.Number.Rounding

/-!
Laws of numerals: writing and reading are inverse in front of a text that cannot extend a numeral,
what a numeral denotes is finite, and a natural number of sixty-four bits denotes its binary64.
-/

namespace Storyboard

namespace Numeral

/-! ### Writing and reading -/

/-- A text that does not begin with a digit. -/
def NoDigit (rest : List Char) : Prop :=
  ∀ c ∈ rest.head?, Digit.ofChar? c = none

/-- A text that cannot extend a numeral in front of it. -/
structure Ends (rest : List Char) : Prop where
  digit : NoDigit rest
  point : ∀ c ∈ rest.head?, c ≠ '.'
  small : ∀ c ∈ rest.head?, c ≠ 'e'
  large : ∀ c ∈ rest.head?, c ≠ 'E'

theorem Ends.nil : Ends [] := by
  constructor <;> intro c hc <;> cases hc

theorem Ends.cons {c : Char}
    (h : Digit.ofChar? c = none ∧ c ≠ '.' ∧ c ≠ 'e' ∧ c ≠ 'E') (rest : List Char) :
    Ends (c :: rest) := by
  constructor <;> rintro d ⟨⟩
  exacts [h.1, h.2.1, h.2.2.1, h.2.2.2]

theorem Ends.append {s rest : List Char} (hs : Ends s) (hrest : Ends rest) : Ends (s ++ rest) := by
  cases s with
  | nil => exact hrest
  | cons c s => exact .cons ⟨hs.digit c rfl, hs.point c rfl, hs.small c rfl, hs.large c rfl⟩ _

theorem readDigits?_toText {ds : List Digit} (hds : ds ≠ []) {rest : List Char}
    (h : NoDigit rest) : readDigits? (Digits.toText ds ++ rest) = some (ds, rest) := by
  rw [readDigits?, Digits.span_toText_append ds h]
  cases ds with
  | nil => exact absurd rfl hds
  | cons d ds => rfl

theorem readWhole?_write (n : Nat) {rest : List Char} (h : NoDigit rest) :
    readWhole? (Digits.write n ++ rest) = some (n, rest) := by
  rw [readWhole?, Digits.write, readDigits?_toText (Digits.ofNat_ne_nil n) h]
  have hn := Digits.toNat_ofNat n
  cases hds : Digits.ofNat n with
  | nil => exact absurd hds (Digits.ofNat_ne_nil n)
  | cons d ds =>
      rw [hds] at hn
      have hlead : ¬ (d = Digit.zero ∧ ds ≠ []) := by
        rintro ⟨rfl, hne⟩
        rcases Nat.eq_zero_or_pos n with rfl | hpos
        · have hzero : Digits.ofNat 0 = [Digit.zero] := by
            rw [Digits.ofNat]
            rfl
          rw [hzero] at hds
          exact hne (List.cons.inj hds).2.symm
        · exact Digits.head?_ofNat hpos.ne' (by rw [hds]; rfl)
      simp only [if_neg hlead, hn]

theorem readFraction?_write (ds : List Digit) {rest : List Char} (h : NoDigit rest)
    (hp : ∀ c ∈ rest.head?, c ≠ '.') :
    readFraction? (writeFraction ds ++ rest) = some (ds, rest) := by
  cases ds with
  | nil =>
      cases rest with
      | nil => rfl
      | cons c rest =>
          have hc : c ≠ '.' := hp c rfl
          simp [writeFraction, readFraction?, hc]
  | cons d ds => exact readDigits?_toText (List.cons_ne_nil d ds) h

theorem readPower?_write (e : Int) {rest : List Char} (h : NoDigit rest) :
    readPower? ((if e < 0 then '-' else '+') :: (Digits.write e.natAbs ++ rest)) =
      some (e, rest) := by
  have hdigits : readDigits? (Digits.write e.natAbs ++ rest) = some (Digits.ofNat e.natAbs, rest) :=
    readDigits?_toText (Digits.ofNat_ne_nil e.natAbs) h
  split
  · next hneg =>
      have he : -(e.natAbs : Int) = e := by omega
      simp only [readPower?, readSign, hdigits, Option.map_some, Digits.toNat_ofNat, if_true, he]
  · next hpos =>
      have he : (e.natAbs : Int) = e := by omega
      simp only [readPower?, readSign, hdigits, Option.map_some, Digits.toNat_ofNat,
        Bool.false_eq_true, if_false, he]

theorem readExponent?_write (e : Option Int) {rest : List Char} (h : Ends rest) :
    readExponent? (writeExponent e ++ rest) = some (e, rest) := by
  cases e with
  | none =>
      cases rest with
      | nil => rfl
      | cons c rest =>
          have hsmall : c ≠ 'e' := h.small c rfl
          have hlarge : c ≠ 'E' := h.large c rfl
          simp [writeExponent, readExponent?, hsmall, hlarge]
  | some e =>
      rw [writeExponent, List.cons_append, List.cons_append, readExponent?,
        readPower?_write e h.digit]
      rfl

theorem noDigit_exponent (e : Option Int) {rest : List Char} (h : Ends rest) :
    NoDigit (writeExponent e ++ rest) := by
  cases e with
  | none => exact h.digit
  | some e =>
      rintro c ⟨⟩
      rfl

theorem noPoint_exponent (e : Option Int) {rest : List Char} (h : Ends rest) :
    ∀ c ∈ (writeExponent e ++ rest).head?, c ≠ '.' := by
  cases e with
  | none => exact h.point
  | some e =>
      rintro c ⟨⟩
      decide

theorem noDigit_fraction (ds : List Digit) {rest : List Char} (h : NoDigit rest) :
    NoDigit (writeFraction ds ++ rest) := by
  cases ds with
  | nil => exact h
  | cons d ds =>
      rintro c ⟨⟩
      rfl

theorem readUnsigned?_write (n : Numeral) {rest : List Char} (h : Ends rest) :
    readUnsigned? n.negative (Digits.write n.whole ++ (writeFraction n.fraction
      ++ (writeExponent n.exponent ++ rest))) = some (n, rest) := by
  have hexp := noDigit_exponent n.exponent h
  rw [readUnsigned?, readWhole?_write n.whole (noDigit_fraction n.fraction hexp)]
  simp only [Option.bind_eq_bind, Option.bind_some]
  rw [readFraction?_write n.fraction hexp (noPoint_exponent n.exponent h), Option.bind_some,
    readExponent?_write n.exponent h]
  rfl

/-- A text that begins with a digit has no sign. -/
theorem read?_digit (d : Digit) (s : List Char) :
    read? (d.toChar :: s) = readUnsigned? false (d.toChar :: s) := by
  fin_cases d <;> rfl

/-- The first digit of a whole part. -/
theorem exists_write_eq_cons (n : Nat) : ∃ d : Digit, ∃ s, Digits.write n = d.toChar :: s := by
  obtain ⟨d, ds, hds⟩ := List.exists_cons_of_ne_nil (Digits.ofNat_ne_nil n)
  exact ⟨d, Digits.toText ds, by rw [Digits.write, hds]; rfl⟩

/-- What is written is read back, whatever comes behind it that is no part of a numeral. -/
theorem read?_write (n : Numeral) {rest : List Char} (h : Ends rest) :
    read? (n.write ++ rest) = some (n, rest) := by
  have hread := readUnsigned?_write n h
  rw [write, List.append_assoc, List.append_assoc, List.append_assoc]
  cases hsign : n.negative with
  | true =>
      rw [hsign] at hread
      exact hread
  | false =>
      rw [hsign] at hread
      obtain ⟨d, s, hs⟩ := exists_write_eq_cons n.whole
      rw [hs, List.cons_append] at hread ⊢
      exact (read?_digit d _).trans hread

/-! ### Values -/

theorem tenTo_eq (k : Nat) : tenTo k = Binary64.ofNat (10 ^ k) := by
  simp [tenTo, Decimal.toBinary64, Decimal.ratio, Binary64.ofNat]

theorem isFinite_div_tenTo {x : Binary64} (hx : x.isFinite) (k : Nat) :
    (x / tenTo k).isFinite := by
  rw [tenTo_eq]
  exact Binary64.isFinite_div_ofNat hx (Nat.pow_pos (by decide))

theorem isFinite_scale? {x y : Binary64} {e : Int} (hx : x.isFinite) (h : scale? x e = some y) :
    y.isFinite := by
  fun_induction scale? x e with
  | case1 x e _ _ z hz => exact Option.some.inj h ▸ hz
  | case2 => cases h
  | case3 x e =>
      cases h
      exact isFinite_div_tenTo hx _
  | case4 =>
      cases h
      exact hx
  | case5 => cases h
  | case6 x e _ _ _ ih => exact ih (isFinite_div_tenTo hx _) h

theorem absorb_lt {m : Nat} (hm : m < significandLimit) (ds : List Digit) :
    (absorb m ds).1 < significandLimit := by
  induction ds generalizing m with
  | nil => exact hm
  | cons d ds ih =>
      rw [absorb]
      split
      · next hlt => exact ih hlt
      · exact hm

theorem leading_lt (n : Numeral) : n.leading.1 < significandLimit :=
  absorb_lt (absorb_lt (by decide) _) _

theorem isFinite_significand {m : Nat} (h : m < significandLimit) : (Binary64.ofNat m).isFinite :=
  Binary64.isFinite_ofNat (k := 64) (by decide) h.le

theorem isFinite_withSign {x : Binary64} (hx : x.isFinite) (negative : Bool) :
    (x.withSign negative).isFinite := by
  obtain ⟨s, u, hu, rfl⟩ := Binary64.isFinite_iff.mp hx
  cases negative <;> rfl

/-- What a numeral denotes is finite. -/
theorem isFinite_toBinary64? {n : Numeral} {x : Binary64} (h : n.toBinary64? = some x) :
    x.isFinite := by
  obtain ⟨y, hy, rfl⟩ := Option.map_eq_some_iff.mp h
  exact isFinite_withSign (isFinite_scale? (isFinite_significand (leading_lt n)) hy) _

theorem le_foldl (ds : List Digit) (m : Nat) :
    m ≤ ds.foldl (fun n d => 10 * n + d.val) m := by
  induction ds generalizing m with
  | nil => exact le_rfl
  | cons d ds ih => exact (by omega : m ≤ 10 * m + d.val).trans (ih _)

theorem absorb_eq {ds : List Digit} {m : Nat}
    (h : ds.foldl (fun n d => 10 * n + d.val) m < significandLimit) :
    absorb m ds = (ds.foldl (fun n d => 10 * n + d.val) m, []) := by
  induction ds generalizing m with
  | nil => rfl
  | cons d ds ih =>
      rw [absorb, if_pos (Nat.lt_of_le_of_lt (le_foldl ds _) h)]
      exact ih h

theorem scale?_zero {x : Binary64} (hx : x.isFinite) : scale? x 0 = some x := by
  have hone : tenTo 0 = Binary64.one := tenTo_eq 0
  rw [scale?]
  simp [hone, Binary64.mul_one, hx]

/-- A natural number of sixty-four bits denotes its nearest binary64 value. -/
theorem toBinary64?_ofNat {n : Nat} (h : n < UInt64.size) :
    (ofNat n).toBinary64? = some (Binary64.ofNat n) := by
  have habsorb : absorb 0 (Digits.ofNat n) = (n, []) := by
    have hn : (Digits.ofNat n).foldl (fun n d => 10 * n + d.val) 0 = n := Digits.toNat_ofNat n
    rw [absorb_eq (by rw [hn]; exact h), hn]
  have hleading : (ofNat n).leading = (n, 0) := by
    simp [leading, ofNat, habsorb, absorb]
  rw [toBinary64?, hleading]
  simp only [scale?_zero (isFinite_significand h), Option.map_some, ofNat, Binary64.withSign,
    Bool.false_eq_true, if_false]

@[simp] theorem natural?_ofNat (n : Nat) : (ofNat n).natural? = some n := by
  simp [natural?, ofNat]

end Numeral

end Storyboard
