import Storyboard.Number.Shortest

/-!
Numerals of a document: a sign, a whole part without superfluous zeros, a fraction and an
exponent. Writing a numeral and reading it back gives the same numeral; its value is a second
question, because a reader scales the leading digits in binary64 arithmetic and so may differ from
the nearest value in the last bit.
-/

namespace Storyboard

structure Numeral where
  negative : Bool
  whole : Nat
  /-- The digits after the point; there is a point only if there are any. -/
  fraction : List Digit
  exponent : Option Int
deriving DecidableEq

namespace Numeral

def ofNat (n : Nat) : Numeral :=
  ⟨false, n, [], none⟩

def ofInt (n : Int) : Numeral :=
  ⟨n < 0, n.natAbs, [], none⟩

/-- The numeral of a finite value: its shortest decimal in the layout of documents. -/
def ofBinary64? : Binary64 → Option Numeral
  | .finite negative units _ =>
    let parts := DecimalLayout.document.parts (Decimal.shortest units)
    some ⟨negative, Digits.toNat parts.whole, parts.fraction, parts.exponent⟩
  | _ => none

/-! ### Writing and reading -/

def writeFraction (ds : List Digit) : List Char :=
  if ds.isEmpty then [] else '.' :: Digits.toText ds

/-- An exponent always carries its sign. -/
def writeExponent : Option Int → List Char
  | none => []
  | some e => 'e' :: (if e < 0 then '-' else '+') :: Digits.write e.natAbs

def write (n : Numeral) : List Char :=
  (if n.negative then ['-'] else []) ++ Digits.write n.whole ++ writeFraction n.fraction
    ++ writeExponent n.exponent

/-- A run of at least one digit. -/
def readDigits? (s : List Char) : Option (List Digit × List Char) :=
  match Digits.span s with
  | ([], _) => none
  | (d :: ds, rest) => some (d :: ds, rest)

/-- A whole part: one zero, or digits that do not begin with one. -/
def readWhole? (s : List Char) : Option (Nat × List Char) :=
  match readDigits? s with
  | some (d :: ds, rest) =>
    if d = Digit.zero ∧ ds ≠ [] then none else some (Digits.toNat (d :: ds), rest)
  | _ => none

def readFraction? : List Char → Option (List Digit × List Char)
  | '.' :: rest => readDigits? rest
  | rest => some ([], rest)

def readSign : List Char → Bool × List Char
  | '-' :: rest => (true, rest)
  | '+' :: rest => (false, rest)
  | rest => (false, rest)

/-- The digits of an exponent, with an optional sign. -/
def readPower? (s : List Char) : Option (Int × List Char) :=
  (readDigits? (readSign s).2).map fun (ds, rest) =>
    (if (readSign s).1 then -(Digits.toNat ds : Int) else Digits.toNat ds, rest)

def readExponent? : List Char → Option (Option Int × List Char)
  | 'e' :: rest => (readPower? rest).map fun (e, rest) => (some e, rest)
  | 'E' :: rest => (readPower? rest).map fun (e, rest) => (some e, rest)
  | rest => some (none, rest)

def readUnsigned? (negative : Bool) (s : List Char) : Option (Numeral × List Char) := do
  let (whole, s) ← readWhole? s
  let (fraction, s) ← readFraction? s
  let (exponent, s) ← readExponent? s
  return (⟨negative, whole, fraction, exponent⟩, s)

/-- The numeral at the front of a text, as far as it goes. -/
def read? : List Char → Option (Numeral × List Char)
  | '-' :: rest => readUnsigned? true rest
  | s => readUnsigned? false s

theorem length_readDigits? {s : List Char} {ds : List Digit} {rest : List Char}
    (h : readDigits? s = some (ds, rest)) : rest.length < s.length := by
  unfold readDigits? at h
  cases s with
  | nil => simp [Digits.span] at h
  | cons c r =>
    rw [Digits.span] at h
    cases hc : Digit.ofChar? c with
    | none => simp [hc] at h
    | some d =>
      simp only [hc, Option.some.injEq, Prod.mk.injEq] at h
      have := Digits.length_span_le r
      rw [← h.2, List.length_cons]
      omega

theorem length_readFraction? {s : List Char} {ds : List Digit} {rest : List Char}
    (h : readFraction? s = some (ds, rest)) : rest.length ≤ s.length := by
  unfold readFraction? at h
  split at h
  · have := length_readDigits? h
    simp only [List.length_cons]
    omega
  · simp only [Option.some.injEq, Prod.mk.injEq] at h
    exact Nat.le_of_eq (congrArg List.length h.2.symm)

theorem length_readSign (s : List Char) : (readSign s).2.length ≤ s.length := by
  unfold readSign
  split <;> simp

theorem length_readPower? {s : List Char} {e : Int} {rest : List Char}
    (h : readPower? s = some (e, rest)) : rest.length ≤ s.length := by
  unfold readPower? at h
  obtain ⟨⟨ds, r⟩, hd, hr⟩ := Option.map_eq_some_iff.1 h
  have h1 := length_readDigits? hd
  have h2 := length_readSign s
  simp only [Prod.mk.injEq] at hr
  rw [← hr.2]
  omega

theorem length_readExponent? {s : List Char} {e : Option Int} {rest : List Char}
    (h : readExponent? s = some (e, rest)) : rest.length ≤ s.length := by
  unfold readExponent? at h
  split at h
  · obtain ⟨⟨e', r⟩, hp, hr⟩ := Option.map_eq_some_iff.1 h
    have := length_readPower? hp
    simp only [Prod.mk.injEq] at hr
    rw [← hr.2, List.length_cons]
    omega
  · obtain ⟨⟨e', r⟩, hp, hr⟩ := Option.map_eq_some_iff.1 h
    have := length_readPower? hp
    simp only [Prod.mk.injEq] at hr
    rw [← hr.2, List.length_cons]
    omega
  · simp only [Option.some.injEq, Prod.mk.injEq] at h
    exact Nat.le_of_eq (congrArg List.length h.2.symm)

theorem length_readUnsigned? {negative : Bool} {s : List Char} {n : Numeral} {rest : List Char}
    (h : readUnsigned? negative s = some (n, rest)) : rest.length < s.length := by
  simp only [readUnsigned?, Option.bind_eq_bind, Option.bind_eq_some_iff, Prod.exists,
    Option.pure_def,
    Option.some.injEq, Prod.mk.injEq] at h
  obtain ⟨whole, s1, hw, fraction, s2, hf, exponent, s3, he, hn, hr⟩ := h
  have h1 : s1.length < s.length := by
    unfold readWhole? at hw
    split at hw
    · rename_i d ds r hd
      split at hw
      · simp at hw
      · simp only [Option.some.injEq, Prod.mk.injEq] at hw
        rw [← hw.2]
        exact length_readDigits? hd
    · simp at hw
  have h2 := length_readFraction? hf
  have h3 := length_readExponent? he
  rw [← hr]
  omega

/-- Reading a numeral uses up part of the text. -/
theorem length_read? {s : List Char} {n : Numeral} {rest : List Char}
    (h : read? s = some (n, rest)) : rest.length < s.length := by
  unfold read? at h
  split at h
  · have := length_readUnsigned? h
    rw [List.length_cons]
    omega
  · exact length_readUnsigned? h

/-! ### Value -/

/-- The first number that no longer counts as a significand. -/
def significandLimit : Nat := UInt64.size

/-- Appends digits to a significand for as long as it stays below its limit, and returns the digits
that are left over. -/
def absorb (significand : Nat) : List Digit → Nat × List Digit
  | [] => (significand, [])
  | d :: ds =>
    if 10 * significand + d.val < significandLimit then absorb (10 * significand + d.val) ds
    else (significand, d :: ds)

/-- The greatest exponent of ten that is finite. -/
def tableSize : Nat := 308

def tenTo (k : Nat) : Binary64 :=
  (Decimal.mk 1 k).toBinary64

/-- Multiplies or divides by a power of ten, in several steps where it is not finite; none when the
result would leave the finite range. -/
def scale? (x : Binary64) (exponent : Int) : Option Binary64 :=
  if exponent.natAbs ≤ tableSize then
    if 0 ≤ exponent then
      let y := x * tenTo exponent.toNat
      if y.isFinite then some y else none
    else some (x / tenTo (-exponent).toNat)
  else if x.isZero then some x
  else if 0 ≤ exponent then none
  else scale? (x / tenTo tableSize) (exponent + tableSize)
termination_by exponent.natAbs
decreasing_by
  have : tableSize = 308 := rfl
  omega

/-- The leading digits that fit the significand, and the power of ten they are scaled by. Whole
digits left over still count as places, left over digits of the fraction do not. -/
def leading (n : Numeral) : Nat × Int :=
  let (significand, dropped) := absorb 0 (Digits.ofNat n.whole)
  let (significand, unread) := absorb significand n.fraction
  (significand, dropped.length - (n.fraction.length - unread.length : Nat) + n.exponent.getD 0)

/-- The value of a numeral; none when it is too large. -/
def toBinary64? (n : Numeral) : Option Binary64 :=
  let (significand, exponent) := n.leading
  (scale? (Binary64.ofNat significand) exponent).map (Binary64.withSign n.negative)

/-- The value of a numeral without sign, fraction or exponent. -/
def natural? (n : Numeral) : Option Nat :=
  if n.negative ∨ n.fraction ≠ [] ∨ n.exponent.isSome then none else some n.whole

end Numeral

end Storyboard
