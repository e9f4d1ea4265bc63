import Storyboard.Number.Digit
import Storyboard.Number.Binary64

/-!
Shortest decimals. A binary64 magnitude is written with the fewest digits that read back as the
same magnitude, and of those with the nearest; seventeen digits always suffice.
-/

namespace Storyboard

/-- The decimal `coefficient * 10 ^ exponent`. -/
structure Decimal where
  coefficient : Nat
  exponent : Int
deriving DecidableEq

namespace Decimal

/-- Numerator and denominator of the decimal's value. -/
def ratio (d : Decimal) : Nat × Nat :=
  if 0 ≤ d.exponent then (d.coefficient * Nat.pow 10 d.exponent.toNat, 1)
  else (d.coefficient, Nat.pow 10 (-d.exponent).toNat)

/-- The magnitude, in units, to which the decimal rounds. -/
def units (d : Decimal) : Nat :=
  Magnitude.round (d.ratio.1 * Magnitude.one) d.ratio.2

/-- The nearest binary64 value, infinite for a decimal beyond the finite range. -/
def toBinary64 (d : Decimal) : Binary64 :=
  Binary64.ofRatio d.ratio.1 d.ratio.2

/-- How many powers of ten bring the least positive magnitude above one. -/
def headroom : Nat := 340

/-- The place of the first significant digit of a positive magnitude: `0` for units, `-1` for
tenths. -/
def leadingPlace (units : Nat) : Int :=
  (Digits.ofNat (units * Nat.pow 10 headroom / Magnitude.one)).length - 1 - headroom

/-- The decimals at `place` on either side of a magnitude, the nearer first; of two equally near
the even one. -/
def neighbours (units : Nat) (place : Int) : List Decimal :=
  let (num, den) :=
    if 0 ≤ place then (units, Magnitude.one * Nat.pow 10 place.toNat)
    else (units * Nat.pow 10 (-place).toNat, Magnitude.one)
  let below := num / den
  let rest := num % den
  if 2 * rest < den ∨ (2 * rest = den ∧ below % 2 = 0) then [⟨below, place⟩, ⟨below + 1, place⟩]
  else [⟨below + 1, place⟩, ⟨below, place⟩]

/-- The decimal with `count` digits nearest to the magnitude among those that read back as it. -/
def withDigits? (units : Nat) (lead : Int) (count : Nat) : Option Decimal :=
  (neighbours units (lead - (count - 1))).find? fun d => d.units = units

/-- The nearest decimal with seventeen digits. -/
def seventeen (units : Nat) (lead : Int) : Decimal :=
  (neighbours units (lead - 16)).headD ⟨0, 0⟩

/-- The shortest decimal of a magnitude. -/
def shortest (units : Nat) : Decimal :=
  if units = 0 then ⟨0, 0⟩
  else
    let lead := leadingPlace units
    ((List.range 16).findSome? fun n => withDigits? units lead (n + 1)).getD (seventeen units lead)

/-- The significant digits of a decimal, without zeros at the end, and the place of the first. -/
def significant (d : Decimal) : List Digit × Int :=
  let digits := Digits.ofNat d.coefficient
  match (digits.reverse.dropWhile (· == Digit.zero)).reverse with
  | [] => ([Digit.zero], 0)
  | kept => (kept, d.exponent + digits.length - 1)

end Decimal

/-- How a decimal is laid out: from which place of the first digit on and below which one it is
written positionally, and whether a whole number keeps a zero after the point. -/
structure DecimalLayout where
  least : Option Int
  bound : Option Int
  keepsPoint : Bool

namespace DecimalLayout

/-- The digits before the point, those after it, and the exponent if one is written. -/
structure Parts where
  whole : List Digit
  fraction : List Digit
  exponent : Option Int
deriving DecidableEq

def positional (digits : List Digit) (place : Int) (keepsPoint : Bool) : Parts :=
  let zeros (n : Nat) : List Digit := List.replicate n Digit.zero
  let whole :=
    if place < 0 then [Digit.zero]
    else digits.take (place.toNat + 1) ++ zeros (place.toNat + 1 - digits.length)
  let fraction :=
    if place < 0 then zeros (-place - 1).toNat ++ digits else digits.drop (place.toNat + 1)
  ⟨whole, if fraction.isEmpty && keepsPoint then [Digit.zero] else fraction, none⟩

def parts (layout : DecimalLayout) (d : Decimal) : Parts :=
  let (digits, place) := d.significant
  if layout.least.all (· ≤ place) && layout.bound.all (place < ·) then
    positional digits place layout.keepsPoint
  else ⟨digits.take 1, digits.drop 1, some place⟩

/-- Documents write a number positionally from hundred-thousandths up to sixteen whole digits, and
always with a point. -/
def document : DecimalLayout := ⟨some (-5), some 16, true⟩

/-- Messages write a number positionally, and a whole one without a point. -/
def message : DecimalLayout := ⟨none, none, false⟩

end DecimalLayout

/-! ### Numbers as messages show them -/

/-- The text of a layout's digits, without an exponent. -/
def DecimalLayout.Parts.plain (p : DecimalLayout.Parts) : List Char :=
  Digits.toText p.whole ++ (if p.fraction.isEmpty then [] else '.' :: Digits.toText p.fraction)

def Binary64.plain : Binary64 → String
  | .nan => "NaN"
  | .infinite negative => if negative then "-inf" else "inf"
  | .finite negative units _ =>
    let digits := (DecimalLayout.message.parts (Decimal.shortest units)).plain
    String.ofList (if negative then '-' :: digits else digits)

end Storyboard
