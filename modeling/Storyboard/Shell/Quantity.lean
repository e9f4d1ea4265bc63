import Storyboard.Number.Shortest
import Storyboard.Shell.Arithmetic

/-!
Real numbers as `printf` knows them: how an argument states one, and how a conversion writes it. A
magnitude is a number of units of binary64, so that a written decimal is the exact value, rounded
once.
-/

namespace Storyboard.Shell

/-- A number with a sign, which a zero and what is no number have too. -/
structure Quantity where
  isNegative : Bool
  /-- The value without its sign. -/
  size : Binary64
deriving DecidableEq

namespace Quantity

/-- A whole number of no sign. -/
def ofNat (n : Nat) : Quantity :=
  ⟨false, .ofNat n⟩

/-! ### Reading -/

/-- A size that a text states: whether it is out of range, and the text behind it. -/
structure Stated where
  size : Binary64
  isOutOfRange : Bool
  rest : Octets

/-- The text behind a word, whose letters count in either case. -/
def behind? (word : String) (s : Octets) : Option Octets :=
  if Text.sameWord (s.take word.length) word.toList then some (s.drop word.length) else none

/-- The text behind a note in parentheses, if there is one. -/
def behindNote (s : Octets) : Octets :=
  match s with
  | '(' :: more =>
    match more.dropWhile Text.isWordChar with
    | ')' :: rest => rest
    | _ => s
  | _ => s

/-- A number with at most one point among its digits: its value without the point, how many digits
stand behind the point, and the text behind it; nothing if there is no digit. -/
def pointed? (base : Nat) (s : Octets) : Option (Nat × Nat × Octets) :=
  let (whole, rest) := Arithmetic.digitsIn base s
  let (fraction, rest) :=
    match rest with
    | '.' :: more => Arithmetic.digitsIn base more
    | rest => ([], rest)
  if whole.isEmpty && fraction.isEmpty then none
  else some (Arithmetic.valueIn base (whole ++ fraction), fraction.length, rest)

/-- The exponent behind a letter, and the text behind it; without digits there is none. -/
def exponent (letter : Char) (s : Octets) : Int × Octets :=
  match s with
  | c :: more =>
    let (isNegative, digits) := Arithmetic.sign more
    if c.toLower = letter && digits.head?.any Text.isAsciiDigit then
      let (digits, rest) := Arithmetic.digitsIn 10 digits
      let n := Arithmetic.valueIn 10 digits
      (if isNegative then -n else n, rest)
    else (0, s)
  | [] => (0, [])

/-- The least magnitude that has all its significant bits. -/
def leastNormal : Nat := Nat.pow 2 52

/-- The quotient `num / den` as a size; one beyond the greatest, and one below the least that has
all its bits and is not met exactly, are out of range. -/
def ratio (num den : Nat) (rest : Octets) : Stated :=
  let size := Binary64.ofRatio num den
  let isOutOfRange :=
    match size with
    | .finite _ units _ => units < leastNormal && units * den != num * Magnitude.one
    | _ => true
  ⟨size, isOutOfRange, rest⟩

/-- The size `n * base ^ power`, where `length` digits of the base write `n`; no size has its first
digit farther than `bound` digits from the point. -/
def scaled (base n length bound : Nat) (power : Int) (rest : Octets) : Stated :=
  if n = 0 then ⟨.zero, false, rest⟩
  else if (bound : Int) < length + power then ⟨.infinite false, true, rest⟩
  else if length + power < -(bound : Int) then ⟨.zero, true, rest⟩
  else if 0 ≤ power then ratio (n * Nat.pow base power.toNat) 1 rest
  else ratio n (Nat.pow base (-power).toNat) rest

/-- The size that decimal digits state. -/
def decimal? (s : Octets) : Option Stated := do
  let (n, places, rest) ← pointed? 10 s
  let (power, rest) := exponent 'e' rest
  return scaled 10 n (Nat.toDigits 10 n).length 400 (power - places) rest

/-- The size that hexadecimal digits state, with an exponent for the base two. -/
def hexadecimal? (s : Octets) : Option Stated := do
  let (n, places, rest) ← pointed? 16 (← behind? "0x" s)
  let (power, rest) := exponent 'p' rest
  return scaled 2 n (n.log2 + 1) 1200 (power - 4 * places) rest

/-- The size that a text without a sign states; nothing if it states none. -/
def stated? (s : Octets) : Option Stated :=
  match (behind? "infinity" s).or (behind? "inf" s) with
  | some rest => some ⟨.infinite false, false, rest⟩
  | none =>
    match behind? "nan" s with
    | some rest => some ⟨.nan, false, behindNote rest⟩
    | none => (hexadecimal? s).or (decimal? s)

/-- The number in front of a text, whether it is out of range, and the text behind it. -/
def read? (s : Octets) : Option (Quantity × Bool × Octets) :=
  let (isNegative, s) := Arithmetic.sign (s.dropWhile Arithmetic.isSpace)
  (stated? s).map fun t => (⟨isNegative, t.size⟩, t.isOutOfRange, t.rest)

/-! ### Writing -/

/-- The digits of `n` with the last ones behind a point, which is left out where no digit follows
unless it is kept. -/
def pointed (base n places : Nat) (keepsPoint : Bool) : Octets :=
  let digits := Nat.toDigits base n
  let digits := List.replicate (places + 1 - digits.length) '0' ++ digits
  let (whole, fraction) := digits.splitAt (digits.length - places)
  if fraction.isEmpty && !keepsPoint then whole else whole ++ '.' :: fraction

/-- A number without the zeros at the end of its fraction, and without a point in front of none. -/
def trimmed (s : Octets) : Octets :=
  if s.contains '.' then
    match s.reverse.dropWhile (· = '0') with
    | '.' :: rest => rest.reverse
    | rest => rest.reverse
  else s

/-- The size as a whole number of places of a power of ten, rounded to the nearest, a tie to the
even one. -/
def inPlaces (units : Nat) (place : Int) : Nat :=
  if 0 ≤ place then Magnitude.nearest units (Magnitude.one * Nat.pow 10 place.toNat) 1
  else Magnitude.nearest (units * Nat.pow 10 (-place).toNat) Magnitude.one 1

/-- The size rounded to one digit and some more, and the place of the first of them. -/
def leading (units more : Nat) : Nat × Int :=
  if units = 0 then (0, 0)
  else
    let place := Decimal.leadingPlace units
    let n := inPlaces units (place - more)
    if n = Nat.pow 10 (more + 1) then (Nat.pow 10 more, place + 1) else (n, place)

/-- An exponent with its sign, of at least so many digits. -/
def exponentText (letter : Char) (atLeast : Nat) (n : Int) : Octets :=
  let digits := Nat.toDigits 10 n.natAbs
  letter :: (if n < 0 then '-' else '+') ::
    (List.replicate (atLeast - digits.length) '0' ++ digits)

def fixed (units places : Nat) (keepsPoint : Bool) : Octets :=
  pointed 10 (inPlaces units (-places)) places keepsPoint

def scientific (units places : Nat) (keepsPoint : Bool) : Octets :=
  let (n, place) := leading units places
  pointed 10 n places keepsPoint ++ exponentText 'e' 2 place

/-- The shorter of both ways to write so many significant digits; the zeros at the end go with the
point unless it is kept. -/
def general (units precision : Nat) (keepsPoint : Bool) : Octets :=
  let more := precision - 1
  let (n, place) := leading units more
  let trim (s : Octets) : Octets := if keepsPoint then s else trimmed s
  if place < -4 || (more : Int) < place then
    trim (pointed 10 n more keepsPoint) ++ exponentText 'e' 2 place
  else trim (fixed units ((more : Int) - place).toNat keepsPoint)

/-- The hexadecimal digits behind `0x`, with an exponent for the base two. -/
def hexadecimal (units : Nat) (precision : Option Nat) (keepsPoint : Bool) : Octets :=
  let top := max units.log2 52
  let bits := units / Nat.pow 2 (top - 52)
  let place : Int := if units = 0 then 0 else (top : Int) - 1074
  let digits :=
    match precision with
    | none =>
      let s := trimmed (pointed 16 bits 13 true)
      if keepsPoint && !s.contains '.' then s ++ ['.'] else s
    | some places =>
      pointed 16 (Magnitude.nearest (bits * Nat.pow 16 places) (Nat.pow 16 13) 1) places keepsPoint
  digits ++ exponentText 'p' 1 place

/-- The digits of a size as a conversion writes them, which is one of `a`, `e`, `f` and `g`. -/
def digits (conversion : Char) (precision : Option Nat) (keepsPoint : Bool) (units : Nat) :
    Octets :=
  match conversion with
  | 'a' => hexadecimal units precision keepsPoint
  | 'e' => scientific units (precision.getD 6) keepsPoint
  | 'f' => fixed units (precision.getD 6) keepsPoint
  | _ => general units (max 1 (precision.getD 6)) keepsPoint

example : digits 'f' (some 2) false (3 * Magnitude.one + Magnitude.one / 7) = "3.14".toList := by
  decide +kernel

end Quantity

end Storyboard.Shell
