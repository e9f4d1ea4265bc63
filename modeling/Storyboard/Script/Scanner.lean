import Storyboard.Text.Blank
import Storyboard.Text.Case
import Storyboard.Number.Shortest

/-!
Scanners over one line of a script. A scanner takes a prefix of the text and gives its meaning and
the rest, or fails without taking anything; runs of one class of characters are taken whole.
-/

namespace Storyboard

abbrev Scanner (α : Type) := StateT (List Char) Option α

namespace Scanner

/-- The scanner's meaning, or none with nothing taken. -/
def maybe {α : Type} (p : Scanner α) : Scanner (Option α) := fun s =>
  match p s with
  | some (a, rest) => some (some a, rest)
  | none => some (none, s)

/-- A possibly empty run of blanks; gives their number. -/
def blanks : Scanner Nat := fun s =>
  some ((s.takeWhile Text.isBlank).length, s.dropWhile Text.isBlank)

/-- A nonempty run of characters of one class. -/
def run (p : Char → Bool) : Scanner (List Char) := fun s =>
  match s.takeWhile p with
  | [] => none
  | c :: cs => some (c :: cs, s.dropWhile p)

/-- At least one blank. -/
def space : Scanner Unit := do
  let _ ← run Text.isBlank

def char (want : Char) : Scanner Unit
  | c :: rest => if c = want then some ((), rest) else none
  | [] => none

/-- One letter in either case. -/
def letter (want : Char) : Scanner Unit
  | c :: rest => if Text.sameLetter c want then some ((), rest) else none
  | [] => none

/-- A word of ASCII characters in any case. -/
def keyword : List Char → Scanner Unit
  | [] => pure ()
  | c :: cs => do
    letter c
    keyword cs

/-- A run of digits; a count beyond thirty-two bits stands for the greatest one. -/
def count : Scanner UInt32 := do
  let digits ← run Text.isAsciiDigit
  return UInt32.ofNat (min (Digits.toNat (Digits.span digits).1) (UInt32.size - 1))

def isNumberChar (c : Char) : Bool :=
  Text.isAsciiDigit c || c = '.'

/-- The decimal of a text with at least one digit and at most one point. -/
def decimal? (s : List Char) : Option Decimal :=
  let (whole, rest) := Digits.span s
  let (fraction, rest) :=
    match rest with
    | '.' :: rest => Digits.span rest
    | rest => ([], rest)
  if rest.isEmpty && !(whole ++ fraction).isEmpty then
    some ⟨Digits.toNat (whole ++ fraction), -(fraction.length : Int)⟩
  else none

/-- A run of digits and points that reads as a decimal, rounded to nearest. -/
def number : Scanner Binary64 := do
  let s ← run isNumberChar
  match decimal? s with
  | some d => return d.toBinary64
  | none => failure

/-- ASCII letters, digits and underscores. -/
def word : Scanner (List Char) :=
  run Text.isWordChar

def nonblank : Scanner (List Char) :=
  run fun c => !Text.isBlank c

/-- A nonempty text between quotation marks. -/
def quoted : Scanner (List Char) := do
  char '"'
  let inner ← run (· ≠ '"')
  char '"'
  return inner

/-- The end of the line, which blanks may precede. -/
def finish : Scanner Unit := do
  let _ ← blanks
  if (← get).isEmpty then return () else failure

/-- The meaning of a whole line. -/
def onLine? {α : Type} (p : Scanner α) (line : List Char) : Option α :=
  (p line).map (·.1)

end Scanner

end Storyboard
