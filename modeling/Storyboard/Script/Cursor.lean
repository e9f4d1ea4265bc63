import Storyboard.Script.Scanner

/-!
Cursors over a text, and matchers that move them. A cursor stands at a byte of its text, and what a
matcher looks at or gives are slices that are cut at bytes; a cut inside a character breaks the
run. A mismatch by itself leaves the cursor where it came to, only `opt` puts it back.
-/

namespace Storyboard

/-- The slice of a text from a byte on, if no character is cut there. -/
def sliceFrom? (s : String) (p : String.Pos.Raw) : Option String :=
  if h : p.IsValid s then some (s.sliceFrom ⟨p, h⟩).copy else none

/-- The slice of a text up to a byte, if no character is cut there. -/
def sliceTo? (s : String) (p : String.Pos.Raw) : Option String :=
  if h : p.IsValid s then some (s.sliceTo ⟨p, h⟩).copy else none

/-- A text, and how many of its bytes are behind. -/
structure Cursor where
  text : String
  place : String.Pos.Raw
deriving DecidableEq

/-- Gives nothing at all if the run breaks, and else the meaning if there is a match, with the
cursor in either case. -/
abbrev Matcher (α : Type) := OptionT (StateT Cursor Option) α

namespace Matcher

/-- The slice that a cut gives, or a broken run. -/
def slice (s : Option String) : Matcher String := fun c =>
  s.map fun s => (some s, c)

/-- What is ahead of the cursor. -/
def rest : Matcher String := do
  let c ← get
  slice (sliceFrom? c.text c.place)

def advance (bytes : Nat) : Matcher Unit :=
  modify fun c => { c with place := ⟨c.place.byteIdx + bytes⟩ }

/-- The match of a copy of the cursor, which only a match puts in its place. -/
def opt {α : Type} (m : Matcher α) : Matcher α := fun c =>
  (m c).map fun (a, probe) => (a, if a.isSome then probe else c)

/-- Steps over the blanks at the beginning of a text; gives their number. -/
def skip (n : Nat) : List Char → Matcher Nat
  | [] => return n
  | c :: cs =>
    if Text.isBlank c then do
      advance c.utf8Size
      skip (n + 1) cs
    else return n

def blanks : Matcher Nat := do
  skip 0 (← rest).toList

def space : Matcher Unit := opt do
  if 0 < (← blanks) then return () else failure

/-- As many bytes as the word has, if they are its characters in any case. -/
def keyword (word : String) : Matcher Unit := do
  match sliceTo? (← rest) word.rawEndPos with
  | some head =>
    if Text.sameWord head.toList word.toList then advance word.utf8ByteSize else failure
  | none => failure

/-- One character of a class. -/
def one (p : Char → Bool) : Matcher Unit := do
  match (← rest).toList with
  | c :: _ => if p c then advance c.utf8Size else failure
  | [] => failure

def char (want : Char) : Matcher Unit :=
  one (· == want)

/-- One letter in either case. -/
def letter (want : Char) : Matcher Unit :=
  one (Text.sameLetter · want)

/-- The byte of the first character that is not of the class, or the end of the text. -/
def stop (p : Char → Bool) (s : String) : String.Pos.Raw :=
  (String.ofList (s.toList.takeWhile p)).rawEndPos

/-- A nonempty run of characters of one class, up to where it stops. -/
def run (p : Char → Bool) : Matcher (List Char) := do
  let s ← rest
  if (stop p s).byteIdx = 0 then failure
  else do
    advance (stop p s).byteIdx
    return (← slice (sliceTo? s (stop p s))).toList

/-- The count that digits denote, if thirty-two bits can hold it. -/
def count? (digits : List Char) : Option UInt32 :=
  let n := Digits.toNat (Digits.span digits).1
  if n < UInt32.size then some (.ofNat n) else none

def count : Matcher UInt32 := do
  return (count? (← run Text.isAsciiDigit)).getD (.ofNat (UInt32.size - 1))

def number : Matcher Binary64 := opt do
  match Scanner.decimal? (← run Scanner.isNumberChar) with
  | some d => return d.toBinary64
  | none => failure

/-- ASCII letters, digits and underscores. -/
def word : Matcher (List Char) :=
  run Text.isWordChar

def nonblank : Matcher (List Char) :=
  run fun c => !Text.isBlank c

/-- A nonempty text between quotation marks. -/
def quoted : Matcher (List Char) := opt do
  char '"'
  let inner ← run (· ≠ '"')
  char '"'
  return inner

/-- The end of the text, which blanks may precede. -/
def finish : Matcher Unit := opt do
  let _ ← blanks
  if (← rest).isEmpty then return () else failure

end Matcher

end Storyboard
