import Storyboard.Text.Octet

/-!
Listings: bytes with marks for lines and for characters that cannot be seen.
-/

namespace Storyboard

/-- What is marked in a listing. -/
structure Listing where
  /-- Whether lines have numbers. -/
  isNumbered : Bool
  /-- Whether empty lines have none. -/
  skipsEmpty : Bool
  /-- Whether of several empty lines one is kept. -/
  joinsEmpty : Bool
  marksEnds : Bool
  marksTabs : Bool
  marksControls : Bool

namespace Listing

/-- The listing that some letters ask for. -/
def ofLetters (letters : List Char) : Listing where
  isNumbered := letters.contains 'n' || letters.contains 'b'
  skipsEmpty := letters.contains 'b'
  joinsEmpty := letters.contains 's'
  marksEnds := ['E', 'e', 'A'].any letters.contains
  marksTabs := ['T', 't', 'A'].any letters.contains
  marksControls := ['v', 'e', 't', 'A'].any letters.contains

/-- A character below 128 that can be seen. -/
def plainMark (n : Nat) : Octets :=
  if n = 127 then ['^', '?'] else if n < 32 then ['^', Char.ofNat (n + 64)] else [Char.ofNat n]

/-- A character as it is listed. -/
def mark (l : Listing) (c : Char) : Octets :=
  if c = '\t' then (if l.marksTabs then ['^', 'I'] else [c])
  else if !l.marksControls then [c]
  else if c.toNat < 128 then plainMark c.toNat
  else ['M', '-'] ++ plainMark (c.toNat - 128)

/-- How far a listing has come. -/
structure State where
  /-- How many lines have been numbered. -/
  count : Nat
  isAtStart : Bool
  /-- Whether the line before was empty. -/
  isBehindEmpty : Bool

def start : State := ⟨0, true, false⟩

/-- The number in front of a line. -/
def number (n : Nat) : Octets :=
  let digits := (toString n).toList
  List.replicate (6 - digits.length) ' ' ++ digits ++ ['\t']

def lineEnd (l : Listing) : Octets :=
  if l.marksEnds then ['$', '\n'] else ['\n']

/-- What is listed for a character, and how far the listing has come behind it. -/
def step (l : Listing) (s : State) (c : Char) (next : Option Char) : Octets × State :=
  let isEmpty := s.isAtStart && c = '\n'
  if isEmpty && l.joinsEmpty && s.isBehindEmpty then ([], s)
  else
    let isCounted := s.isAtStart && l.isNumbered && !(isEmpty && l.skipsEmpty)
    let count := if isCounted then s.count + 1 else s.count
    let opening := if isCounted then number count else []
    if c = '\n' then (opening ++ l.lineEnd, ⟨count, true, isEmpty⟩)
    else
      let shown := if c = '\r' && l.marksEnds && next = some '\n' then ['^', 'M'] else l.mark c
      (opening ++ shown, ⟨count, false, false⟩)

/-- The listing of some bytes, and how far it has come. -/
def write (l : Listing) : State → Octets → Octets × State
  | s, [] => ([], s)
  | s, c :: rest =>
    let (shown, s) := l.step s c rest.head?
    let (others, s) := l.write s rest
    (shown ++ others, s)

example : ((ofLetters ['n', 'E']).write start "a\n\nb".toList).1
    = "     1\ta$\n     2\t$\n     3\tb".toList := by decide +kernel

end Listing

end Storyboard
