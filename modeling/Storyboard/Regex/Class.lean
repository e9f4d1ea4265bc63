import Storyboard.Text.Blank
import Storyboard.Text.Category
import Storyboard.Text.Folding
import Storyboard.Text.Hex
import Storyboard.Regex.Basic

/-!
Escapes and classes of characters in written expressions. Classes stand between brackets; they hold
characters, ranges and other classes, and can be joined, cut and taken from each other.
-/

namespace Storyboard.Regex

/-- How an expression is to be read, from some place of its text on. -/
structure Mode where
  ignoresCase : Bool := false
  /-- Whether lines have starts and ends of their own. -/
  mindsLines : Bool := false
  /-- Whether a point stands for line ends too. -/
  pointsAtLines : Bool := false
  swapsGreed : Bool := false
  /-- Whether carriage returns end lines. -/
  mindsReturns : Bool := false
  /-- Whether classes are those of all scripts, and not of ASCII alone. -/
  isWide : Bool := true
  /-- Whether blanks and comments count for nothing. -/
  skipsBlanks : Bool := false

/-! ### Blanks -/

/-- What follows blanks and comments, which last from a number sign to the end of the line. -/
def behindBlanks (inComment : Bool) : List Char → List Char
  | [] => []
  | c :: rest =>
    if inComment then behindBlanks (c ≠ '\n') rest
    else if Text.isBlank c then behindBlanks false rest
    else if c = '#' then behindBlanks true rest
    else c :: rest

theorem length_behindBlanks_le (b : Bool) (s : List Char) :
    (behindBlanks b s).length ≤ s.length := by
  induction s generalizing b with
  | nil => simp [behindBlanks]
  | cons c rest ih =>
    rw [behindBlanks]
    split
    · exact Nat.le_succ_of_le (ih _)
    split
    · exact Nat.le_succ_of_le (ih _)
    split
    · exact Nat.le_succ_of_le (ih _)
    · exact Nat.le_refl _

def Mode.skip (m : Mode) (s : List Char) : List Char :=
  if m.skipsBlanks then behindBlanks false s else s

theorem length_skip_le (m : Mode) (s : List Char) : (m.skip s).length ≤ s.length := by
  rw [Mode.skip]
  split
  · exact length_behindBlanks_le _ _
  · exact Nat.le_refl _

/-! ### Characters -/

/-- A class up to case, where case is ignored. -/
def Mode.folded (m : Mode) (isMember : Char → Bool) : Char → Bool :=
  if !m.ignoresCase then isMember
  else if m.isWide then Text.foldedHas isMember
  else fun c => isMember c || isMember c.toLower || isMember c.toUpper

/-- The characters outside of a class, which are not all ASCII. -/
def Mode.outside? (m : Mode) (isMember : Char → Bool) : Option (Char → Bool) :=
  if m.isWide then some fun c => !isMember c else none

/-- A class, or what is outside of it. -/
def Mode.side? (m : Mode) (isOutside : Bool) (isMember : Char → Bool) : Option (Char → Bool) :=
  if isOutside then m.outside? isMember else some isMember

/-- The smallest parts of an expression. -/
inductive Atom where
  | char (c : Char)
  | members (isMember : Char → Bool)
  | look (l : Look)

/-- The number that some hexadecimal digits denote, and the rest. -/
def hexNumber? (m : Mode) : Nat → Nat → List Char → Option (Nat × List Char)
  | 0, n, s => some (n, s)
  | count + 1, n, s =>
    match m.skip s with
    | [] => none
    | c :: rest => do hexNumber? m count (16 * n + (← Text.hexValue? c)) rest

/-- The character whose code point has so many digits. Two digits are a byte where classes are those
of ASCII alone, and then stand for a character only in ASCII. -/
def hexChar? (m : Mode) (count : Nat) (s : List Char) : Option (Atom × List Char) := do
  let (n, rest) ← hexNumber? m count 0 s
  if !n.isValidChar then none
  else if count = 2 && !m.isWide && 0x7f < n then none
  else some (.char (Char.ofNat n), rest)

/-- The class that one letter stands for behind a backslash. -/
def letterClass? (m : Mode) (letter : Char) : Option (Char → Bool) :=
  match letter with
  | 'd' => some (if m.isWide then Text.isDigit else Text.isAsciiDigit)
  | 's' =>
    some (if m.isWide then Text.isBlank else (['\t', '\n', '\x0b', '\x0c', '\r', ' '].contains ·))
  | 'w' => some (if m.isWide then Text.isLettering else Text.isWordChar)
  | _ => none

/-- The characters that some letters stand for behind a backslash. -/
def letterChars : List (Char × Char) :=
  [('a', '\x07'), ('f', '\x0c'), ('t', '\t'), ('n', '\n'), ('r', '\r'), ('v', '\x0b')]

def letterLook? (m : Mode) (letter : Char) : Option Look :=
  match letter with
  | 'A' => some .textStart
  | 'z' => some .textEnd
  | 'b' => some (.wordEdge m.isWide)
  | 'B' => some (.noWordEdge m.isWide)
  | '<' => some (.wordStart m.isWide)
  | '>' => some (.wordEnd m.isWide)
  | _ => none

/-- The characters of a general category, or those outside of it. -/
def categoryClass? (m : Mode) (isOutside : Bool) (s : List Char) :
    Option (Atom × List Char) :=
  match m.skip s with
  | [] => none
  | c :: rest => do
    let k ← Text.Category.ofLetter? c
    if !m.isWide then none
    let isMember := m.folded k.has
    return (.members (if isOutside then fun c => !isMember c else isMember), rest)

/-- What stands behind a backslash. A sign stands for itself; digits stand for nothing. -/
def escaped? (m : Mode) : List Char → Option (Atom × List Char)
  | [] => none
  | 'x' :: rest => hexChar? m 2 rest
  | 'u' :: rest => hexChar? m 4 rest
  | 'U' :: rest => hexChar? m 8 rest
  | 'p' :: rest => categoryClass? m false rest
  | 'P' :: rest => categoryClass? m true rest
  | c :: rest =>
    match letterClass? m c.toLower, letterChars.lookup c, letterLook? m c with
    | some isMember, _, _ => do
      return (.members (← m.side? (c ≠ c.toLower) isMember), rest)
    | none, some c, _ => some (.char c, rest)
    | none, none, some l => some (.look l, rest)
    | none, none, none =>
      if c.toNat ≤ 0x7f && !Text.isAsciiLetter c && !Text.isAsciiDigit c then some (.char c, rest)
      else none

/-! ### Named classes -/

/-- The named classes of ASCII characters. -/
def namedClass? (name : String) : Option (Char → Bool) :=
  let isPunctuation (c : Char) : Bool :=
    ' ' < c && c < '\x7f' && !Text.isAsciiLetter c && !Text.isAsciiDigit c
  match name with
  | "alnum" => some fun c => Text.isAsciiLetter c || Text.isAsciiDigit c
  | "alpha" => some Text.isAsciiLetter
  | "ascii" => some (· ≤ '\x7f')
  | "blank" => some fun c => c = '\t' || c = ' '
  | "cntrl" => some fun c => c < ' ' || c = '\x7f'
  | "digit" => some Text.isAsciiDigit
  | "graph" => some fun c => ' ' < c && c < '\x7f'
  | "lower" => some fun c => 'a' ≤ c && c ≤ 'z'
  | "print" => some fun c => ' ' ≤ c && c < '\x7f'
  | "punct" => some isPunctuation
  | "space" => some (['\t', '\n', '\x0b', '\x0c', '\r', ' '].contains ·)
  | "upper" => some fun c => 'A' ≤ c && c ≤ 'Z'
  | "word" => some Text.isWordChar
  | "xdigit" => some fun c => (Text.hexValue? c).isSome
  | _ => none

/-- A named class between colons, behind the bracket that opens it: whether what is outside of it
is asked for, its members, and the rest. -/
def namedClassOf? (s : List Char) : Option (Bool × (Char → Bool) × List Char) :=
  match s with
  | ':' :: s =>
    let (isOutside, s) := match s with
      | '^' :: s => (true, s)
      | s => (false, s)
    match s.dropWhile (· ≠ ':') with
    | ':' :: ']' :: rest => do
      return (isOutside, ← namedClass? (String.ofList (s.takeWhile (· ≠ ':'))), rest)
    | _ => none
  | _ => none

/-! ### Classes between brackets -/

/-- How two classes make one. -/
inductive Joint where
  | both
  | without
  | either

namespace Joint

def ofSign? : Char → Option Joint
  | '&' => some .both
  | '-' => some .without
  | '~' => some .either
  | _ => none

/-- The class that two of them make. -/
def apply (j : Joint) (left right : Char → Bool) (c : Char) : Bool :=
  match j with
  | .both => left c && right c
  | .without => left c && !right c
  | .either => left c != right c

end Joint

/-- What has been read of a class: the class before the last joint, with the joint, and the
members behind it. -/
structure ClassSoFar where
  before : Option (Joint × (Char → Bool))
  isMember : Char → Bool

namespace ClassSoFar

def start : ClassSoFar := ⟨none, fun _ => false⟩

def add (k : ClassSoFar) (isMember : Char → Bool) : ClassSoFar :=
  { k with isMember := fun c => k.isMember c || isMember c }

/-- The class that has been read. -/
def whole (m : Mode) (k : ClassSoFar) : Char → Bool :=
  match k.before with
  | none => k.isMember
  | some (j, left) => j.apply (m.folded left) (m.folded k.isMember)

def join (m : Mode) (k : ClassSoFar) (j : Joint) : ClassSoFar :=
  ⟨some (j, k.whole m), fun _ => false⟩

end ClassSoFar

/-- A character as a member of a class. -/
def memberChar? (m : Mode) (c : Char) : Option Char :=
  if m.isWide || c.toNat ≤ 0x7f then some c else none

def classAtom? (m : Mode) : List Char → Option (Atom × List Char)
  | [] => none
  | '\\' :: rest => escaped? m rest
  | c :: rest => some (.char c, rest)

/-- A character, a range or an escaped class. -/
def classItem? (m : Mode) (s : List Char) : Option ((Char → Bool) × List Char) := do
  let (first, rest) ← classAtom? m s
  let single (rest : List Char) : Option ((Char → Bool) × List Char) :=
    match first with
    | .char c => do
      let c ← memberChar? m c
      return ((· = c), rest)
    | .members isMember => some (isMember, rest)
    | .look _ => none
  match m.skip rest with
  | '-' :: behind =>
    match m.skip behind with
    | ']' :: _ | '-' :: _ => single ('-' :: behind)
    | behind =>
      let (last, rest) ← classAtom? m behind
      match first, last with
      | .char a, .char b =>
        let a ← memberChar? m a
        let b ← memberChar? m b
        if a ≤ b then some (fun c => a ≤ c && c ≤ b, rest) else none
      | _, _ => none
  | rest => single rest

/-- The hyphens that open a class, as its members, and the rest. -/
def openingHyphens (m : Mode) (k : ClassSoFar) : List Char → ClassSoFar × List Char
  | '-' :: rest => openingHyphens m (k.add (· = '-')) (m.skip rest)
  | rest => (k, rest)
termination_by s => s.length
decreasing_by exact Nat.lt_succ_of_le (length_skip_le m rest)

/-- What opens a class behind its bracket: whether what is outside of it is asked for, its first
members, and the rest. A closing bracket is a member where no other one stands before it. -/
def classStart (m : Mode) (s : List Char) : Bool × ClassSoFar × List Char :=
  let (isOutside, s) := match m.skip s with
    | '^' :: s => (true, m.skip s)
    | s => (false, s)
  match openingHyphens m .start s with
  | (_, ']' :: rest) =>
    if s.head? = some '-' then (isOutside, openingHyphens m .start s)
    else (isOutside, ClassSoFar.start.add (· = ']'), m.skip rest)
  | opened => (isOutside, opened)

/-- The rest of a class up to its closing bracket, and what follows. -/
def classRest? (m : Mode) : Nat → ClassSoFar → List Char → Option ((Char → Bool) × List Char)
  | 0, _, _ => none
  | fuel + 1, k, s =>
    let step (s : List Char) : Option ((Char → Bool) × List Char) := do
      let (isMember, rest) ← classItem? m s
      classRest? m fuel (k.add isMember) rest
    match m.skip s with
    | [] => none
    | ']' :: rest => some (k.whole m, rest)
    | '[' :: rest =>
      match namedClassOf? rest with
      | some (isOutside, isMember, rest) => do
        classRest? m fuel (k.add (← m.side? isOutside (m.folded isMember))) rest
      | none => do
        let (isOutside, inner, rest) := classStart m rest
        let (isMember, rest) ← classRest? m fuel inner rest
        classRest? m fuel (k.add (← m.side? isOutside (m.folded isMember))) rest
    | c :: d :: rest =>
      match (if c = d then Joint.ofSign? c else none) with
      | some j => classRest? m fuel (k.join m j) rest
      | none => step (c :: d :: rest)
    | s => step s

/-- The class whose opening bracket stands before a text, and what follows. -/
def class? (m : Mode) (s : List Char) : Option ((Char → Bool) × List Char) := do
  let (isOutside, start, rest) := classStart m s
  let (isMember, rest) ← classRest? m (rest.length + 1) start rest
  return (← m.side? isOutside (m.folded isMember), rest)

end Storyboard.Regex
