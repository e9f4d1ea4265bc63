import Storyboard.Text.Case
import Storyboard.Text.Octet

/-!
Patterns of the shell. In a pattern, a star stands for any text, a question mark for any character,
and brackets for one of some characters; quoted characters stand for themselves.
-/

namespace Storyboard.Shell

/-- A character with the mark of being quoted. -/
abbrev Marked := Char × Bool

namespace Pattern

/-- What brackets list. -/
inductive Choice where
  | range (low high : Char)
  | kind (name : Octets)
deriving DecidableEq

inductive Glob where
  | one (c : Char)
  | any
  | star
  | among (isNegated : Bool) (choices : List Choice)
deriving DecidableEq

/-! ### Reading -/

/-- The name of a kind of characters between colons and brackets, with what is behind it. -/
def kindName? : List Marked → Option (Octets × List Marked)
  | [] => none
  | (':', false) :: (']', false) :: rest => some ([], rest)
  | (c, _) :: rest =>
    if Text.isAsciiLetter c then (kindName? rest).map fun (name, rest) => (c :: name, rest)
    else none

/-- The choices up to a closing bracket, which is one of them where it comes first. The first
argument bounds their number. -/
def choices? : Nat → (isFirst : Bool) → List Marked → Option (List Choice × List Marked)
  | 0, _, _ => none
  | _, _, [] => none
  | depth + 1, isFirst, (c, q) :: rest =>
    if c = ']' && !q && !isFirst then some ([], rest)
    else
      match kindAt? c q rest with
      | some (name, more) => add (.kind name) (choices? depth false more)
      | none =>
        match rest with
        | ('-', false) :: (d, p) :: more =>
          if d = ']' && !p then add (.range c c) (choices? depth false rest)
          else add (.range c d) (choices? depth false more)
        | rest => add (.range c c) (choices? depth false rest)
where
  kindAt? (c : Char) (q : Bool) (rest : List Marked) : Option (Octets × List Marked) :=
    match rest with
    | (':', false) :: name => if c = '[' && !q then kindName? name else none
    | _ => none
  add (choice : Choice) (found : Option (List Choice × List Marked)) :
      Option (List Choice × List Marked) :=
    found.map fun (others, rest) => (choice :: others, rest)

/-- The brackets behind an opening one, if they are closed. -/
def brackets? (s : List Marked) : Option (Glob × List Marked) :=
  match s with
  | ('!', false) :: rest =>
    (choices? s.length true rest).map fun (found, rest) => (.among true found, rest)
  | s => (choices? s.length true s).map fun (found, rest) => (.among false found, rest)

/-- Reads a pattern; the first argument bounds its length. -/
def globs : Nat → List Marked → List Glob
  | 0, _ => []
  | _, [] => []
  | depth + 1, (c, true) :: rest => .one c :: globs depth rest
  | depth + 1, (c, false) :: rest =>
    match c with
    | '*' => .star :: globs depth rest
    | '?' => .any :: globs depth rest
    | '[' =>
      match brackets? rest with
      | some (g, rest) => g :: globs depth rest
      | none => .one c :: globs depth rest
    | '\\' =>
      match rest with
      | (d, _) :: rest => .one d :: globs depth rest
      | [] => [.one c]
    | c => .one c :: globs depth rest

def ofMarked (s : List Marked) : List Glob :=
  globs s.length s

/-- Whether a pattern holds anything but characters that stand for themselves. -/
def isWild (g : List Glob) : Bool :=
  g.any fun
    | .one _ => false
    | _ => true

/-! ### Matching -/

def isControl (c : Char) : Bool :=
  c < ' ' || c = '\x7f'

/-- The kinds of characters that brackets can name. -/
def kinds : List (String × (Char → Bool)) :=
  [("alnum", fun c => Text.isAsciiLetter c || Text.isAsciiDigit c),
   ("alpha", Text.isAsciiLetter),
   ("blank", fun c => c = ' ' || c = '\t'),
   ("cntrl", isControl),
   ("digit", Text.isAsciiDigit),
   ("graph", fun c => ' ' < c && c ≤ '~'),
   ("lower", fun c => 'a' ≤ c && c ≤ 'z'),
   ("print", fun c => ' ' ≤ c && c ≤ '~'),
   ("punct", fun c =>
      ' ' < c && c ≤ '~' && !(Text.isAsciiLetter c || Text.isAsciiDigit c)),
   ("space", fun c => c = ' ' || ('\t' ≤ c && c ≤ '\r')),
   ("upper", fun c => 'A' ≤ c && c ≤ 'Z'),
   ("xdigit", fun c =>
      Text.isAsciiDigit c || ('a' ≤ c && c ≤ 'f') || ('A' ≤ c && c ≤ 'F'))]

def Choice.holds (c : Char) : Choice → Bool
  | .range low high => low ≤ c && c ≤ high
  | .kind name =>
    match kinds.find? fun k => k.1.toList = name with
    | some (_, p) => p c
    | none => false

def Glob.holds (c : Char) : Glob → Bool
  | .one d => c == d
  | .any | .star => true
  | .among isNegated choices => choices.any (·.holds c) != isNegated

/-- Whether some end of a text has a property. -/
def anyEnd (p : Octets → Bool) : Octets → Bool
  | [] => p []
  | c :: s => p (c :: s) || anyEnd p s

/-- Whether a pattern matches some text as a whole. -/
def fits : List Glob → Octets → Bool
  | [], s => s.isEmpty
  | .star :: rest, s => anyEnd (fits rest) s
  | _ :: _, [] => false
  | g :: rest, c :: s => g.holds c && fits rest s

/-- The text in front of the first null character, which divides arguments. -/
def firstPart (s : Octets) : Octets :=
  s.takeWhile (· != '\x00')

/-- The text without the shortest or the longest part in front that matches. -/
def dropStart (longest : Bool) (g : List Glob) (s : Octets) : Octets :=
  let cuts := (List.range (s.length + 1)).filter fun n => fits g (firstPart (s.take n))
  match if longest then cuts.getLast? else cuts.head? with
  | some n => s.drop n
  | none => s

/-- The text without the shortest or the longest part at its end that matches. -/
def dropEnd (longest : Bool) (g : List Glob) (s : Octets) : Octets :=
  let cuts := (List.range (s.length + 1)).filter fun n => fits g (firstPart (s.drop n))
  match if longest then cuts.head? else cuts.getLast? with
  | some n => s.take n
  | none => s

example :
    fits (ofMarked ("a[b-d]*".toList.map (·, false))) "acxyz".toList = true
      ∧ fits (ofMarked ("a[!b]".toList.map (·, false))) "ab".toList = false := by
  decide +kernel

end Pattern

end Storyboard.Shell
