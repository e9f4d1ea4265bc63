import Storyboard.Regex.Class

/-!
Written expressions: branches, groups, repetitions and the switches that say how the rest of a group
is to be read. There are no counted repetitions, so that a brace never stands for itself alone.
-/

namespace Storyboard

namespace Regex

/-! ### Switches -/

/-- The mode with the switch of a letter turned on or off. -/
def Mode.switch? (m : Mode) (letter : Char) (isOn : Bool) : Option Mode :=
  match letter with
  | 'i' => some { m with ignoresCase := isOn }
  | 'm' => some { m with mindsLines := isOn }
  | 's' => some { m with pointsAtLines := isOn }
  | 'U' => some { m with swapsGreed := isOn }
  | 'R' => some { m with mindsReturns := isOn }
  | 'u' => some { m with isWide := isOn }
  | 'x' => some { m with skipsBlanks := isOn }
  | _ => none

/-- The mode after some switches, whether there are any, whether a colon ends them, and the rest.
Those behind a hyphen are turned off; no sign stands there twice. -/
def switches? (m : Mode) (signs : List Char) : List Char → Option (Mode × Bool × Bool × List Char)
  | [] => none
  | c :: rest =>
    if c = ':' || c = ')' then
      if signs.head? = some '-' then none else some (m, !signs.isEmpty, c = ':', rest)
    else if signs.contains c then none
    else if c = '-' then switches? m (c :: signs) rest
    else do switches? (← m.switch? c (!signs.contains '-')) (c :: signs) rest

/-! ### Groups -/

/-- What a parenthesis opens: a group, read in some mode, or switches for the rest of the group
around it. -/
inductive Opened where
  | group (m : Mode) (names : List String) (rest : List Char)
  | switched (m : Mode) (rest : List Char)

def isNameStart (c : Char) : Bool :=
  c = '_' || Text.isAlphabetic c

def isNameChar (c : Char) : Bool :=
  c = '_' || c = '.' || c = '[' || c = ']' || Text.isAlphanumeric c

/-- The name of a group, which no other group has. -/
def groupName? (names : List String) (s : List Char) : Option (String × List Char) :=
  let name := s.takeWhile (· ≠ '>')
  match s.dropWhile (· ≠ '>') with
  | _ :: rest =>
    if name.head?.any isNameStart && name.tail.all isNameChar
        && !names.contains (String.ofList name) then some (String.ofList name, rest)
    else none
  | [] => none

/-- What opens behind a parenthesis. Nothing can be asked of what comes before or after. -/
def opened? (m : Mode) (names : List String) (s : List Char) : Option Opened :=
  let named (s : List Char) : Option Opened := do
    let (name, rest) ← groupName? names s
    return .group m (name :: names) rest
  match m.skip s with
  | '?' :: '=' :: _ | '?' :: '!' :: _ | '?' :: '<' :: '=' :: _ | '?' :: '<' :: '!' :: _ => none
  | '?' :: 'P' :: '<' :: rest | '?' :: '<' :: rest => named rest
  | '?' :: rest => do
    let (inner, isAny, isGroup, rest) ← switches? m [] rest
    if isGroup then return .group inner names rest
    else if isAny then return .switched inner rest
    else none
  | s => some (.group m names s)

/-! ### Branches -/

/-- What a character of an expression stands for, with the rest. -/
def atom? (m : Mode) : List Char → Option (Regex × List Char)
  | [] => none
  | '\\' :: rest => do
    let (atom, rest) ← escaped? m rest
    match atom with
    | .char c => return (one (m.folded (· = c)), rest)
    | .members isMember => return (one isMember, rest)
    | .look l => return (look l, rest)
  | '.' :: rest =>
    if !m.isWide then none
    else
      let isLineEnd (c : Char) : Bool := c = '\n' || (m.mindsReturns && c = '\r')
      some (one fun c => m.pointsAtLines || !isLineEnd c, rest)
  | '^' :: rest =>
    some (look (if m.mindsLines then .lineStart m.mindsReturns else .textStart), rest)
  | '$' :: rest =>
    some (look (if m.mindsLines then .lineEnd m.mindsReturns else .textEnd), rest)
  | c :: rest => some (one (m.folded (· = c)), rest)

/-- The repetition that a sign asks for. -/
def repeated? (r : Regex) (isGreedy : Bool) : Char → Option Regex
  | '*' => some (many true isGreedy r)
  | '+' => some (many false isGreedy r)
  | '?' => some (if isGreedy then alt r empty else alt empty r)
  | _ => none

def sequence (pieces : List Regex) : Regex :=
  pieces.foldl seq empty

def choice (first : Regex) : List Regex → Regex
  | [] => first
  | r :: rest => alt first (choice r rest)

/-- What has been read of a group: the branches before the last bar and the pieces behind it, the
latest ones first. Switches are pieces that cannot be repeated. -/
structure GroupSoFar where
  branches : List Regex
  pieces : List (Option Regex)

namespace GroupSoFar

def start : GroupSoFar := ⟨[], []⟩

def add (g : GroupSoFar) (piece : Option Regex) : GroupSoFar :=
  { g with pieces := piece :: g.pieces }

def lastBranch (g : GroupSoFar) : Regex :=
  sequence (g.pieces.reverse.filterMap id)

def endBranch (g : GroupSoFar) : GroupSoFar :=
  ⟨g.lastBranch :: g.branches, []⟩

/-- The expression of the group. -/
def whole (g : GroupSoFar) : Regex :=
  match g.endBranch.branches.reverse with
  | [] => empty
  | first :: rest => choice first rest

/-- The group with its last piece repeated as a sign asks, and what follows. -/
def repeatLast? (m : Mode) (g : GroupSoFar) (sign : Char) (s : List Char) :
    Option (GroupSoFar × List Char) :=
  match g.pieces with
  | some r :: pieces => do
    let (isLazy, s) := match s with
      | '?' :: s => (true, s)
      | s => (false, s)
    return (⟨g.branches, some (← repeated? r (isLazy == m.swapsGreed) sign) :: pieces⟩, s)
  | _ => none

end GroupSoFar

/-- The rest of a group up to the parenthesis that closes it or the end of the text, with the names
of all groups so far and what follows. -/
def group? : Nat → Mode → List String → GroupSoFar → List Char →
    Option (Regex × List String × List Char)
  | 0, _, _, _, _ => none
  | fuel + 1, m, names, g, s =>
    match m.skip s with
    | [] => some (g.whole, names, [])
    | ')' :: rest => some (g.whole, names, ')' :: rest)
    | '|' :: rest => group? fuel m names g.endBranch rest
    | '(' :: rest => do
      match ← opened? m names rest with
      | .switched m rest => group? fuel m names (g.add none) rest
      | .group inner names rest =>
        match ← group? fuel inner names .start rest with
        | (r, names, ')' :: rest) => group? fuel m names (g.add r) rest
        | _ => none
    | '[' :: rest => do
      let (isMember, rest) ← class? m rest
      group? fuel m names (g.add (some (one isMember))) rest
    | '\x7b' :: _ => none
    | c :: rest =>
      if ['*', '+', '?'].contains c then do
        let (g, rest) ← g.repeatLast? m c rest
        group? fuel m names g rest
      else do
        let (r, rest) ← atom? m (c :: rest)
        group? fuel m names (g.add (some r)) rest

/-- Why a text is no expression that can be used. -/
inductive Flaw where
  | unread
  /-- Words of all scripts cannot be told from what is around them. -/
  | wideWords
deriving DecidableEq

/-- The expression that a text describes. -/
def ofText (text : String) : Except Flaw Regex :=
  let s := text.toList
  match group? (s.length + 1) {} [] .start s with
  | some (r, _, []) => if r.asksWideWords then .error .wideWords else .ok r
  | _ => .error .unread

end Regex

end Storyboard
