import Storyboard.Shell.Arithmetic
import Storyboard.Shell.Field

/-!
The expansion of words: parameters, the output of commands and arithmetic are replaced by what they
stand for. An expansion may set variables, and may end the shell.
-/

namespace Storyboard.Shell

/-- How a word is expanded. -/
structure Purpose where
  /-- Whether the result is divided into fields. -/
  divides : Bool
  /-- Whether the word is what a parameter stands for, so that its own text is divided too. -/
  isValue : Bool
  /-- Whether the word is assigned to a variable, where each part between colons may be a path. -/
  isAssigned : Bool

namespace Purpose

def fields : Purpose := ⟨true, false, false⟩

def single : Purpose := ⟨false, false, false⟩

def assigned : Purpose := ⟨false, false, true⟩

def value (p : Purpose) : Purpose := { p with isValue := true }

end Purpose

/-! ### Values of parameters -/

inductive Value where
  | unset
  | text (t : Octets)
  /-- All arguments; with a star in their name they are joined where they are quoted. -/
  | arguments (isStar : Bool)

/-- The separator of joined arguments. -/
def joint (sh : Shell) : Octets :=
  match sh.value? "IFS".toList with
  | some separators => separators.take 1
  | none => [' ']

def separators (sh : Shell) : Octets :=
  (sh.value? "IFS".toList).getD standardSeparators

def decimal (n : Nat) : Octets :=
  (toString n).toList

/-- The options that are on, in the order in which the shell tells them. -/
def toldOptions (sh : Shell) : Octets :=
  ['p', 'u', 'b', 'a', 'C', 'E', 'V', 'v', 'x', 's', 'n', 'm', 'i', 'I', 'f', 'e'].filter sh.has

def numbered (sh : Shell) (n : Nat) : Value :=
  if n = 0 then .text sh.name
  else
    match sh.arguments[n - 1]? with
    | some a => .text a
    | none => .unset

def valueOf (sh : Shell) (name : Octets) : Value :=
  match name with
  | ['@'] => .arguments false
  | ['*'] => .arguments true
  | ['#'] => .text (decimal sh.arguments.length)
  | ['?'] => .text (decimal sh.last)
  | ['$'] => .text (decimal sh.main)
  | ['-'] => .text (toldOptions sh)
  | ['!'] =>
    match sh.lastJob with
    | some job => .text (decimal job)
    | none => .unset
  | c :: _ =>
    if Text.isAsciiDigit c then
      numbered sh (Arithmetic.valueIn 10 (name.map fun c => c.toNat - '0'.toNat))
    else
      match sh.value? name with
      | some t => .text t
      | none => .unset
  | [] => .unset

/-- The text of a value, if there is one; joined arguments are one text. -/
def Value.text? (sh : Shell) : Value → Option Octets
  | .unset => none
  | .text t => some t
  | .arguments _ => some ((joint sh).intercalate sh.arguments)

/-- The cells of a text that a value holds. -/
def cellsOf (isQuoted : Bool) (t : Octets) : List Cell :=
  if isQuoted then .hold :: Cell.quoted t else t.map (.char · false true)

/-- The arguments as fields of their own. -/
def argumentCells (isQuoted : Bool) : List Octets → List Cell
  | [] => []
  | [a] => cellsOf isQuoted a
  | a :: rest => cellsOf isQuoted a ++ .cut :: argumentCells isQuoted rest

def Value.cells (sh : Shell) (p : Purpose) (isQuoted : Bool) (v : Value) : List Cell :=
  match v with
  | .unset => if isQuoted then [.hold] else []
  | .text t => cellsOf isQuoted t
  | .arguments isStar =>
    if p.divides && !(isQuoted && isStar) then argumentCells isQuoted sh.arguments
    else cellsOf isQuoted ((joint sh).intercalate sh.arguments)

/-- Whether a value stands for fields of their own. -/
def Value.isDivided (p : Purpose) (isQuoted : Bool) : Value → Bool
  | .arguments isStar => p.divides && !(isQuoted && isStar)
  | _ => false

/-- The text of a value; arguments that stay divided have null characters between them. -/
def Value.wholeText (sh : Shell) (p : Purpose) (isQuoted : Bool) (v : Value) : Octets :=
  if v.isDivided p isQuoted then ['\x00'].intercalate sh.arguments else (v.text? sh).getD []

/-- The cells of a text between whose parts null characters may stand. -/
def dividedCells (isQuoted : Bool) (t : Octets) : List Cell :=
  let (part, others) := t.foldr (fun c (part, others) =>
    if c = '\x00' then ([], part :: others) else (c :: part, others)) ([], [])
  argumentCells isQuoted (part :: others)

/-! ### Home directories -/

/-- The home directory of an account; without a name that of the shell. -/
def homeOf? (sh : Shell) (account : Octets) : Option Octets :=
  if account.isEmpty then sh.value? "HOME".toList
  else (Machine.homes.find? (·.1.toList = account)).map (·.2.toList)

/-- A tilde in front of a text or of its first slash stands for a home directory; the name of an
account may come between. -/
def homeCells? (sh : Shell) (t : Octets) (isWhole : Bool) : Option (List Cell) :=
  match t with
  | '~' :: rest =>
    let (account, rest) := rest.span (· != '/')
    if rest.isEmpty && !isWhole then none
    else
      (homeOf? sh account).map fun home =>
        .hold :: Cell.quoted home ++ rest.map (.char · false false)
  | _ => none

/-- The parts of a text between colons, joined by them again after each has been replaced. -/
def betweenColons (f : Octets → (isLast : Bool) → List Cell) (t : Octets) : List Cell :=
  let (part, others) := t.foldr (fun c (part, others) =>
    if c = ':' then ([], part :: others) else (c :: part, others)) ([], [])
  go part others
where
  go (part : Octets) : List Octets → List Cell
    | [] => f part true
    | next :: others => f part false ++ .char ':' false false :: go next others

/-- The cells of unquoted text. -/
def textCells (sh : Shell) (p : Purpose) (isFirst isLast : Bool) (t : Octets) : List Cell :=
  let plain (t : Octets) : List Cell := t.map (.char · false (p.divides && p.isValue))
  if !t.contains '~' then plain t
  else if p.isAssigned then
    let whole := t
    betweenColons (fun part ends =>
      let opens := isFirst || part.length < whole.length
      if opens then (homeCells? sh part (!ends || isLast)).getD (plain part) else plain part) t
  else if isFirst then (homeCells? sh t isLast).getD (plain t)
  else plain t

/-! ### Expansion -/

/-- The output of commands without the line ends behind it. -/
def outputText (bytes : ByteArray) : Octets :=
  (((Octets.ofBytes bytes).filter (· != '\x00')).reverse.dropWhile (· = '\n')).reverse

/-- Runs commands in a shell of its own and gathers their output. -/
def capture (finish : Shell → ExitStatus × Shell) (e : Engine) (body : Statement) (sh : Shell) :
    Octets × Shell :=
  let child := sh.fork.attach 1 (.gathering .empty)
  let stream := child.descriptors.lookup 1
  let (status, child) := finish (e.run body .last child)
  let text := outputText ((stream.map child.system.gathered).getD .empty)
  (text, { ((sh.join child).report status).vacate with substituted := numberOf status })

/-- Sets the variables that an expression has set. -/
def assignAll (sh : Shell) : List (Octets × Int) → Shell
  | [] => sh
  | (name, n) :: rest =>
    match sh.assign name (toString n).toList false with
    | .ok sh => assignAll sh rest
    | .error text => sh.abort text

/-- The value of an expression. -/
def calculate (sh : Shell) (expression : Octets) : Octets × Shell :=
  let lookup (name : Octets) : Octets := ((valueOf sh name).text? sh).getD []
  match Arithmetic.evaluate lookup expression with
  | (.ok n, set) => ((toString n).toList, assignAll sh set.reverse)
  | (.error fault, set) => ([], (assignAll sh set.reverse).abort (fault.message expression))

/-- Complains that a parameter is not set. -/
def refuseUnset (sh : Shell) (name : Octets) (emptyCounts : Bool) : Shell :=
  sh.abort (name ++ ": parameter not set".toList
    ++ (if emptyCounts then " or null".toList else []))

/-- How a shell ends: what it arranged for its end is done, and it has a status. -/
abbrev Finisher := Shell → ExitStatus × Shell

/-- A way to expand the words within words. -/
abbrev Expander := Purpose → Word → Shell → List Cell × Shell

/-- The cells of a parameter. -/
def parameterCells (expand : Expander) (p : Purpose) (name : Octets) (use : Use)
    (isQuoted : Bool) (sh : Shell) : List Cell × Shell :=
  let v := valueOf sh name
  let text := v.text? sh
  let isMissing (emptyCounts : Bool) : Bool :=
    match text with
    | none => true
    | some t => emptyCounts && t.isEmpty
  let quotes (cells : List Cell) : List Cell := if isQuoted then .hold :: cells else cells
  let inner (w : Word) : List Cell × Shell :=
    let (cells, sh) := expand p.value w sh
    (quotes cells, sh)
  let shown : List Cell := v.cells sh p isQuoted
  let needed (f : Octets → List Cell × Shell) : List Cell × Shell :=
    match text with
    | some t => f t
    | none => if sh.has 'u' then ([], refuseUnset sh name false) else f []
  match use with
  | .unknown => ([], sh.abort "Bad substitution".toList)
  | .plain => needed fun _ => (shown, sh)
  | .length => needed fun t => (cellsOf isQuoted (decimal t.length), sh)
  | .orElse emptyCounts w => if isMissing emptyCounts then inner w else (shown, sh)
  | .whereSet emptyCounts w => if isMissing emptyCounts then (quotes [], sh) else inner w
  | .orAssign emptyCounts w =>
    if isMissing emptyCounts then
      let (cells, sh) := expand Purpose.assigned w sh
      let t := Cell.chars cells
      if sh.isStopped then ([], sh)
      else if !isName name then ([], sh.abort (name ++ ": bad variable name".toList))
      else
        match sh.assign name t false with
        | .ok sh => (cellsOf isQuoted t, sh)
        | .error text => ([], sh.abort text)
    else (shown, sh)
  | .orRefuse emptyCounts w =>
    if isMissing emptyCounts then
      if w.isEmpty then ([], refuseUnset sh name emptyCounts)
      else
        let (cells, sh) := expand Purpose.single w sh
        if sh.isStopped then ([], sh)
        else ([], sh.abort (name ++ ": ".toList ++ Cell.chars cells))
    else (shown, sh)
  | .withoutStart longest w =>
    needed fun _ =>
      let (cells, sh) := expand Purpose.single w sh
      let globs := Pattern.ofMarked (Cell.marked cells)
      let t := v.wholeText sh p isQuoted
      (dividedCells isQuoted (Pattern.dropStart longest globs t), sh)
  | .withoutEnd longest w =>
    needed fun _ =>
      let (cells, sh) := expand Purpose.single w sh
      let globs := Pattern.ofMarked (Cell.marked cells)
      let t := v.wholeText sh p isQuoted
      (dividedCells isQuoted (Pattern.dropEnd longest globs t), sh)

/-- The cells of a piece of a word. -/
def pieceCells (finish : Finisher) (e : Engine) (expand : Expander) (p : Purpose)
    (isFirst isLast : Bool) (piece : Piece) (sh : Shell) : List Cell × Shell :=
  match piece with
  | .text chars true => (.hold :: Cell.quoted chars, sh)
  | .text chars false => (textCells sh p isFirst isLast chars, sh)
  | .parameter name use isQuoted => parameterCells expand p name use isQuoted sh
  | .output body isQuoted =>
    let (text, sh) := capture finish e body sh
    (cellsOf isQuoted text, sh)
  | .arithmetic expression isQuoted =>
    let (cells, sh) := expand Purpose.single expression sh
    if sh.isStopped then ([], sh)
    else
      let (text, sh) := calculate sh (Cell.chars cells)
      (cellsOf isQuoted text, sh)

/-- The cells of the pieces of a word, one after the other, unless one ends the shell. -/
def piecesCells (finish : Finisher) (e : Engine) (expand : Expander) (p : Purpose)
    (isFirst : Bool) : List Piece → Shell → List Cell × Shell
  | [], sh => ([], sh)
  | piece :: rest, sh =>
    let (cells, sh) := pieceCells finish e expand p isFirst rest.isEmpty piece sh
    if sh.isStopped then (cells, sh)
    else
      let (more, sh) := piecesCells finish e expand p false rest sh
      (cells ++ more, sh)

/-- How deeply words may stand within words. -/
def nestingLimit : Nat := 1000

/-- The cells of a word; the first argument bounds the words within it. -/
def cellsFrom (finish : Finisher) (e : Engine) : Nat → Expander
  | 0, _, _, sh => ([], sh)
  | depth + 1, p, w, sh => piecesCells finish e (cellsFrom finish e depth) p true w sh

def cells (finish : Finisher) (e : Engine) : Expander :=
  cellsFrom finish e nestingLimit

/-- The fields that a word stands for. -/
def fields (finish : Finisher) (e : Engine) (w : Word) (sh : Shell) : List Octets × Shell :=
  let (found, sh) := cells finish e .fields w sh
  ((divide (separators sh) found).flatMap (pathsOf sh), sh)

/-- The fields that some words stand for. -/
def allFields (finish : Finisher) (e : Engine) : List Word → Shell → List Octets × Shell
  | [], sh => ([], sh)
  | w :: rest, sh =>
    let (found, sh) := fields finish e w sh
    if sh.isStopped then (found, sh)
    else
      let (more, sh) := allFields finish e rest sh
      (found ++ more, sh)

/-- The one text that a word stands for where it is not divided. -/
def textOf (finish : Finisher) (e : Engine) (p : Purpose) (w : Word) (sh : Shell) :
    Octets × Shell :=
  let (found, sh) := cells finish e p w sh
  (Cell.chars found, sh)

end Storyboard.Shell
