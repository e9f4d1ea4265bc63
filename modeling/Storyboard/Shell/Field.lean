import Storyboard.Shell.Pattern
import Storyboard.Shell.State

/-!
Fields. What a word stands for is first a row of cells: characters, the places where arguments are
divided, and the traces of quotes, which keep a field even if it is empty. Separators divide the row
into fields, and patterns among these are replaced by the names of files.
-/

namespace Storyboard.Shell

inductive Cell where
  /-- A character, which may be quoted, and may divide fields if it came from a value. -/
  | char (c : Char) (isQuoted divides : Bool)
  /-- Quotes, which make a field. -/
  | hold
  /-- The end of an argument. -/
  | cut

namespace Cell

def quoted (text : Octets) : List Cell :=
  text.map (.char · true false)

/-- The characters of some cells, with their quotes. -/
def marked (cells : List Cell) : List Marked :=
  cells.filterMap fun
    | .char c isQuoted _ => some (c, isQuoted)
    | .hold | .cut => none

def chars (cells : List Cell) : Octets :=
  (marked cells).map (·.1)

end Cell

/-! ### Dividing -/

/-- The separators of fields where the script has set none. -/
def standardSeparators : Octets :=
  [' ', '\t', '\n']

/-- The separators that count as one however many there are. -/
def isBlankSeparator (separators : Octets) (c : Char) : Bool :=
  standardSeparators.contains c && separators.contains c

/-- Fields in the making: those that are complete, the one that more may follow, and whether blank
separators have just ended one. -/
structure Fields where
  done : List (List Marked)
  current : Option (List Marked)
  isBehind : Bool

namespace Fields

def close (f : Fields) : Fields :=
  match f.current with
  | some field => ⟨f.done ++ [field], none, false⟩
  | none => f

def open_ (f : Fields) : Fields :=
  { f with current := some (f.current.getD []), isBehind := false }

def add (separators : Octets) (f : Fields) : Cell → Fields
  | .hold => f.open_
  | .cut => { f.close with isBehind := false }
  | .char c isQuoted divides =>
    if divides && separators.contains c then
      if isBlankSeparator separators c then
        if f.current.isSome then { f.close with isBehind := true } else f
      else if f.isBehind then { f with isBehind := false }
      else { f.open_.close with isBehind := false }
    else { f with current := some (f.current.getD [] ++ [(c, isQuoted)]), isBehind := false }

end Fields

/-- The fields into which separators divide some cells. -/
def divide (separators : Octets) (cells : List Cell) : List (List Marked) :=
  (cells.foldl (Fields.add separators) ⟨[], none, false⟩).close.done

example :
    (divide [' ', ','] (" a , b ,, c".toList.map (.char · false true))).map (·.map (·.1))
      = ["a".toList, "b".toList, [], "c".toList] := by decide

/-! ### Reading into names -/

/-- The field in front of a separator, and what is behind the separator. -/
def cutField (separators : Octets) (line : List Marked) : List Marked × List Marked :=
  let isSeparator (m : Marked) : Bool := separators.contains m.1 && !m.2
  let isBlank (m : Marked) : Bool := isBlankSeparator separators m.1 && !m.2
  let (field, rest) := line.span (!isSeparator ·)
  let rest := rest.dropWhile isBlank
  match rest with
  | m :: more => (field, if isSeparator m then more.dropWhile isBlank else rest)
  | [] => (field, [])

/-- A line cut into so many fields; the last one takes all that is left. -/
def cutLine (separators : Octets) : Nat → List Marked → List (List Marked)
  | 0, _ => []
  | 1, line =>
    let isBlank (m : Marked) : Bool := isBlankSeparator separators m.1 && !m.2
    match cutField separators line with
    | (field, []) => [field]
    | _ => [(line.reverse.dropWhile isBlank).reverse]
  | count + 2, line =>
    let (field, rest) := cutField separators line
    field :: cutLine separators (count + 1) rest

/-- The fields of a line for so many names; blank separators in front do not count. -/
def fieldsFor (separators : Octets) (count : Nat) (line : List Marked) : List Octets :=
  let isBlank (m : Marked) : Bool := isBlankSeparator separators m.1 && !m.2
  (cutLine separators count (line.dropWhile isBlank)).map (·.map (·.1))

/-! ### Names of files -/

/-- The pieces of a pattern between slashes. -/
def pathPieces (s : List Marked) : List (List Marked) :=
  let (piece, others) := s.foldr (fun m (piece, others) =>
    if m.1 = '/' then ([], piece :: others) else (m :: piece, others)) ([], [])
  piece :: others

/-- Whether a character of a pattern may stand for others. -/
def isWildMark (m : Marked) : Bool :=
  !m.2 && ['*', '?', '['].contains m.1

/-- The names in a directory that a piece of a pattern matches; a dot in front must be given. -/
def namesIn (sh : Shell) (folder : Octets) (piece : List Marked) : List Octets :=
  let path := sh.surroundings.path (if folder.isEmpty then ['.'] else folder)
  match sh.system.store.locate path with
  | .error _ => []
  | .ok l =>
    match sh.system.store.find? l with
    | some .directory =>
      let globs := Pattern.ofMarked piece
      let names := ['.'] :: ['.', '.']
        :: (sh.system.store.children l).map fun (name, _) => Octets.ofText name
      names.filter fun name =>
        Pattern.fits globs name && (name.head? != some '.' || globs.head? = some (.one '.'))
    | _ => []

/-- The paths that the pieces of a pattern lead to from a path. -/
def pathsFrom (sh : Shell) : Octets → List (List Marked) → List Octets
  | _, [] => []
  | base, [piece] =>
    if Pattern.isWild (Pattern.ofMarked piece) then
      (namesIn sh base piece).map (base ++ ·)
    else
      let path := base ++ piece.map (·.1)
      if (sh.system.store.node (sh.surroundings.path path)).isOk then [path] else []
  | base, piece :: rest =>
    if Pattern.isWild (Pattern.ofMarked piece) then
      (namesIn sh base piece).flatMap fun name => pathsFrom sh (base ++ name ++ ['/']) rest
    else pathsFrom sh (base ++ piece.map (·.1) ++ ['/']) rest

/-- The order of paths by their bytes. -/
def isNotAbove : Octets → Octets → Bool
  | [], _ => true
  | _ :: _, [] => false
  | a :: s, b :: t => a < b || (a = b && isNotAbove s t)

/-- What a field stands for: the paths that match it, or itself where there are none. -/
def pathsOf (sh : Shell) (field : List Marked) : List Octets :=
  let plain := field.map (·.1)
  if sh.has 'f' || !field.any isWildMark then [plain]
  else
    match pathsFrom sh [] (pathPieces field) with
    | [] => [plain]
    | paths => paths.mergeSort isNotAbove

end Storyboard.Shell
