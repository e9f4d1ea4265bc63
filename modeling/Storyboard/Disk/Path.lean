/-!
Paths, as texts with slashes between their pieces. A path that opens with a slash starts at the
root of the machine, every other path at the working directory. Empty pieces and single dots stand
for no step, except a single dot in front.
-/

namespace Storyboard.Path

/-- The pieces of a text between its slashes. -/
def pieces : List Char → List (List Char)
  | [] => [[]]
  | c :: rest =>
    if c = '/' then [] :: pieces rest
    else
      match pieces rest with
      | [] => [[c]]
      | piece :: others => (c :: piece) :: others

theorem pieces_ne_nil (s : List Char) : pieces s ≠ [] := by
  cases s with
  | nil => simp [pieces]
  | cons c rest =>
    simp only [pieces]
    split
    · simp
    · split <;> simp

/-- A slash between two texts divides their pieces. -/
theorem pieces_append_slash (s t : List Char) : pieces (s ++ '/' :: t) = pieces s ++ pieces t := by
  induction s with
  | nil => simp [pieces]
  | cons c rest ih =>
    by_cases hc : c = '/'
    · simp [pieces, hc, ih]
    · cases hp : pieces rest with
      | nil => exact absurd hp (pieces_ne_nil rest)
      | cons piece others => simp [pieces, hc, ih, hp]

theorem pieces_eq_self {s : List Char} (h : '/' ∉ s) : pieces s = [s] := by
  induction s with
  | nil => rfl
  | cons c rest ih =>
    simp only [List.mem_cons, not_or] at h
    have hc : c ≠ '/' := fun e => h.1 e.symm
    simp [pieces, hc, ih h.2]

/-- Pieces with slashes between them. -/
def joined : List (List Char) → List Char
  | [] => []
  | [piece] => piece
  | piece :: others => piece ++ '/' :: joined others

/-- The text of a path is its pieces with slashes between them. -/
theorem joined_pieces (s : List Char) : joined (pieces s) = s := by
  induction s with
  | nil => rfl
  | cons c rest ih =>
    cases hp : pieces rest with
    | nil => exact absurd hp (pieces_ne_nil rest)
    | cons piece others =>
      rw [hp] at ih
      by_cases hc : c = '/'
      · subst hc
        simp [pieces, hp, joined, ih]
      · cases others with
        | nil => simp_all [pieces, joined]
        | cons next more => simp_all [pieces, joined]

def isAbsolute (path : String) : Bool :=
  path.toList.head? == some '/'

/-- Whether a path ends with a slash, so that it can only name a directory. -/
def endsWithSlash (path : String) : Bool :=
  path.toList.getLast? == some '/'

/-- The path of a part below a base. An absolute part stands alone, and so does a part below an
empty base. -/
def join (base part : String) : String :=
  if isAbsolute part || base.isEmpty then part
  else if endsWithSlash base then base ++ part
  else base ++ "/" ++ part

/-- Pieces that are no step. -/
def isIdle (piece : List Char) : Bool :=
  piece.isEmpty || piece == ['.']

/-- The list without its last pieces that are no step. -/
def dropIdleEnd (pieces : List (List Char)) : List (List Char) :=
  (pieces.reverse.dropWhile isIdle).reverse

/-- The list without its last empty pieces, which slashes at the end of a path leave. -/
def dropSlashes (pieces : List (List Char)) : List (List Char) :=
  (pieces.reverse.dropWhile (·.isEmpty)).reverse

/-- The pieces of a path without idle ones at its end; the first one stays. -/
def trimmed (path : String) : List Char × List (List Char) :=
  match pieces path.toList with
  | [] => ([], [])
  | first :: rest => (first, dropIdleEnd rest)

/-- The path of the directory that a path lies in; the root and the empty path lie in none. -/
def parent? (path : String) : Option String :=
  match trimmed path with
  | ([], []) => none
  | (_, []) => some ""
  | (first, rest) =>
    match first, dropIdleEnd rest.dropLast with
    | [], [] => some "/"
    | first, rest => some (String.ofList (joined (first :: rest)))

/-- A path, the path that it lies in, and so on: at most so many paths that each lie in another
one. -/
def lineageWithin : Nat → String → List String
  | 0, _ => []
  | fuel + 1, path =>
    match parent? path with
    | none => []
    | some parent => path :: lineageWithin fuel parent

/-- A path and all those that it lies in, without the root and the empty path. -/
def lineage (path : String) : List String :=
  lineageWithin (path.length + 1) path

/-- The last name on a path. -/
def fileName? (path : String) : Option (List Char) :=
  let (first, rest) := trimmed path
  let name := rest.getLast?.getD first
  if isIdle name || name == ['.', '.'] then none else some name

/-- The part of a file name behind its last dot; a dot in front does not count. -/
def extensionOfName? (name : List Char) : Option (List Char) :=
  let ending := name.reverse.takeWhile (· != '.')
  if ending.length + 1 < name.length then some ending.reverse else none

def extension? (path : String) : Option (List Char) :=
  (fileName? path).bind extensionOfName?

example : parent? "a//b/./c.wav" = some "a//b" := by decide +kernel

example : parent? "c.wav" = some "" ∧ parent? "/c.wav" = some "/" ∧ parent? "/" = none := by
  decide +kernel

example : lineage "m/../f/./h" = ["m/../f/./h", "m/../f", "m/..", "m"] := by decide +kernel

example : lineage "/a//b" = ["/a//b", "/a"] ∧ lineage "/" = [] ∧ lineage "./a" = ["./a", "."] := by
  decide +kernel

example : extension? "t/..timeline" = some "timeline".toList ∧ extension? ".json" = none := by
  decide +kernel

end Storyboard.Path
