/-!
Texts inside texts: whether one occurs in another, and the replacement of every occurrence, from
the left and without overlaps.
-/

namespace Storyboard.Text

/-- Whether a text contains another. -/
def contains (part : List Char) : List Char → Bool
  | [] => part.isEmpty
  | c :: rest => part.isPrefixOf (c :: rest) || contains part rest

/-- Replaces a part in a text whose first `done` characters an occurrence has already used up. -/
def replaceFrom (part value : List Char) (done : Nat) : List Char → List Char
  | [] => []
  | c :: rest =>
    match done with
    | k + 1 => replaceFrom part value k rest
    | 0 =>
      if part.isPrefixOf (c :: rest) then value ++ replaceFrom part value (part.length - 1) rest
      else c :: replaceFrom part value 0 rest

/-- The text with every occurrence of a part, which must not be empty, replaced. -/
def replaceAll (part value : List Char) (text : List Char) : List Char :=
  replaceFrom part value 0 text

example : replaceAll "aa".toList "b".toList "aaacaa".toList = "bacb".toList := by decide

end Storyboard.Text
