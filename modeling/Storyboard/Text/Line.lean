/-!
Lines. A line feed ends a line, together with one carriage return right before it; a last line
need not be ended.
-/

namespace Storyboard.Text

/-- The lines of a text, without their ends. -/
def lines : List Char → List (List Char)
  | [] => []
  | '\n' :: rest => [] :: lines rest
  | '\r' :: '\n' :: rest => [] :: lines rest
  | c :: rest =>
    match lines rest with
    | [] => [[c]]
    | line :: others => (c :: line) :: others

@[simp] theorem lines_nil : lines [] = [] := rfl

@[simp] theorem lines_newline (rest : List Char) : lines ('\n' :: rest) = [] :: lines rest := by
  simp [lines]

/-- A carriage return that no line feed follows belongs to its line. -/
example : lines "a\r\r\nb\r".toList = ["a\r".toList, "b\r".toList] := by decide

end Storyboard.Text
