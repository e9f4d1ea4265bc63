import Storyboard.Text.Category
import Storyboard.Text.Hex

/-!
Texts between quotation marks, on one line: what would end the text or the line, and what cannot be
seen, is written as an escape.
-/

namespace Storyboard.Text

/-- The characters with short escapes, each with the letter behind the backslash. -/
def shortEscapes : List (Char × Char) :=
  [('"', '"'), ('\\', '\\'), ('\n', 'n'), ('\r', 'r'), ('\t', 't'), ('\x00', '0')]

/-- Whether a character can be seen by itself; of the separators the space alone counts. -/
def isSeen (c : Char) : Bool :=
  c = ' ' || !(Category.separator.has c || Category.other.has c || isExtending c)

/-- A character between quotation marks. -/
def quotedChar (c : Char) : List Char :=
  match shortEscapes.lookup c with
  | some letter => ['\\', letter]
  | none =>
    if isSeen c then [c]
    else ['\\', 'u', '\x7b'] ++ Nat.toDigits 16 c.toNat ++ ['\x7d']

/-- A text between quotation marks. -/
def quoted (s : List Char) : List Char :=
  '"' :: s.flatMap quotedChar ++ ['"']

example : quoted "a\n\"\x1b".toList = "\"a\\n\\\"\\u\x7b1b\x7d\"".toList := by
  decide +kernel

end Storyboard.Text
