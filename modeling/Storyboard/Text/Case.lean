/-!
Letter case, for ASCII letters alone. Keywords, names and file extensions are compared this way;
every other character equals only itself.
-/

namespace Storyboard.Text

/-- The text with its ASCII capitals made small. -/
def lower (s : List Char) : List Char :=
  s.map Char.toLower

def sameLetter (a b : Char) : Bool :=
  a.toLower == b.toLower

/-- Equality up to the case of ASCII letters. -/
def sameWord (s t : List Char) : Bool :=
  lower s == lower t

def isAsciiLetter (c : Char) : Bool :=
  ('a' ≤ c && c ≤ 'z') || ('A' ≤ c && c ≤ 'Z')

def isAsciiDigit (c : Char) : Bool :=
  '0' ≤ c && c ≤ '9'

/-- The characters of an identifier: ASCII letters and digits and the underscore. -/
def isWordChar (c : Char) : Bool :=
  isAsciiLetter c || isAsciiDigit c || c == '_'

end Storyboard.Text
