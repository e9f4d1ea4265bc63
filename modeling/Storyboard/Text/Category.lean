import Storyboard.Text.Category.Runs
import Storyboard.Text.Case

/-!
Classes of characters after the general categories of Unicode. A character belongs to one category
at most; one that belongs to none is a control, a format character, private or not assigned.
-/

namespace Storyboard.Text

/-- Whether a character lies in one of some runs. -/
def liesIn (runs : List (Nat × Nat)) (c : Char) : Bool :=
  runs.any fun (first, last) => first ≤ c.toNat && c.toNat ≤ last

/-- The general categories by their main groups. -/
inductive Category where
  | letter
  | mark
  | number
  | punctuation
  | symbol
  | separator
  | other
deriving DecidableEq

namespace Category

/-- The runs of a category; all that lies in none of them is other. -/
def runs : Category → List (List (Nat × Nat))
  | .letter => [Runs.letters]
  | .mark => [Runs.overlays, Runs.spacingMarks]
  | .number => [Runs.digits, Runs.letterNumbers, Runs.otherNumbers]
  | .punctuation => [Runs.connectors, Runs.punctuation]
  | .symbol => [Runs.symbols]
  | .separator => [Runs.separators]
  | .other => []

def named : List Category :=
  [.letter, .mark, .number, .punctuation, .symbol, .separator]

/-- Whether a category has a character. -/
def has (k : Category) (c : Char) : Bool :=
  if k = .other then !named.any fun k => k.runs.any (liesIn · c)
  else k.runs.any (liesIn · c)

/-- The category that one letter, in either case, stands for. -/
def ofLetter? (c : Char) : Option Category :=
  [('l', .letter), ('m', .mark), ('n', .number), ('p', .punctuation), ('s', .symbol),
    ('z', .separator), ('c', .other)].lookup c.toLower

end Category

/-- The decimal digits of all scripts. -/
def isDigit (c : Char) : Bool :=
  liesIn Runs.digits c

def isAlphabetic (c : Char) : Bool :=
  Category.letter.has c || liesIn Runs.letterNumbers c || liesIn Runs.otherAlphabetic c

def isAlphanumeric (c : Char) : Bool :=
  isAlphabetic c || Category.number.has c

/-- What joins the characters around it without a sign of its own. -/
def isJoiner (c : Char) : Bool :=
  c = '\u200c' || c = '\u200d'

/-- The characters of words of all scripts. -/
def isLettering (c : Char) : Bool :=
  isAlphabetic c || Category.mark.has c || isDigit c || liesIn Runs.connectors c || isJoiner c

/-- Whether a character is drawn into the one before it. -/
def isExtending (c : Char) : Bool :=
  liesIn Runs.overlays c || liesIn Runs.otherExtending c

end Storyboard.Text
