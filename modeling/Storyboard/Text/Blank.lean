/-!
White space. A character is blank when Unicode gives it the property White_Space; trimming drops
blank characters from the ends of a text.
-/

namespace Storyboard.Text

/-- The characters with the Unicode property White_Space. -/
def blanks : List Char :=
  ['\u0009', '\u000a', '\u000b', '\u000c', '\u000d', '\u0020', '\u0085', '\u00a0', '\u1680',
   '\u2000', '\u2001', '\u2002', '\u2003', '\u2004', '\u2005', '\u2006', '\u2007', '\u2008',
   '\u2009', '\u200a', '\u2028', '\u2029', '\u202f', '\u205f', '\u3000']

def isBlank (c : Char) : Bool :=
  blanks.contains c

def trimStart (s : List Char) : List Char :=
  s.dropWhile isBlank

def trimEnd (s : List Char) : List Char :=
  (s.reverse.dropWhile isBlank).reverse

def trim (s : List Char) : List Char :=
  trimEnd (trimStart s)

/-- The blank characters that open a text. -/
def indent (s : List Char) : List Char :=
  s.takeWhile isBlank

@[simp] theorem indent_append_trimStart (s : List Char) : indent s ++ trimStart s = s :=
  List.takeWhile_append_dropWhile

/-- The words of a text, which blank characters separate. -/
def words (s : List Char) : List (List Char) :=
  (s.foldr step ([], [])) |> finish
where
  step (c : Char) : List Char × List (List Char) → List Char × List (List Char)
    | (word, done) => if isBlank c then ([], close word done) else (c :: word, done)
  close (word : List Char) (done : List (List Char)) : List (List Char) :=
    if word.isEmpty then done else word :: done
  finish : List Char × List (List Char) → List (List Char)
    | (word, done) => close word done

example : words " a\t bc \n".toList = ["a".toList, "bc".toList] := by decide

end Storyboard.Text
