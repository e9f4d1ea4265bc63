import Storyboard.Text.Case
import Storyboard.Text.Octet

/-!
The names of files in complaints. A name of plain characters stands for itself; every other one is
quoted so that a shell would read it back: between single quotes, or between double quotes where it
holds an apostrophe and nothing worse, with escapes for what cannot be printed.
-/

namespace Storyboard.Text.FileName

/-- The characters that never need quotes. -/
def isPlain (c : Char) : Bool :=
  isWordChar c || ['%', '+', ',', '-', '.', '/', ']', '@', '\x7b', '\x7d', '#', '~'].contains c

/-- Characters that need quotes in front of a name, or where they are all of it. -/
def isPlainAt (name : Octets) (position : Nat) (c : Char) : Bool :=
  isPlain c &&
    !(position = 0 &&
      (['#', '~'].contains c || (['\x7b', '\x7d'].contains c && name.length = 1)))

/-- The characters that keep their meaning between double quotes. -/
def isMild (c : Char) : Bool :=
  isPlain c || [' ', '\'', ':'].contains c

def isPrinted (c : Char) : Bool :=
  ' ' ≤ c && c ≤ '~'

/-- The letters of escapes for characters that cannot be printed. -/
def escapeLetters : List (Char × Char) :=
  [('\x07', 'a'), ('\x08', 'b'), ('\x0c', 'f'), ('\n', 'n'), ('\r', 'r'), ('\t', 't'),
   ('\x0b', 'v')]

def octalDigit (n : Nat) : Char :=
  Char.ofNat ('0'.toNat + n % 8)

def escaped (c : Char) : Octets :=
  match escapeLetters.lookup c with
  | some letter => ['\\', letter]
  | none => ['\\', octalDigit (c.toNat / 64), octalDigit (c.toNat / 8), octalDigit c.toNat]

/-- What stands between single quotes; `inside` tells whether escapes have been begun. -/
def quotedFrom : (inside : Bool) → Octets → Octets
  | _, [] => []
  | inside, c :: rest =>
    if isPrinted c then
      let opening := if inside then ['\'', '\''] else []
      if c = '\'' then opening ++ ['\'', '\\', '\'', '\''] ++ quotedFrom false rest
      else opening ++ c :: quotedFrom false rest
    else (if inside then [] else ['\'', '$', '\'']) ++ escaped c ++ quotedFrom true rest

/-- A name as complaints write it. -/
def write (name : Octets) : Octets :=
  if !name.isEmpty && (name.zipIdx.all fun (c, i) => isPlainAt name i c) then name
  else if name.contains '\'' && name.all isMild then '"' :: name ++ ['"']
  else '\'' :: quotedFrom false name ++ ['\'']

example : write "a b".toList = "'a b'".toList ∧ write "it's".toList = "\"it's\"".toList
    ∧ write "a\tb".toList = "'a'$'\\t''b'".toList
    ∧ write "d/x-1.wav".toList = "d/x-1.wav".toList := by
  decide

end Storyboard.Text.FileName
