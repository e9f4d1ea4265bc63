import Storyboard.Text.Octet

/-!
The first line of a script, which names the program that reads the script.
-/

namespace Storyboard.Program

/-- How much of a file is looked at, in bytes. -/
def headLength : Nat := 256

def isLineBlank (c : Char) : Bool :=
  c = ' ' || c = '\t'

/-- Whether a character ends the path of an interpreter. -/
def endsInterpreter (c : Char) : Bool :=
  isLineBlank c || c = '\x00'

/-- The interpreter of a script and the one argument that its line adds. A path that may go on
behind what is looked at names none. -/
def interpreter? (content : ByteArray) : Option (Octets × Option Octets) :=
  match Octets.ofBytes (content.extract 0 headLength) with
  | '#' :: '!' :: head =>
    let line := head.takeWhile (· != '\n')
    let isCut := line.length = head.length && headLength ≤ content.size
    let words := line.dropWhile isLineBlank
    let path := words.takeWhile (!endsInterpreter ·)
    let behind := words.drop path.length
    if path.isEmpty || (isCut && behind.isEmpty) then none
    else
      let argument := ((behind.dropWhile isLineBlank).takeWhile (· != '\x00')).reverse
      let argument := (argument.dropWhile isLineBlank).reverse
      some (path, if behind.head? = some '\x00' || argument.isEmpty then none else some argument)
  | _ => none

example : interpreter? "#! /bin/sh -e \nfalse\n".toUTF8
    = some ("/bin/sh".toList, some "-e".toList) := by decide +kernel

end Storyboard.Program
