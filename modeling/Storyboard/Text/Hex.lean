/-!
Hexadecimal digits: written in small letters, read in either case.
-/

namespace Storyboard.Text

def hexChars : List Char :=
  ['0', '1', '2', '3', '4', '5', '6', '7', '8', '9', 'a', 'b', 'c', 'd', 'e', 'f']

def hexChar (n : Nat) : Char :=
  hexChars.getD n '0'

def hexValue? (c : Char) : Option Nat :=
  hexChars.idxOf? c.toLower

theorem hexValue?_hexChar (n : Fin 16) : hexValue? (hexChar n) = some n.val := by
  revert n
  decide

/-- The lowest `count` hexadecimal digits of a number, the most significant first. -/
def hexDigits : Nat → Nat → List Char
  | 0, _ => []
  | count + 1, n => hexDigits count (n / 16) ++ [hexChar (n % 16)]

end Storyboard.Text
