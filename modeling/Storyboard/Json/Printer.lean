import Storyboard.Json.Basic

/-!
Printing of JSON values. Compact text has no blanks; pretty text puts each element and member on a
line of its own, two blanks deeper than the bracket that opens its container.
-/

namespace Storyboard.Json

/-- Where a value is printed: compactly, or pretty at a depth. -/
inductive Margin where
  | compact
  | pretty (depth : Nat)
deriving DecidableEq

namespace Margin

def deeper : Margin → Margin
  | .compact => .compact
  | .pretty depth => .pretty (depth + 1)

/-- What separates two elements, beside the comma. -/
def gap : Margin → List Char
  | .compact => []
  | .pretty depth => '\n' :: List.replicate (2 * depth) ' '

def colon : Margin → List Char
  | .compact => [':']
  | .pretty _ => [':', ' ']

end Margin

/-- A text literal; a text that denotes none is printed as a lone surrogate. -/
def printText : Option String → List Char
  | some s => Literal.write s.toList
  | none => ['"', '\\', 'u', 'd', '8', '0', '0', '"']

mutual

def print (m : Margin) : Json → List Char
  | .null => ['n', 'u', 'l', 'l']
  | .bool true => ['t', 'r', 'u', 'e']
  | .bool false => ['f', 'a', 'l', 's', 'e']
  | .number n => n.write
  | .text s => printText s
  | .array [] => ['[', ']']
  | .array (v :: rest) =>
    '[' :: (m.deeper.gap ++ (print m.deeper v ++ (printValues m.deeper rest ++ (m.gap ++ [']']))))
  | .object [] => ['{', '}']
  | .object ((key, v) :: rest) =>
    '{' :: (m.deeper.gap ++ (printText key ++ (m.colon ++ (print m.deeper v
      ++ (printMembers m.deeper rest ++ (m.gap ++ ['}']))))))

/-- The elements after the first, each behind a comma. -/
def printValues (m : Margin) : List Json → List Char
  | [] => []
  | v :: rest => ',' :: (m.gap ++ (print m v ++ printValues m rest))

/-- The members after the first, each behind a comma. -/
def printMembers (m : Margin) : List (Option String × Json) → List Char
  | [] => []
  | (key, v) :: rest =>
    ',' :: (m.gap ++ (printText key ++ (m.colon ++ (print m v ++ printMembers m rest))))

end

def compact (v : Json) : String :=
  String.ofList (print .compact v)

def pretty (v : Json) : String :=
  String.ofList (print (.pretty 0) v)

end Storyboard.Json
