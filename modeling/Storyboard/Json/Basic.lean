import Storyboard.Json.Numeral
import Storyboard.Json.Literal

/-!
JSON values. Members of an object keep their order and may repeat a key. A text of `none` is a
literal with an unpaired surrogate, which is well formed but denotes no text.
-/

namespace Storyboard

inductive Json where
  | null
  | bool (b : Bool)
  | number (n : Numeral)
  | text (s : Option String)
  | array (values : List Json)
  | object (members : List (Option String × Json))

namespace Json

instance : Inhabited Json := ⟨.null⟩

def ofString (s : String) : Json :=
  .text (some s)

def ofNat (n : Nat) : Json :=
  .number (Numeral.ofNat n)

def ofInt (n : Int) : Json :=
  .number (Numeral.ofInt n)

/-- A number; a value that is not finite is written as null. -/
def ofBinary64 (x : Binary64) : Json :=
  match Numeral.ofBinary64? x with
  | some n => .number n
  | none => .null

/-- An object from its members, of which the absent ones are left out. -/
def ofMembers (members : List (String × Option Json)) : Json :=
  .object (members.filterMap fun (key, value?) => value?.map (some key, ·))

/-! ### Acceptance -/

/-- The deepest nesting of arrays and objects that a reader accepts. -/
def nestingLimit : Nat := 127

mutual

/-- Whether every text denotes one, every number is in range, and arrays and objects nest at most
`depth` deep. -/
def sound (depth : Nat) : Json → Bool
  | .null => true
  | .bool _ => true
  | .number n => n.toBinary64?.isSome
  | .text s => s.isSome
  | .array values => 0 < depth && soundValues (depth - 1) values
  | .object members => 0 < depth && soundMembers (depth - 1) members

def soundValues (depth : Nat) : List Json → Bool
  | [] => true
  | v :: rest => sound depth v && soundValues depth rest

def soundMembers (depth : Nat) : List (Option String × Json) → Bool
  | [] => true
  | (key, v) :: rest => key.isSome && sound depth v && soundMembers depth rest

end

/-! ### Look-up -/

def toBinary64? : Json → Option Binary64
  | .number n => n.toBinary64?
  | _ => none

def toString? : Json → Option String
  | .text s => s
  | _ => none

def toList? : Json → Option (List Json)
  | .array values => some values
  | _ => none

/-- The value of the last member with the key. -/
def find? (key : String) : Json → Option Json
  | .object members => (members.reverse.find? (·.1 = some key)).map (·.2)
  | _ => none

end Json

end Storyboard
