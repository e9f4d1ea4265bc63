import Storyboard.Json.Basic

/-!
Records in a document. A record is an object, or an array of its fields in order whose last ones
may be missing. A field that an object gives twice is refused, and so are values beyond the last
field of an array; other members are ignored.
-/

namespace Storyboard.Json

inductive Record where
  | named (members : List (Option String × Json))
  | listed (values : List Json)

namespace Record

/-- The record that a value is, if it has no more than `width` fields. -/
def ofJson? (width : Nat) : Json → Option Record
  | .object members => some (.named members)
  | .array values => if values.length ≤ width then some (.listed values) else none
  | _ => none

/-- The value of the field at `index` that goes by one of `names`; an absent one is `none` inside,
one that is given twice is refused. -/
def field? (r : Record) (index : Nat) (names : List String) : Option (Option Json) :=
  match r with
  | .listed values => some values[index]?
  | .named members =>
    match members.filter (fun m => m.1.any names.contains) with
    | [] => some none
    | [(_, v)] => some (some v)
    | _ => none

/-- A field that must be there. -/
def required {α : Type} (read : Json → Option α) (v : Option Json) : Option α :=
  v.bind read

/-- A field that may be absent or null. -/
def nullable {α : Type} (read : Json → Option α) : Option Json → Option (Option α)
  | none => some none
  | some .null => some none
  | some v => (read v).map some

/-- A field that may be absent but not null. -/
def defaulted {α : Type} (value : α) (read : Json → Option α) : Option Json → Option α
  | none => some value
  | some v => read v

end Record

/-! ### Values of fields -/

def toBool? : Json → Option Bool
  | .bool b => some b
  | _ => none

/-- A count of thirty-two bits, written without fraction or exponent. -/
def toCount? : Json → Option UInt32
  | .number n => n.natural?.bind fun k => if k < UInt32.size then some (UInt32.ofNat k) else none
  | _ => none

def isUnit : Json → Bool
  | .null => true
  | .object [] => true
  | _ => false

/-- A named alternative: its name, or an object whose only member has it as key and no content. -/
def toAlternative? {α : Type} (ofName? : String → Option α) : Json → Option α
  | .text (some name) => ofName? name
  | .object [(some name, v)] => if isUnit v then ofName? name else none
  | _ => none

/-- A list whose elements all read. -/
def toListOf? {α : Type} (read : Json → Option α) (v : Json) : Option (List α) :=
  v.toList?.bind (·.mapM read)

end Storyboard.Json
