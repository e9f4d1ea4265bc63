import Storyboard.Json.Token

/-!
Reading of JSON texts. A machine takes the tokens one by one; its stack holds the containers that
are open, each with what it has so far in reverse order. Nesting is not limited here.
-/

namespace Storyboard.Json

/-- A container that is open. -/
inductive Frame where
  | array (done : List Json)
  | object (done : List (Option String × Json))
  /-- An object whose member with `key` has no value yet. -/
  | member (done : List (Option String × Json)) (key : Option String)

/-- What may come next. -/
inductive Expected where
  | value
  /-- An element, or the end of the array that was just opened. -/
  | elementOrClose
  /-- A key, or the end of the object that was just opened. -/
  | keyOrClose
  | key
  | colon (key : Option String)
  /-- A comma, or the end of the innermost container. -/
  | separator
  /-- Nothing: the value is complete. -/
  | nothing (value : Json)

structure Machine where
  frames : List Frame
  expected : Expected

namespace Machine

def start : Machine :=
  ⟨[], .value⟩

/-- Puts a complete value where one was expected. -/
def put (v : Json) : List Frame → Option Machine
  | [] => some ⟨[], .nothing v⟩
  | .array done :: frames => some ⟨.array (v :: done) :: frames, .separator⟩
  | .member done key :: frames => some ⟨.object ((key, v) :: done) :: frames, .separator⟩
  | .object _ :: _ => none

/-- Takes a token that begins a value. -/
def begin? (frames : List Frame) : Token → Option Machine
  | .null => put .null frames
  | .bool b => put (.bool b) frames
  | .number n => put (.number n) frames
  | .text s => put (.text s) frames
  | .openArray => some ⟨.array [] :: frames, .elementOrClose⟩
  | .openObject => some ⟨.object [] :: frames, .keyOrClose⟩
  | _ => none

def step? (m : Machine) (t : Token) : Option Machine :=
  match m.expected, t, m.frames with
  | .value, t, frames => begin? frames t
  | .elementOrClose, .closeArray, .array done :: frames => put (.array done.reverse) frames
  | .elementOrClose, t, frames => begin? frames t
  | .keyOrClose, .closeObject, .object done :: frames => put (.object done.reverse) frames
  | .keyOrClose, .text key, frames => some ⟨frames, .colon key⟩
  | .key, .text key, frames => some ⟨frames, .colon key⟩
  | .colon key, .colon, .object done :: frames => some ⟨.member done key :: frames, .value⟩
  | .separator, .comma, .array done :: frames => some ⟨.array done :: frames, .value⟩
  | .separator, .comma, .object done :: frames => some ⟨.object done :: frames, .key⟩
  | .separator, .closeArray, .array done :: frames => put (.array done.reverse) frames
  | .separator, .closeObject, .object done :: frames => put (.object done.reverse) frames
  | _, _, _ => none

def result? (m : Machine) : Option Json :=
  match m.expected with
  | .nothing v => some v
  | _ => none

def run? (m : Machine) : List Token → Option Machine
  | [] => some m
  | t :: rest => (m.step? t).bind (run? · rest)

end Machine

/-- The value of a text that is one JSON value between blanks. -/
def parse? (s : List Char) : Option Json := do
  let tokens ← Token.all? s
  let machine ← Machine.start.run? tokens
  machine.result?

/-- The value of a text, if it is sound within the limit on nesting. -/
def read? (s : List Char) : Option Json :=
  (parse? s).filter (sound nestingLimit)

end Storyboard.Json
