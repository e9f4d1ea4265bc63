import Storyboard.Program.Basic
import Storyboard.Shell.Arithmetic

/-!
Conditions: the words of `test` and their truth. What a word means depends on how many there are and
on its neighbours, as an operand may look like a sign.
-/

namespace Storyboard.Shell.Condition

inductive Fault where
  /-- Something is left behind a word. -/
  | unexpected (word : Octets)
  | noArgument (sign : Octets)
  | noParenthesis
  | badNumber (text : Octets)
deriving DecidableEq

namespace Fault

def message : Fault → Octets
  | .unexpected word => told word "unexpected operator"
  | .noArgument sign => told sign "argument expected"
  | .noParenthesis => "closing paren expected".toList
  | .badNumber text => "Illegal number: ".toList ++ text
where
  told (word : Octets) (text : String) : Octets :=
    if word.isEmpty then text.toList else word ++ ": ".toList ++ text.toList

end Fault

/-! ### Signs -/

/-- The signs in front of one operand. -/
def unarySigns : List String :=
  ["-r", "-w", "-x", "-e", "-f", "-d", "-c", "-b", "-p", "-u", "-g", "-k", "-s", "-t", "-z", "-n",
   "-h", "-O", "-G", "-L", "-S"]

/-- The signs between two operands. -/
def binarySigns : List String :=
  ["=", "!=", "<", ">", "-eq", "-ne", "-ge", "-gt", "-le", "-lt", "-nt", "-ot", "-ef"]

inductive Kind where
  | unary
  | binary
  | negation
  | conjunction
  | disjunction
  | opening
  | closing
deriving DecidableEq

def kindOf? (word : Octets) : Option Kind :=
  if unarySigns.any (·.toList = word) then some .unary
  else if binarySigns.any (·.toList = word) then some .binary
  else
    match word with
    | ['!'] => some .negation
    | ['-', 'a'] => some .conjunction
    | ['-', 'o'] => some .disjunction
    | ['('] => some .opening
    | [')'] => some .closing
    | _ => none

/-- Whether a sign that wants an operand is one itself, by what follows it. -/
def isOperand (following : List Octets) : Bool :=
  match following with
  | [] => true
  | [_] => false
  | word :: _ => kindOf? word = some .binary

/-- What the first of some words means; nothing if it is an operand. -/
def signAt? (words : List Octets) : Option Kind :=
  match words with
  | [] => none
  | word :: following =>
    match kindOf? word with
    | some .unary => if isOperand following then none else some .unary
    | some .opening => if following.isEmpty then none else some .opening
    | k => k

/-! ### Truth -/

/-- The files that a condition speaks of. -/
structure Scene where
  process : Process
  store : Store

namespace Scene

def node? (s : Scene) (name : Octets) : Option Node :=
  (s.store.node (s.process.path name)).toOption

/-- Whether a test of a file holds. -/
def file (s : Scene) (sign : Octets) (name : Octets) : Bool :=
  match s.node? name with
  | none => false
  | some node =>
    match sign with
    | ['-', 'e'] | ['-', 'r'] | ['-', 'w'] | ['-', 'O'] | ['-', 'G'] => true
    | ['-', 'd'] => node = .directory
    | ['-', 'c'] => node = .device .void || node = .device .full
    | ['-', 'p'] => node = .device .stream
    | ['-', 'f'] => (match node with | .file .. => true | _ => false)
    | ['-', 's'] =>
      (match node with
        | .file content _ => content.size > 0
        | .directory => true
        | .device _ => false)
    | ['-', 'x'] =>
      (match node with
        | .file _ isProgram => isProgram
        | .directory => true
        | .device _ => false)
    | _ => false

/-- Whether two names lead to the same place. -/
def isSame (s : Scene) (a b : Octets) : Bool :=
  match s.store.locate (s.process.path a), s.store.locate (s.process.path b) with
  | .ok l, .ok m => l == m && (s.store.find? l).isSome
  | _, _ => false

end Scene

def numberOf (text : Octets) : Except Fault Int :=
  match Arithmetic.sign (text.dropWhile Arithmetic.isSpace) with
  | (isNegative, digits) =>
    let (found, rest) := digits.span Text.isAsciiDigit
    if found.isEmpty || !rest.all Arithmetic.isSpace then .error (.badNumber text)
    else
      let n : Int := Arithmetic.valueIn 10 (found.map fun c => c.toNat - '0'.toNat)
      let n := if isNegative then -n else n
      if Arithmetic.clamp n = n then .ok n else .error (.badNumber text)

/-- The order of texts by their bytes. -/
def isBelow : Octets → Octets → Bool
  | _, [] => false
  | [], _ :: _ => true
  | a :: s, b :: t => a < b || (a = b && isBelow s t)

def compared (test : Int → Int → Bool) (a b : Octets) : Except Fault Bool := do
  let x ← numberOf a
  let y ← numberOf b
  return test x y

/-- Whether a sign holds between two operands. -/
def between (s : Scene) (a sign b : Octets) : Except Fault Bool :=
  match String.ofList sign with
  | "=" => .ok (a == b)
  | "!=" => .ok (a != b)
  | "<" => .ok (isBelow a b)
  | ">" => .ok (isBelow b a)
  | "-eq" => compared (· == ·) a b
  | "-ne" => compared (· != ·) a b
  | "-ge" => compared (· ≥ ·) a b
  | "-gt" => compared (· > ·) a b
  | "-le" => compared (· ≤ ·) a b
  | "-lt" => compared (· < ·) a b
  | "-ef" => .ok (s.isSame a b)
  | _ => .ok false

/-- Whether a sign holds of an operand. -/
def of (s : Scene) (sign a : Octets) : Except Fault Bool :=
  match sign with
  | ['-', 'z'] => .ok a.isEmpty
  | ['-', 'n'] => .ok (!a.isEmpty)
  | ['-', 't'] => (numberOf a).map fun _ => false
  | sign => .ok (s.file sign a)

/-- A truth value with the words behind what it was read from. -/
abbrev Read := Except Fault (Bool × List Octets)

mutual

def anyOf (s : Scene) : Nat → List Octets → Read
  | 0, words => .ok (false, words)
  | depth + 1, words => do
    let (a, rest) ← allOf s depth words
    if signAt? rest = some .disjunction then
      let (b, rest) ← anyOf s depth rest.tail
      return (a || b, rest)
    else return (a, rest)

def allOf (s : Scene) : Nat → List Octets → Read
  | 0, words => .ok (false, words)
  | depth + 1, words => do
    let (a, rest) ← negated s depth words
    if signAt? rest = some .conjunction then
      let (b, rest) ← allOf s depth rest.tail
      return (a && b, rest)
    else return (a, rest)

def negated (s : Scene) : Nat → List Octets → Read
  | 0, words => .ok (false, words)
  | depth + 1, words =>
    if signAt? words = some .negation then do
      let (a, rest) ← negated s depth words.tail
      return (!a, rest)
    else primary s depth words

def primary (s : Scene) : Nat → List Octets → Read
  | 0, words => .ok (false, words)
  | _, [] => .ok (false, [])
  | depth + 1, word :: rest =>
    match signAt? (word :: rest) with
    | some .opening =>
      if signAt? rest = some .closing then .ok (false, rest.tail)
      else do
        let (a, rest) ← anyOf s depth rest
        match rest with
        | [')'] :: rest => return (a, rest)
        | _ => .error .noParenthesis
    | some .unary =>
      match rest with
      | [] => .error (.noArgument word)
      | a :: rest => do return (← of s word a, rest)
    | _ =>
      if signAt? rest = some .binary then
        match rest with
        | sign :: b :: rest => do return (← between s word sign b, rest)
        | _ => .error (.noArgument (rest.headD []))
      else .ok (!word.isEmpty, rest)

end

/-- The words as an expression of its own, behind which nothing may be left; a complaint names the
last word that was used. -/
def expression (s : Scene) (words : List Octets) : Except Fault Bool := do
  let (a, rest) ← anyOf s (8 * (words.length + 1)) words
  if rest.isEmpty then return a
  else .error (.unexpected (words.getD (words.length - rest.length - 1) []))

/-- Whether the words of a condition hold, or do not. In front of two or three other words, a sign
for negation asks once and for all for the latter. The first number bounds those signs. -/
def holdsFrom (s : Scene) : Nat → (isNegated : Bool) → List Octets → Except Fault Bool
  | 0, isNegated, _ => .ok isNegated
  | _, isNegated, [] => .ok isNegated
  | depth + 1, isNegated, words =>
    let whole := (expression s words).map (· != isNegated)
    let shortened : Except Fault Bool :=
      match words with
      | ['('] :: rest =>
        if rest.getLast? = some [')'] then (expression s rest.dropLast).map (· != isNegated)
        else whole
      | ['!'] :: rest => holdsFrom s depth true rest
      | _ => whole
    match words with
    | [a, sign, b] =>
      if kindOf? sign = some .binary then (between s a sign b).map (· != isNegated) else shortened
    | [_, _, _, _] => shortened
    | _ => whole

/-- Whether the words of a condition hold. -/
def holds (s : Scene) (words : List Octets) : Except Fault Bool :=
  holdsFrom s (words.length + 1) false words

end Storyboard.Shell.Condition
