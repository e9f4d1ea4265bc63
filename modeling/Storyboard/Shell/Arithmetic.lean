import Storyboard.Text.Case
import Storyboard.Text.Hex
import Storyboard.Text.Octet

/-!
The arithmetic of the shell: expressions over whole numbers of 64 bits, which may read and set
variables. A part that does not count is read, but not evaluated.
-/

namespace Storyboard.Shell.Arithmetic

/-- Why an expression has no value. -/
inductive Fault where
  | noOperand
  | noParenthesis
  | noColon
  | notEnded
  | division
  | badNumber (text : Octets)
deriving DecidableEq

namespace Fault

/-- What is wrong with an expression; a bad number is complained about by itself. -/
def message (expression : Octets) : Fault → Octets
  | .badNumber text => "Illegal number: ".toList ++ text
  | .noOperand => told "expecting primary"
  | .noParenthesis => told "expecting ')'"
  | .noColon => told "expecting ':'"
  | .notEnded => told "expecting EOF"
  | .division => told "division by zero"
where
  told (text : String) : Octets :=
    "arithmetic expression: ".toList ++ text.toList ++ ": \"".toList ++ expression ++ ['"']

end Fault

/-! ### Numbers -/

/-- The digits of a number in a base, and what is behind them. -/
def digitsIn (base : Nat) : Octets → List Nat × Octets
  | [] => ([], [])
  | c :: rest =>
    match (Text.hexValue? c).filter (· < base) with
    | some d =>
      let (digits, rest) := digitsIn base rest
      (d :: digits, rest)
    | none => ([], c :: rest)

def valueIn (base : Nat) (digits : List Nat) : Nat :=
  digits.foldl (fun n d => n * base + d) 0

/-- The number in front of a text: hexadecimal behind `0x`, octal behind a zero, else decimal. -/
def natural (s : Octets) : Nat × Octets :=
  match s with
  | '0' :: x :: c :: rest =>
    if (x = 'x' || x = 'X') && (Text.hexValue? c).isSome then
      let (digits, rest) := digitsIn 16 (c :: rest)
      (valueIn 16 digits, rest)
    else octal s
  | '0' :: _ => octal s
  | s =>
    let (digits, rest) := digitsIn 10 s
    (valueIn 10 digits, rest)
where
  octal (s : Octets) : Nat × Octets :=
    let (digits, rest) := digitsIn 8 s
    (valueIn 8 digits, rest)

def greatest : Int := 9223372036854775807

def least : Int := -9223372036854775808

/-- The nearest number of 64 bits. -/
def clamp (n : Int) : Int :=
  max least (min greatest n)

def isSpace (c : Char) : Bool :=
  c = ' ' || ('\t' ≤ c && c ≤ '\r')

/-- The sign in front of a text. -/
def sign : Octets → Bool × Octets
  | '-' :: rest => (true, rest)
  | '+' :: rest => (false, rest)
  | rest => (false, rest)

/-- A number as far as a text goes: its value, unclamped, and the text behind it; nothing if there
is no digit. -/
def scanNumber? (s : Octets) : Option (Int × Octets) :=
  let (isNegative, digits) := sign (s.dropWhile isSpace)
  if digits.head?.any Text.isAsciiDigit then
    let (n, rest) := natural digits
    some (if isNegative then -(n : Int) else n, rest)
  else none

/-- The value of a variable as a number; no text counts as zero. -/
def valueOf (text : Octets) : Except Fault Int :=
  match scanNumber? text with
  | some (n, rest) =>
    if rest.all isSpace && clamp n = n then .ok n else .error (.badNumber text)
  | none => if text.all isSpace then .ok 0 else .error (.badNumber text)

/-! ### Tokens -/

inductive Token where
  | number (n : Int)
  | name (text : Octets)
  | sign (text : String)
  | unknown
deriving DecidableEq

/-- The signs, the longer ones before those that they begin with. -/
def signs : List String :=
  ["<<=", ">>=", "<<", ">>", "<=", ">=", "==", "!=", "&&", "||", "*=", "/=", "%=", "+=", "-=", "&=",
   "^=", "|=", "=", "<", ">", "!", "~", "*", "/", "%", "+", "-", "&", "^", "|", "(", ")", "?", ":"]

/-- Cuts an expression into tokens; the first argument bounds its length. -/
def tokens : Nat → Octets → List Token
  | 0, _ => []
  | _, [] => []
  | depth + 1, c :: rest =>
    if c = ' ' || c = '\t' || c = '\n' then tokens depth rest
    else if Text.isAsciiDigit c then
      let (n, rest) := natural (c :: rest)
      .number (clamp n) :: tokens depth rest
    else if Text.isWordChar c then
      let (name, rest) := (c :: rest).span Text.isWordChar
      .name name :: tokens depth rest
    else
      match signs.find? fun s => s.toList.isPrefixOf (c :: rest) with
      | some s => .sign s :: tokens depth ((c :: rest).drop s.length)
      | none => [.unknown]

/-! ### Evaluation -/

/-- What is left of an expression, and the variables that it has set. -/
structure State where
  rest : List Token
  set : List (Octets × Int)

abbrev Evaluator := EStateM Fault State

/-- How tightly a sign binds two operands, from the loosest one on. -/
def levels : List (List String) :=
  [["|"], ["^"], ["&"], ["==", "!="], ["<", "<=", ">", ">="], ["<<", ">>"], ["+", "-"],
   ["*", "/", "%"]]

def level? (s : String) : Option Nat :=
  levels.findIdx? (·.contains s)

def truth (b : Bool) : Int :=
  if b then 1 else 0

/-- A number brought back into 64 bits. -/
def wrap (n : Int) : Int :=
  (Int64.ofInt n).toInt

def words (f : Int64 → Int64 → Int64) (a b : Int) : Int :=
  (f (Int64.ofInt a) (Int64.ofInt b)).toInt

/-- The value of a sign between two numbers. -/
def apply (s : String) (a b : Int) : Except Fault Int :=
  match s with
  | "*" => .ok (wrap (a * b))
  | "/" => if b = 0 then .error .division else .ok (wrap (a.tdiv b))
  | "%" => if b = 0 then .error .division else .ok (wrap (a.tmod b))
  | "+" => .ok (wrap (a + b))
  | "-" => .ok (wrap (a - b))
  | "<<" => .ok (words (· <<< ·) a b)
  | ">>" => .ok (words (· >>> ·) a b)
  | "<" => .ok (truth (a < b))
  | "<=" => .ok (truth (a ≤ b))
  | ">" => .ok (truth (a > b))
  | ">=" => .ok (truth (a ≥ b))
  | "==" => .ok (truth (a = b))
  | "!=" => .ok (truth (a ≠ b))
  | "&" => .ok (words (· &&& ·) a b)
  | "^" => .ok (words (· ^^^ ·) a b)
  | _ => .ok (words (· ||| ·) a b)

/-- The sign in front of the equals sign of an assignment, if it is one. -/
def assignment? (s : String) : Option String :=
  if ["=", "*=", "/=", "%=", "+=", "-=", "<<=", ">>=", "&=", "^=", "|="].contains s then
    some (String.ofList (s.toList.dropLast))
  else none

def lift (r : Except Fault Int) : Evaluator Int :=
  match r with
  | .ok n => return n
  | .error e => throw e

def peek : Evaluator (Option Token) :=
  return (← get).rest.head?

def skip : Evaluator Unit :=
  modify fun s => { s with rest := s.rest.tail }

/-- Goes past a sign if it comes next. -/
def skips (text : String) : Evaluator Bool := do
  if (← peek) = some (.sign text) then
    skip
    return true
  else return false

/-- The value of a variable, as the expression or else the shell has set it. -/
def read (lookup : Octets → Octets) (name : Octets) : Evaluator Int := do
  match (← get).set.lookup name with
  | some n => return n
  | none => lift (valueOf (lookup name))

mutual

/-- An assignment, or a choice. -/
def assigned (lookup : Octets → Octets) : Nat → (counts : Bool) → Evaluator Int
  | 0, _ => throw .noOperand
  | depth + 1, counts => do
    match (← get).rest with
    | .name name :: .sign s :: rest =>
      match assignment? s with
      | some operator =>
        modify fun st => { st with rest }
        let n ← assigned lookup depth counts
        if counts then
          let n ← if operator.isEmpty then pure n
            else lift (apply operator (← read lookup name) n)
          modify fun st => { st with set := (name, n) :: st.set }
          return n
        else return n
      | none => chosen lookup depth counts
    | _ => chosen lookup depth counts

/-- A choice between two values by a third one. -/
def chosen (lookup : Octets → Octets) : Nat → (counts : Bool) → Evaluator Int
  | 0, _ => throw .noOperand
  | depth + 1, counts => do
    let a ← anyOf lookup depth counts
    if ← skips "?" then
      let b ← assigned lookup depth (counts && a ≠ 0)
      if !(← skips ":") then throw .noColon
      let c ← chosen lookup depth (counts && a = 0)
      return if a ≠ 0 then b else c
    else return a

def anyOf (lookup : Octets → Octets) : Nat → (counts : Bool) → Evaluator Int
  | 0, _ => throw .noOperand
  | depth + 1, counts => do
    let a ← allOf lookup depth counts
    if ← skips "||" then
      let b ← anyOf lookup depth (counts && a = 0)
      return truth (a ≠ 0 || b ≠ 0)
    else return a

def allOf (lookup : Octets → Octets) : Nat → (counts : Bool) → Evaluator Int
  | 0, _ => throw .noOperand
  | depth + 1, counts => do
    let a ← binary lookup depth counts 0
    if ← skips "&&" then
      let b ← allOf lookup depth (counts && a ≠ 0)
      return truth (a ≠ 0 && b ≠ 0)
    else return a

/-- Operands joined by signs that bind at least as tightly as a level. -/
def binary (lookup : Octets → Octets) : Nat → (counts : Bool) → (level : Nat) → Evaluator Int
  | 0, _, _ => throw .noOperand
  | depth + 1, counts, level => do
    let a ← unary lookup depth counts
    further lookup depth counts level a

def further (lookup : Octets → Octets) :
    Nat → (counts : Bool) → (level : Nat) → Int → Evaluator Int
  | 0, _, _, _ => throw .noOperand
  | depth + 1, counts, level, a => do
    match ← peek with
    | some (.sign s) =>
      match level? s with
      | some l =>
        if level ≤ l then
          skip
          let b ← binary lookup depth counts (l + 1)
          let a ← if counts then lift (apply s a b) else pure b
          further lookup depth counts level a
        else return a
      | none => return a
    | _ => return a

/-- An operand with the signs in front of it. -/
def unary (lookup : Octets → Octets) : Nat → (counts : Bool) → Evaluator Int
  | 0, _ => throw .noOperand
  | depth + 1, counts => do
    match ← peek with
    | some (.number n) => skip; return n
    | some (.name name) =>
      skip
      if counts then read lookup name else return 0
    | some (.sign "(") =>
      skip
      let n ← assigned lookup depth counts
      if ← skips ")" then return n else throw .noParenthesis
    | some (.sign "+") => skip; unary lookup depth counts
    | some (.sign "-") => skip; return wrap (-(← unary lookup depth counts))
    | some (.sign "!") => skip; return truth ((← unary lookup depth counts) = 0)
    | some (.sign "~") => skip; return wrap (-(← unary lookup depth counts) - 1)
    | _ => throw .noOperand

end

/-- The value of an expression, and the variables that it sets, the last one first. -/
def evaluate (lookup : Octets → Octets) (expression : Octets) :
    Except Fault Int × List (Octets × Int) :=
  let found := tokens expression.length expression
  match (assigned lookup (16 * (found.length + 1)) true) ⟨found, []⟩ with
  | .ok n s => (if s.rest.isEmpty then .ok n else .error .notEnded, s.set)
  | .error e s => (.error e, s.set)

example : (evaluate (fun _ => "3".toList) "2 + x * (1 << 2) > 13 ? 7 : 0".toList).1.toOption
    = some 7 := by decide +kernel

end Storyboard.Shell.Arithmetic
