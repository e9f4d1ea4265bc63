import Storyboard.Shell.Arithmetic
import Storyboard.Shell.Quantity

/-!
What the shell prints for `echo` and `printf`: escapes, and formats with the conversions of their
arguments.
-/

namespace Storyboard.Shell.Format

/-! ### Escapes -/

/-- The character for which a letter behind a backslash stands. -/
def letters : List (Char × Char) :=
  [('\\', '\\'), ('a', '\x07'), ('b', '\x08'), ('e', '\x1b'), ('f', '\x0c'), ('n', '\n'),
   ('r', '\r'), ('t', '\t'), ('v', '\x0b')]

def octalValue? (c : Char) : Option Nat :=
  if '0' ≤ c && c ≤ '7' then some (c.toNat - '0'.toNat) else none

/-- The value of some octal digits behind a value, at most as many as allowed, and what is left. -/
def octal : (allowed : Nat) → Nat → Octets → Nat × Octets
  | 0, n, s => (n, s)
  | _, n, [] => (n, [])
  | allowed + 1, n, c :: rest =>
    match octalValue? c with
    | some d => octal allowed (n * 8 + d) rest
    | none => (n, c :: rest)

/-- A byte of a number. -/
def byte (n : Nat) : Char :=
  Char.ofNat (n % 256)

/-- The character that a backslash and what is behind it stand for, and what is left; a backslash
before anything else stands for itself. -/
def escape (s : Octets) : Char × Octets :=
  match s with
  | [] => ('\\', [])
  | c :: rest =>
    match letters.lookup c with
    | some e => (e, rest)
    | none =>
      match octal 3 0 s with
      | (n, more) => if more.length = s.length then ('\\', s) else (byte n, more)

/-- The text with its escapes replaced, in which octal numbers open with a zero; and whether a
backslash before `c` has ended it. The first argument bounds its length. -/
def unescape : Nat → Octets → Octets × Bool
  | 0, _ => ([], false)
  | _, [] => ([], false)
  | depth + 1, '\\' :: rest =>
    match rest with
    | 'c' :: _ => ([], true)
    | '0' :: rest =>
      let (n, rest) := octal 3 0 rest
      let (text, ended) := unescape depth rest
      (byte n :: text, ended)
    | rest =>
      let (c, rest) := escape rest
      let (text, ended) := unescape depth rest
      (c :: text, ended)
  | depth + 1, c :: rest =>
    let (text, ended) := unescape depth rest
    (c :: text, ended)

/-- What `echo` prints. -/
def echoed (arguments : List Octets) : Octets :=
  let (isBare, arguments) :=
    match arguments with
    | ['-', 'n'] :: rest => (true, rest)
    | rest => (false, rest)
  let joined := [' '].intercalate arguments
  let (text, ended) := unescape joined.length joined
  if isBare || ended then text else text ++ ['\n']

example : echoed ["a\\0101".toList, "\\tb\\c!".toList] = "aA \tb".toList := by decide +kernel

/-! ### Conversions -/

/-- How a converted argument is laid out. -/
structure Layout where
  flags : List Char
  width : Nat
  precision : Option Nat

namespace Layout

def has (l : Layout) (flag : Char) : Bool :=
  l.flags.contains flag

/-- Brings a text to its width. -/
def pad (l : Layout) (text : Octets) : Octets :=
  let gap := List.replicate (l.width - text.length) ' '
  if l.has '-' then text ++ gap else gap ++ text

/-- A text cut to its precision and brought to its width. -/
def text (l : Layout) (s : Octets) : Octets :=
  l.pad (match l.precision with
    | some n => s.take n
    | none => s)

/-- Digits with what stands in front of them, brought to the width and the precision. -/
def number (l : Layout) (lead : Octets) (digits : Octets) : Octets :=
  let digits :=
    match l.precision with
    | some n => List.replicate (n - digits.length) '0' ++ digits
    | none =>
      if l.has '0' && !l.has '-' then
        List.replicate (l.width - lead.length - digits.length) '0' ++ digits
      else digits
  l.pad (lead ++ digits)

end Layout

def digitsOf (base n : Nat) : Octets :=
  Nat.toDigits base n

/-- No digits are printed for zero where the precision is zero. -/
def digitsFor (l : Layout) (base n : Nat) : Octets :=
  if n = 0 && l.precision = some 0 then [] else digitsOf base n

/-- The sign in front of a number. -/
def signFor (l : Layout) (isNegative : Bool) : Octets :=
  if isNegative then ['-'] else if l.has '+' then ['+'] else if l.has ' ' then [' '] else []

/-- A whole number with its sign. -/
def signed (l : Layout) (n : Int) : Octets :=
  l.number (signFor l (n < 0)) (digitsFor l 10 n.natAbs)

/-- A real number with its sign, in the case of the conversion. -/
def real (l : Layout) (conversion : Char) (q : Quantity) : Octets :=
  let sign := signFor l q.isNegative
  let text :=
    match q.size with
    | .nan => l.pad (sign ++ "nan".toList)
    | .infinite _ => l.pad (sign ++ "inf".toList)
    | .finite _ units _ =>
      let kind := conversion.toLower
      Layout.number { l with precision := none } (if kind = 'a' then sign ++ ['0', 'x'] else sign)
        (Quantity.digits kind l.precision (l.has '#') units)
  if conversion.isUpper then text.map Char.toUpper else text

/-- The greatest number without a sign. -/
def greatestUnsigned : Nat := 18446744073709551615

/-- A number of 64 bits without a sign. -/
def unsigned (l : Layout) (conversion : Char) (n : Nat) : Octets :=
  match conversion with
  | 'o' =>
    let digits := digitsFor l 8 n
    l.number [] (if l.has '#' && digits.head? != some '0' then '0' :: digits else digits)
  | 'x' => l.number (if l.has '#' && n != 0 then ['0', 'x'] else []) (digitsFor l 16 n)
  | 'X' =>
    l.number (if l.has '#' && n != 0 then ['0', 'X'] else [])
      ((digitsFor l 16 n).map Char.toUpper)
  | _ => l.number [] (digitsFor l 10 n)

/-! ### Printing -/

/-- What a format is printed with: the arguments, what was complained about, and how many arguments
were used. -/
structure Printing where
  arguments : List Octets
  complaints : List Octets
  used : Nat
  text : Octets

inductive Outcome where
  | goesOn
  /-- A backslash before `c` ends the printing. -/
  | ended
  | broken (reason : Octets)
deriving DecidableEq

namespace Printing

def print (p : Printing) (text : Octets) : Printing :=
  { p with text := p.text ++ text }

/-- The next argument, and the printing behind it. -/
def next (p : Printing) : Option Octets × Printing :=
  match p.arguments with
  | [] => (none, p)
  | a :: rest => (some a, { p with arguments := rest, used := p.used + 1 })

def complain (p : Printing) (argument : Octets) (reason : String) : Printing :=
  { p with complaints := p.complaints ++ [argument ++ ": ".toList ++ reason.toList] }

/-- The number that an argument states, complained about where it does not. -/
def number (p : Printing) (low high : Int) : Int × Printing :=
  match p.next with
  | (none, p) => (0, p)
  | (some ('"' :: rest), p) | (some ('\'' :: rest), p) =>
    ((rest.head?.map (·.toNat)).getD 0, p)
  | (some [], p) => (0, p)
  | (some a, p) =>
    match Arithmetic.scanNumber? a with
    | none => (0, p.complain a "expected numeric value")
    | some (n, rest) =>
      let clamped := max low (min high n)
      if !rest.isEmpty then (clamped, p.complain a "not completely converted")
      else if clamped = n then (n, p)
      else (clamped, p.complain a "Numerical result out of range")

/-- The real number that an argument states, complained about where it does not. -/
def quantity (p : Printing) : Quantity × Printing :=
  match p.next with
  | (none, p) | (some [], p) => (.ofNat 0, p)
  | (some ('"' :: rest), p) | (some ('\'' :: rest), p) =>
    (.ofNat ((rest.head?.map (·.toNat)).getD 0), p)
  | (some a, p) =>
    match Quantity.read? a with
    | none => (.ofNat 0, p.complain a "expected numeric value")
    | some (q, isOutOfRange, rest) =>
      if !rest.isEmpty then (q, p.complain a "not completely converted")
      else if isOutOfRange then (q, p.complain a "Numerical result out of range")
      else (q, p)

/-- A number with a sign. -/
def signedNumber (p : Printing) : Int × Printing :=
  p.number Arithmetic.least Arithmetic.greatest

/-- A number without a sign; a negative one is taken around the end. -/
def unsignedNumber (p : Printing) : Nat × Printing :=
  let (n, p) := p.number (-(greatestUnsigned : Int)) greatestUnsigned
  ((n % ((greatestUnsigned : Int) + 1)).toNat, p)

end Printing

/-- A number in a format, or the next argument where a star stands. -/
def measure (s : Octets) (p : Printing) : Option Int × Octets × Printing :=
  match s with
  | '*' :: rest =>
    let (n, p) := p.signedNumber
    (some n, rest, p)
  | s =>
    let (digits, rest) := s.span Text.isAsciiDigit
    (if digits.isEmpty then none else some (Arithmetic.valueIn 10 (digits.map fun c =>
      c.toNat - '0'.toNat)), rest, p)

/-- The layout in front of a conversion. -/
def layout (s : Octets) (p : Printing) : Layout × Octets × Printing :=
  let (flags, s) := s.span ['#', '-', '+', ' ', '0'].contains
  let (width, s, p) := measure s p
  let flags := if width.any (· < 0) then '-' :: flags else flags
  match s with
  | '.' :: rest =>
    let (precision, s, p) := measure rest p
    (⟨flags, (width.getD 0).natAbs,
      if precision.any (· < 0) then none else some (precision.getD 0).toNat⟩, s, p)
  | s => (⟨flags, (width.getD 0).natAbs, none⟩, s, p)

/-- Prints an argument as a conversion says. -/
def convert (l : Layout) (conversion : Char) (directive : Octets) (p : Printing) :
    Outcome × Printing :=
  match conversion with
  | 's' =>
    let (a, p) := p.next
    (.goesOn, p.print (l.text (a.getD [])))
  | 'b' =>
    let (a, p) := p.next
    let (text, ended) := unescape (a.getD []).length (a.getD [])
    (if ended then .ended else .goesOn, p.print (l.text text))
  | 'c' =>
    let (a, p) := p.next
    (.goesOn, p.print (l.pad [(a.getD []).headD '\x00']))
  | 'd' | 'i' =>
    let (n, p) := p.signedNumber
    (.goesOn, p.print (signed l n))
  | 'o' | 'u' | 'x' | 'X' =>
    let (n, p) := p.unsignedNumber
    (.goesOn, p.print (unsigned l conversion n))
  | 'a' | 'A' | 'e' | 'E' | 'f' | 'F' | 'g' | 'G' =>
    let (q, p) := p.quantity
    (.goesOn, p.print (real l conversion q))
  | _ => (.broken (directive ++ ": invalid directive".toList), p)

/-- Prints by a format once; the first argument bounds its length. -/
def once : Nat → Octets → Printing → Outcome × Printing
  | 0, _, p => (.goesOn, p)
  | _, [], p => (.goesOn, p)
  | depth + 1, '\\' :: rest, p =>
    let (c, rest) := escape rest
    once depth rest (p.print [c])
  | depth + 1, '%' :: '%' :: rest, p => once depth rest (p.print ['%'])
  | depth + 1, '%' :: rest, p =>
    let (l, conversion, p) := layout rest p
    match conversion with
    | [] => (.broken "missing format character".toList, p)
    | c :: more =>
      let directive := '%' :: rest.take (rest.length - more.length)
      match convert l c directive p with
      | (.goesOn, p) => once depth more p
      | other => other
  | depth + 1, c :: rest, p => once depth rest (p.print [c])

/-- Uses a format again while it uses arguments up; the first argument bounds the uses. -/
def again : Nat → Octets → Printing → Outcome × Printing
  | 0, _, p => (.goesOn, p)
  | uses + 1, format, p =>
    match once format.length format { p with used := 0 } with
    | (.goesOn, q) =>
      if q.used = 0 || q.arguments.isEmpty then (.goesOn, q) else again uses format q
    | other => other

/-- What a format prints with some arguments. -/
def printed (format : Octets) (arguments : List Octets) : Outcome × Printing :=
  again (arguments.length + 1) format ⟨arguments, [], 0, []⟩

example :
    (printed "%5s|%-4s|%03d|%x\\n".toList (["ab", "c", "7", "255"].map (·.toList))).2.text
      = "   ab|c   |007|ff\n".toList := by decide +kernel

end Storyboard.Shell.Format
