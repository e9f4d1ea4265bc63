import Storyboard.CommandLine.Log
import Storyboard.Number.Digit
import Storyboard.Regex.Reader
import Storyboard.Text.Blank
import Storyboard.Text.Case
import Storyboard.Text.Category

/-!
Rules of log filters. A rule says up to which rank notes are written: those of a part of the
program, those with some field, and those made during some work.
-/

namespace Storyboard.CommandLine

/-- A field that a rule asks for, with any value or with values that this text describes. -/
structure FieldRule where
  name : String
  value : Option String
deriving DecidableEq

/-- What a rule asks for, and up to which rank the notes of that kind are written. -/
structure LogRule where
  /-- How the names of the parts begin. -/
  part : Option String
  /-- The work during which a note is made. -/
  work : Option String
  field : Option FieldRule
  rank : Nat
deriving DecidableEq

/-- Why a piece of a filter means nothing. -/
inductive LogFlaw where
  | malformed
  | unknownRank
  | badValue (flaw : Regex.Flaw)
  /-- A sign is counted to a place inside of a character; nothing can be done any more. -/
  | divided
deriving DecidableEq

namespace LogFlaw

def message : LogFlaw → String
  | .malformed => "invalid filter directive"
  | .unknownRank =>
    "error parsing level filter: expected one of \"off\", \"error\", \"warn\", \"info\", "
      ++ "\"debug\", \"trace\", or a number 0-5"
  | .badValue .unread => "invalid field filter: error building NFA"
  | .badValue .wideWords =>
    "invalid field filter: unsupported regex feature for DFAs: cannot build DFAs for regexes "
      ++ "with Unicode word boundaries; switch to ASCII word boundaries, or heuristically enable "
      ++ "Unicode word boundaries or use a different regex engine"
  | .divided => "byte index is not a char boundary"

end LogFlaw

/-! ### Values of fields -/

namespace FieldRule

/-- Whether a text is a decimal number, with a point and an exponent or without. -/
def isDecimal (s : List Char) : Bool :=
  let (whole, rest) := Digits.span s
  let (part, rest) := match rest with
    | '.' :: rest => Digits.span rest
    | rest => ([], rest)
  !(whole.isEmpty && part.isEmpty) &&
    match rest with
    | [] => true
    | e :: power =>
      let digits := match power with
        | '+' :: digits | '-' :: digits => digits
        | digits => digits
      (e = 'e' || e = 'E') && !digits.isEmpty && digits.all Text.isAsciiDigit

/-- Whether a text is a number, with a sign or without. -/
def isNumber (s : List Char) : Bool :=
  let size := match s with
    | '+' :: size | '-' :: size => size
    | size => size
  isDecimal size || ["inf", "infinity", "nan"].any fun word => Text.sameWord word.toList size

/-- Whether a text stands for a truth value or a number, which no text is. -/
def isPlainValue (value : String) : Bool :=
  ["true", "false"].contains value || isNumber value.toList

/-- Whether a value can be asked for. -/
def checkValue (value : String) : Except LogFlaw Unit :=
  if isPlainValue value then .ok ()
  else
    match Regex.ofText value with
    | .ok _ => .ok ()
    | .error flaw => .error (.badValue flaw)

/-- Whether a text has the value that is asked for: the match of the described expression reaches
to its end. -/
def allows (r : FieldRule) (text : String) : Bool :=
  r.value.all fun value =>
    !isPlainValue value &&
      match Regex.ofText value with
      | .ok expression => expression.reachesEnd text
      | .error _ => false

/-- A field as a piece of a filter asks for it. -/
def ofPiece (text : List Char) : Except LogFlaw FieldRule :=
  let name := String.ofList (text.takeWhile (· ≠ '='))
  match text.dropWhile (· ≠ '=') with
  | [] => .ok ⟨name, none⟩
  | _ :: value => do
    let value := String.ofList (value.takeWhile (· ≠ '='))
    checkValue value
    return ⟨name, some value⟩

end FieldRule

namespace LogRule

def greatest : Nat := LogLevel.trace.rank

/-- The rule that is only about the rank. -/
def upTo (rank : Nat) : LogRule :=
  ⟨none, none, none, rank⟩

/-! ### Ranks -/

/-- The words for ranks, from the lowest one on. -/
def rankWords : List String :=
  ["off", "error", "warn", "info", "debug", "trace"]

/-- The rank that some digits name, with a plus sign or without. -/
def rankNumber? (text : List Char) : Option Nat :=
  match Digits.span (if text.head? = some '+' then text.tail else text) with
  | ([], _) | (_, _ :: _) => none
  | (digits, []) => some (Digits.toNat digits) |>.filter (· ≤ greatest)

/-- The rank that a word or a number names. -/
def rankOf? (text : List Char) : Option Nat :=
  match rankWords.findIdx? fun word => Text.sameWord word.toList text with
  | some rank => some rank
  | none => rankNumber? text

/-- The rank behind an equals sign; nothing there asks for everything. -/
def rankBehind (text : List Char) : Except LogFlaw Nat :=
  if text.isEmpty then .ok greatest
  else
    match rankOf? text with
    | some rank => .ok rank
    | none => .error .unknownRank

/-! ### Places

Signs are sought in a piece without the blanks around it, and their places are counted in bytes from
its first character on. What stands between two signs is taken from the piece itself, from the same
places on. -/

/-- The number of bytes of a text. -/
def byteCount (s : List Char) : Nat :=
  s.foldl (fun n c => n + c.utf8Size) 0

/-- A text without its first bytes, which must be whole characters. -/
def dropBytes : List Char → Nat → Except LogFlaw (List Char)
  | s, 0 => .ok s
  | [], _ + 1 => .ok []
  | c :: rest, n => if c.utf8Size ≤ n then dropBytes rest (n - c.utf8Size) else .error .divided

/-- The first bytes of a text, which must be whole characters. -/
def takeBytes : List Char → Nat → Except LogFlaw (List Char)
  | _, 0 => .ok []
  | [], _ + 1 => .ok []
  | c :: rest, n =>
    if c.utf8Size ≤ n then do return c :: (← takeBytes rest (n - c.utf8Size))
    else .error .divided

/-- A piece of a filter, and what is left of its trimmed text from a place on. -/
structure Cursor where
  piece : List Char
  place : Nat
  rest : List Char

namespace Cursor

def start (piece : List Char) : Cursor :=
  ⟨piece, 0, Text.trim piece⟩

/-- Steps over a sign. -/
def next (k : Cursor) : Cursor :=
  ⟨k.piece, k.place + byteCount (k.rest.take 1), k.rest.tail⟩

/-- What the piece holds from a place on. -/
def behind (k : Cursor) : Except LogFlaw (List Char) :=
  dropBytes k.piece k.place

/-- Goes to the first of some signs; gives what the piece holds up to there, the sign, and the
place behind it. -/
def upTo (k : Cursor) (signs : List Char) : Except LogFlaw (List Char × Char × Cursor) :=
  let isPlain (c : Char) : Bool := !signs.contains c
  let passed := k.rest.takeWhile isPlain
  match k.rest.dropWhile isPlain with
  | [] => .error .malformed
  | sign :: rest => do
    let text ← takeBytes (← k.behind) (byteCount passed)
    return (text, sign, ⟨k.piece, k.place + byteCount passed + sign.utf8Size, rest⟩)

end Cursor

/-! ### Reading -/

def isOpening (c : Char) : Bool :=
  Text.isAlphanumeric c || ['-', ':', '_'].contains c

/-- What a piece says behind the brackets, with which the rule is complete but for the rank. -/
def behindBrackets (k : Cursor) (r : LogRule) : Except LogFlaw LogRule :=
  match k.rest with
  | [] => .ok r
  | '=' :: _ => do return { r with rank := ← rankBehind (← k.next.behind) }
  | _ => .error .malformed

/-- What a piece says inside the brackets, of work and its fields, and behind them. -/
def inBrackets (k : Cursor) (part : Option String) : Except LogFlaw LogRule := do
  let (work, sign, k) ← k.upTo [']', '\x7b']
  let work := String.ofList work
  if sign = ']' then behindBrackets k ⟨part, some work, none, greatest⟩
  else
    let (field, _, k) ← k.upTo ['\x7d']
    if field.isEmpty then .error .malformed
    else
      let field ← FieldRule.ofPiece field
      match k.rest with
      | ']' :: _ =>
        behindBrackets k.next
          ⟨part, if work.isEmpty then none else some work, some field, greatest⟩
      | _ => .error .malformed

/-- The rule of a piece without signs. -/
def ofWord (piece : List Char) : LogRule :=
  match rankOf? piece with
  | some rank => upTo rank
  | none => ⟨some (String.ofList piece), none, none, greatest⟩

/-- The rule that a piece of a filter describes. -/
def ofPiece (piece : List Char) : Except LogFlaw LogRule :=
  let k := Cursor.start piece
  match k.rest with
  | [] => .error .malformed
  | '[' :: _ => inBrackets k.next none
  | c :: _ =>
    if !isOpening c then .error .malformed
    else if !k.rest.any ['=', '['].contains then .ok (ofWord piece)
    else do
      let (part, sign, k) ← k.upTo ['=', '[']
      let part := some (String.ofList part)
      if sign = '[' then inBrackets k part
      else return ⟨part, none, none, ← rankBehind (← k.behind)⟩

/-! ### Kinds of rules -/

/-- Whether a rule asks for work or a field, so that it may hold during some work only. -/
def asksWork (r : LogRule) : Bool :=
  r.work.isSome || r.field.isSome

def asksValue (r : LogRule) : Bool :=
  r.field.any (·.value.isSome)

/-- Whether a rule can be decided on a note alone. -/
def isPlain (r : LogRule) : Bool :=
  r.work.isNone && !r.asksValue

def coversPart (r : LogRule) (part : String) : Bool :=
  match r.part with
  | none => true
  | some name => name.toList.isPrefixOf part.toList

/-- Whether a plain rule is about a note. -/
def covers (r : LogRule) (n : LogNote) : Bool :=
  r.coversPart n.part && r.field.all fun f => n.fieldNames.contains f.name

/-- How closely a rule names the parts that it is about. -/
def closeness (r : LogRule) : Nat :=
  match r.part with
  | none => 0
  | some name => name.utf8ByteSize + 1

/-- The order of texts by their characters. -/
def isBelow : List Char → List Char → Bool
  | _, [] => false
  | [], _ :: _ => true
  | a :: s, b :: t => a.val < b.val || (a == b && isBelow s t)

/-- Whether the field of a rule comes before the field of another one; none comes first. -/
def isBelowField : Option FieldRule → Option FieldRule → Bool
  | _, none => false
  | none, some _ => true
  | some f, some g => isBelow f.name.toList g.name.toList

/-- Whether a rule says less closely than another one what it is about. -/
def isWider (r q : LogRule) : Bool :=
  r.closeness < q.closeness || (r.closeness = q.closeness && isBelowField r.field q.field)

/-! ### The release of timelines -/

/-- The name of the release of a timeline, as rules speak of it. -/
def releaseWork : String := "build"

/-- The only field of a release, which holds the name of the timeline. -/
def releaseField : String := "timeline"

/-- Whether a rule is about the release of a timeline. -/
def coversRelease (r : LogRule) (timeline : String) : Bool :=
  r.asksWork && r.coversPart releasePart && r.work.all (· == releaseWork)
    && r.field.all fun f => f.name == releaseField && f.allows timeline

/-- Whether two rules say the same, but for the rank. -/
def restates (r q : LogRule) : Bool :=
  { r with rank := q.rank } == q

end LogRule

end Storyboard.CommandLine
