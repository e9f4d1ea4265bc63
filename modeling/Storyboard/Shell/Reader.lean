import Storyboard.Shell.Statement

/-!
Readers of scripts: the mistakes that they find, the tokens, the state of a reading, and the scanning
of what a word is made of.
-/

namespace Storyboard.Shell

/-! ### Mistakes -/

inductive Mistake where
  | unexpected (found : String) (expected : Option String)
  | openQuote
  | openBrace
  | openArithmetic
  | openBackquote
  | badLoopVariable
  | badFunctionName
deriving DecidableEq

namespace Mistake

def message : Mistake → String
  | .unexpected found none => found ++ " unexpected"
  | .unexpected found (some expected) => found ++ " unexpected (expecting " ++ expected ++ ")"
  | .openQuote => "Unterminated quoted string"
  | .openBrace => "Missing '\x7d'"
  | .openArithmetic => "Missing '))'"
  | .openBackquote => "EOF in backquote substitution"
  | .badLoopVariable => "Bad for loop variable"
  | .badFunctionName => "Bad function name"

end Mistake

/-! ### Tokens -/

inductive RedirectionSign where
  | file (mode : FileMode)
  | duplicate
  | document (dropsTabs : Bool)
deriving DecidableEq

inductive Token where
  | ending
  | newline
  | symbol (text : String)
  | keyword (text : String)
  | redirection (descriptor : Nat) (sign : RedirectionSign)
  | word (w : Word)

namespace Token

/-- The words that have a meaning of their own where a command may begin. -/
def keywords : List String :=
  ["!", "case", "do", "done", "elif", "else", "esac", "fi", "for", "if", "in", "then", "until",
   "while", "\x7b", "\x7d"]

/-- The keywords and symbols that end a list of commands. -/
def closers : List String :=
  ["do", "done", "elif", "else", "esac", "fi", "then", "\x7d", ")", ";;"]

def quoted (text : String) : String :=
  "\"" ++ text ++ "\""

def description : Token → String
  | .ending => "end of file"
  | .newline => "newline"
  | .symbol text | .keyword text => quoted text
  | .redirection .. => "redirection"
  | .word _ => "word"

/-- The token as a keyword, if it is the word for one. -/
def asKeyword (t : Token) : Token :=
  match t with
  | .word w =>
    match w.literal? with
    | some chars =>
      match keywords.find? fun k => k.toList = chars with
      | some k => .keyword k
      | none => t
    | none => t
  | t => t

/-- The word that a token is, keyword or not. -/
def word? : Token → Option Word
  | .word w => some w
  | .keyword text => some [.text text.toList false]
  | _ => none

def isKeyword (t : Token) (text : String) : Bool :=
  match t with
  | .keyword k => k == text
  | _ => false

def isSymbol (t : Token) (text : String) : Bool :=
  match t with
  | .symbol s => s == text
  | _ => false

def closesList : Token → Bool
  | .symbol text | .keyword text => closers.contains text
  | _ => false

end Token

/-! ### The state of a reading -/

/-- A text inside the script whose lines are still to come. -/
structure PendingDocument where
  number : Nat
  /-- The line behind the last one. -/
  delimiter : Octets
  expands : Bool
  dropsTabs : Bool

/-- An alias whose text is being read. -/
structure OpenAlias where
  name : Octets
  /-- How much of the text comes behind that of the alias. -/
  behind : Nat

structure Reading where
  rest : Octets
  line : Nat
  /-- A token that was read already. -/
  pushed : Option Token
  /-- The texts that stand for some words where a command begins. -/
  aliases : List (Octets × Octets)
  opened : List OpenAlias
  /-- Whether a blank has just ended the text of an alias, so that the next word may be one too. -/
  isBehindBlank : Bool
  pending : List PendingDocument
  /-- The documents read so far, by their numbers. -/
  documents : List (Nat × Word)
  /-- How many documents have been announced. -/
  announced : Nat

/-- A mistake with its line. -/
structure SyntaxFault where
  line : Nat
  mistake : Mistake

abbrev Reader := EStateM SyntaxFault Reading

namespace Reader

/-- The start of the reading of a text, before which some documents were announced. -/
def start (text : Octets) (line announced : Nat) : Reading :=
  ⟨text.filter (· != '\x00'), line, none, [], [], false, [], [], announced⟩

def fail {α : Type} (m : Mistake) : Reader α := do
  throw ⟨(← get).line, m⟩

def unexpected {α : Type} (t : Token) (expected : Option String) : Reader α :=
  fail (.unexpected t.description expected)

/-- Skips joined lines: a backslash at the end of a line joins the next one to it. -/
def joined (line : Nat) : Octets → Nat × Octets
  | '\\' :: '\n' :: rest => joined (line + 1) rest
  | rest => (line, rest)

/-- The next character, which stays. -/
def peek : Reader (Option Char) :=
  modifyGet fun r =>
    let (line, rest) := joined r.line r.rest
    (rest.head?, { r with line, rest })

/-- The next character behind spaces and tabs. -/
def peekAhead : Reader (Option Char) := do
  modify fun r => { r with rest := r.rest.dropWhile fun c => c = ' ' || c = '\t' }
  peek

/-- The next character, even if it joins lines. -/
def peekRaw : Reader (Option Char) :=
  return (← get).rest.head?

/-- Goes past the next character. -/
def skip : Reader Unit :=
  modify fun r =>
    { r with
      line := if r.rest.head? = some '\n' then r.line + 1 else r.line
      rest := r.rest.tail }

/-- Goes past the next character, which ends no line even if it is a line end. -/
def skipSign : Reader Unit :=
  modify fun r => { r with rest := r.rest.tail }

/-- Takes the characters with a property that come next. -/
def takeWhile (p : Char → Bool) : Nat → Reader Octets
  | 0 => return []
  | depth + 1 => do
    match ← peek with
    | some c =>
      if p c then
        skip
        return c :: (← takeWhile p depth)
      else return []
    | none => return []

/-- Goes past the next character if it is the given one. -/
def skips (c : Char) : Reader Bool := do
  if (← peek) = some c then
    skip
    return true
  else return false

def push (t : Token) : Reader Unit :=
  modify fun r => { r with pushed := some t }

/-! ### Aliases -/

/-- Notes whether the blank that was passed has ended the text of an alias. -/
def noteBlank : Reader Unit :=
  modify fun r =>
    if r.opened.any (·.behind = r.rest.length) then { r with isBehindBlank := true } else r

/-- Whether a blank has just ended the text of an alias; it is asked once. -/
def takeBlank : Reader Bool :=
  modifyGet fun r => (r.isBehindBlank, { r with isBehindBlank := false })

/-- Puts the text of an alias in the place of a word where aliases are known, unless that text is
being read already; whether it did. -/
def opensAlias (isKnown : Bool) (w : Word) : Reader Bool :=
  modifyGet fun r =>
    let aliases := if isKnown then r.aliases else []
    match w.literal?.bind fun name => (aliases.lookup name).map (name, ·) with
    | some (name, text) =>
      let opened := r.opened.filter (·.behind ≤ r.rest.length)
      if opened.any (·.name = name) then (false, r)
      else
        let opened := if text.isEmpty then opened else ⟨name, r.rest.length⟩ :: opened
        (true, { r with rest := text ++ r.rest, opened })
    | none => (false, r)

/-! ### Documents in the script -/

/-- Whether a line ends with a backslash that joins the next one to it. -/
def joinsNext (line : Octets) : Bool :=
  (line.reverse.takeWhile (· = '\\')).length % 2 == 1

/-- The lines of a document, the text behind its delimiter, and how many lines the two take. -/
def documentLines (d : PendingDocument) : Nat → (isJoined : Bool) → Octets → Octets × Octets × Nat
  | 0, _, rest => ([], rest, 0)
  | depth + 1, isJoined, rest =>
    let (line, more) := rest.span (· != '\n')
    let line := if d.dropsTabs && !isJoined then line.dropWhile (· = '\t') else line
    if line = d.delimiter && !isJoined then ([], more.tail, 1)
    else
      match more with
      | [] => (line, [], 0)
      | _ :: more =>
        let (body, rest, count) := documentLines d depth (d.expands && joinsNext line) more
        (line ++ '\n' :: body, rest, count + 1)

/-- The word that ends a document, and whether it is quoted, from the text in front of it. -/
def delimiterOf : Octets → Octets × Bool × Octets
  | [] => ([], false, [])
  | '\'' :: rest => inQuotes '\'' rest
  | '"' :: rest => inQuotes '"' rest
  | '\\' :: c :: rest =>
    let (text, _, rest) := delimiterOf rest
    (c :: text, true, rest)
  | c :: rest =>
    if [' ', '\t', '\n', ';', '&', '|', '<', '>', '(', ')'].contains c then ([], false, c :: rest)
    else
      let (text, isQuoted, rest) := delimiterOf rest
      (c :: text, isQuoted, rest)
where
  inQuotes (quote : Char) : Octets → Octets × Bool × Octets
    | [] => ([], true, [])
    | c :: rest =>
      if c = quote then
        let (text, _, rest) := delimiterOf rest
        (text, true, rest)
      else
        let (text, isQuoted, rest) := inQuotes quote rest
        (c :: text, isQuoted, rest)

/-! ### Words -/

/-- Where a piece of a word stands. -/
inductive Place where
  | plain
  | double
  /-- In the braces of a parameter, which may be quoted and hold quotes themselves. -/
  | braces (isQuoted inQuotes : Bool)
  | document
  /-- In an expression, behind some open parentheses. -/
  | expression (opened : Nat)
deriving DecidableEq

namespace Place

def isQuoted : Place → Bool
  | .plain => false
  | .braces isQuoted _ => isQuoted
  | .double | .document | .expression _ => true

/-- What is missing where the text ends at a place. -/
def openEnd? : Place → Option Mistake
  | .plain | .document => none
  | .double | .braces true _ | .braces false true => some .openQuote
  | .braces false false => some .openBrace
  | .expression _ => some .openArithmetic

/-- The characters that a backslash protects at a quoted place. -/
def protects (p : Place) (c : Char) : Bool :=
  ['$', '\\', '\x60'].contains c || (c = '"' && p != .document)
    || (c = '\x7d' && (match p with | .braces .. => true | _ => false))

end Place

/-- The parameters whose names are one character that is no letter. -/
def isSpecial (c : Char) : Bool :=
  Text.isAsciiDigit c || ['@', '*', '#', '?', '$', '!', '-'].contains c

def isNameStart (c : Char) : Bool :=
  Text.isAsciiLetter c || c = '_'

/-- The characters that end a word. -/
def endsWord (c : Char) : Bool :=
  [' ', '\t', '\n', ';', '&', '|', '<', '>', '(', ')'].contains c

/-- Whether a character means nothing but itself wherever it stands. -/
def isOrdinary (c : Char) : Bool :=
  !(endsWord c || ['\\', '$', '\x60', '"', '\'', '\x7d'].contains c)

/-- The ordinary characters that come next. -/
def ordinaryRun : Reader Octets :=
  modifyGet fun r =>
    let (run, rest) := r.rest.span isOrdinary
    (run, { r with rest })

/-- The text up to an apostrophe. -/
def singleQuoted : Nat → Reader Octets
  | 0 => fail .openQuote
  | depth + 1 => do
    match ← peekRaw with
    | none => fail .openQuote
    | some c =>
      skip
      if c = '\'' then return [] else return c :: (← singleQuoted depth)

/-- The text up to a backquote, in which some backslashes protect the next character. -/
def backquoted (isQuoted : Bool) : Nat → Reader Octets
  | 0 => fail .openBackquote
  | depth + 1 => do
    match ← peek with
    | none => fail .openBackquote
    | some '\x60' => skip; return []
    | some '\\' =>
      skip
      match ← peekRaw with
      | none => fail .openBackquote
      | some c =>
        skip
        let rest ← backquoted isQuoted depth
        if ['\\', '\x60', '$'].contains c || (isQuoted && c = '"') then return c :: rest
        else return '\\' :: c :: rest
    | some c => skip; return c :: (← backquoted isQuoted depth)

/-- How the value of a parameter is used, by the signs behind its name. -/
inductive UseSign where
  | closed
  | word (use : Word → Use) (isPattern : Bool)

/-- Reads the signs behind the name of a parameter in braces. -/
def useSign : Reader UseSign := do
  let emptyCounts ← skips ':'
  match ← peek with
  | some '-' => skip; return .word (.orElse emptyCounts) false
  | some '=' => skip; return .word (.orAssign emptyCounts) false
  | some '?' => skip; return .word (.orRefuse emptyCounts) false
  | some '+' => skip; return .word (.whereSet emptyCounts) false
  | some '\x7d' =>
    if emptyCounts then return .word (fun _ => .unknown) false
    else
      skip
      return .closed
  | some '#' =>
    if emptyCounts then return .word (fun _ => .unknown) false
    else
      skip
      return .word (.withoutStart (← skips '#')) true
  | some '%' =>
    if emptyCounts then return .word (fun _ => .unknown) false
    else
      skip
      return .word (.withoutEnd (← skips '%')) true
  | some _ => skipSign; return .word (fun _ => .unknown) false
  | none => return .word (fun _ => .unknown) false

/-- The name of a parameter in braces, without a length sign; nothing if there is none. -/
def bracedName (depth : Nat) : Reader (Option Octets) := do
  match ← peek with
  | some c =>
    if isNameStart c then return some (← takeWhile Text.isWordChar depth)
    else if Text.isAsciiDigit c then return some (← takeWhile Text.isAsciiDigit depth)
    else if isSpecial c then
      skip
      return some [c]
    else return none
  | none => return none

/-- Goes past what stands where the name of a parameter belongs; it counts for nothing. -/
def passNonName : Reader Unit := do
  match ← peek with
  | none | some '\x7d' => return ()
  | some _ => skipSign

/-- Whether the braces hold a length: a sign for it with a name, or with one more character. -/
def asksLength (rest : Octets) : Bool :=
  match rest with
  | '#' :: c :: more =>
    isNameStart c || Text.isAsciiDigit c || (c != '\x7d' && more.head? = some '\x7d')
  | _ => false

/-- The sign of a redirection. -/
def redirectionSign (descriptor : Option Nat) : Reader Token := do
  if ← skips '>' then
    let target := descriptor.getD 1
    if ← skips '>' then return .redirection target (.file .append)
    else if ← skips '|' then return .redirection target (.file .overwrite)
    else if ← skips '&' then return .redirection target .duplicate
    else return .redirection target (.file .write)
  else
    skip
    let target := descriptor.getD 0
    if ← skips '<' then return .redirection target (.document (← skips '-'))
    else if ← skips '&' then return .redirection target .duplicate
    else if ← skips '>' then return .redirection target (.file .readWrite)
    else return .redirection target (.file .read)

/-- A word as a token; a single digit or nothing in front of a sign belongs to a redirection. -/
def wordToken (w : Word) : Reader Token := do
  let c ← peek
  if c != some '<' && c != some '>' then return .word w
  else
    match w with
    | [] => redirectionSign none
    | [.text [d] false] =>
      if Text.isAsciiDigit d then redirectionSign (some (d.toNat - '0'.toNat)) else return .word w
    | w => return .word w

/-- The commands of the shell whose names no function can have. -/
def specialCommands : List String :=
  [".", ":", "break", "continue", "eval", "exec", "exit", "export", "local", "readonly", "return",
   "set", "shift", "times", "trap", "unset"]

/-- The word that ends a document in the script. -/
def documentWord (dropsTabs : Bool) : Reader Nat :=
  modifyGet fun r =>
    let (delimiter, isQuoted, rest) := delimiterOf (r.rest.dropWhile fun c => c = ' ' || c = '\t')
    let d : PendingDocument := ⟨r.announced, delimiter, !isQuoted, dropsTabs⟩
    (r.announced, { r with rest, pending := r.pending ++ [d], announced := r.announced + 1 })

end Reader

end Storyboard.Shell
