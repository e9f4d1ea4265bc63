import Storyboard.Text.Case
import Storyboard.Text.Octet

/-!
Statements of the shell. A word is made of pieces: texts, parameters, the output of commands and the
results of arithmetic, each quoted or not; statements are made of words and of each other.
-/

namespace Storyboard.Shell

/-- How a file is opened by a redirection. -/
inductive FileMode where
  | read
  | write
  /-- Writes even where files must not be overwritten. -/
  | overwrite
  | append
  | readWrite
deriving DecidableEq

mutual

inductive Piece where
  | text (chars : Octets) (isQuoted : Bool)
  /-- The value of a parameter: a variable, an argument by number, or a special one. -/
  | parameter (name : Octets) (use : Use) (isQuoted : Bool)
  /-- What a command prints. -/
  | output (body : Statement) (isQuoted : Bool)
  | arithmetic (expression : List Piece) (isQuoted : Bool)

/-- What is made of the value of a parameter. -/
inductive Use where
  | plain
  | length
  /-- The value, or a word where there is none; an empty value may count as none. -/
  | orElse (emptyCounts : Bool) (word : List Piece)
  /-- The same, and the word becomes the value. -/
  | orAssign (emptyCounts : Bool) (word : List Piece)
  /-- The value, or the end of the script with a word as the reason. -/
  | orRefuse (emptyCounts : Bool) (word : List Piece)
  /-- A word where there is a value. -/
  | whereSet (emptyCounts : Bool) (word : List Piece)
  /-- The value without what matches a pattern in front. -/
  | withoutStart (longest : Bool) (pattern : List Piece)
  /-- The value without what matches a pattern at its end. -/
  | withoutEnd (longest : Bool) (pattern : List Piece)
  /-- What this shell does not know. -/
  | unknown

inductive Redirection where
  | file (descriptor : Nat) (mode : FileMode) (target : List Piece)
  /-- The stream of another descriptor, or none. -/
  | duplicate (descriptor : Nat) (target : List Piece)
  /-- A text that the script holds, by its number. -/
  | document (descriptor number : Nat)

inductive Statement where
  /-- Assignments, then a command with its arguments. -/
  | simple (line : Nat) (assignments : List (Octets × List Piece)) (words : List (List Piece))
      (redirections : List Redirection)
  | sequence (items : List Statement)
  /-- Runs beside what follows. -/
  | background (body : Statement)
  | pipe (parts : List Statement)
  | both (first second : Statement)
  | either (first second : Statement)
  | negated (body : Statement)
  | choose (condition yes no : Statement)
  /-- Repeats while the condition holds, or until it does. -/
  | loop (untilTrue : Bool) (condition body : Statement)
  /-- Without words, the arguments of the script are meant. -/
  | forEach (line : Nat) (name : Octets) (words : Option (List (List Piece))) (body : Statement)
  | select (line : Nat) (subject : List Piece) (arms : List (List (List Piece) × Statement))
  | subshell (line : Nat) (body : Statement) (redirections : List Redirection)
  | redirected (line : Nat) (body : Statement) (redirections : List Redirection)
  | define (name : Octets) (body : Statement)

end

abbrev Word := List Piece

instance : Inhabited Statement := ⟨.sequence []⟩

namespace Statement

def nothing : Statement := .sequence []

end Statement

/-- Whether a text can name a variable. -/
def isName : Octets → Bool
  | [] => false
  | c :: rest => !Text.isAsciiDigit c && (c :: rest).all Text.isWordChar

namespace Word

/-- The text of a word that is nothing but unquoted text. -/
def literal? : Word → Option Octets
  | [.text chars false] => some chars
  | _ => none

/-- The name and the value of a word that assigns. -/
def assignment? : Word → Option (Octets × Word)
  | .text chars false :: rest =>
    match chars.span (· != '=') with
    | (name, _ :: value) =>
      if isName name then
        some (name, if value.isEmpty then rest else .text value false :: rest)
      else none
    | (_, []) => none
  | _ => none

/-- Adds a text at the end of a word. -/
def addText (w : Word) (added : Octets) (isQuoted : Bool) : Word :=
  match w.getLast? with
  | some (.text chars q) =>
    if q = isQuoted then w.dropLast ++ [.text (chars ++ added) q] else w ++ [.text added isQuoted]
  | _ => w ++ [.text added isQuoted]

/-- Adds a character at the end of a word. -/
def addChar (w : Word) (c : Char) (isQuoted : Bool) : Word :=
  w.addText [c] isQuoted

end Word

end Storyboard.Shell
