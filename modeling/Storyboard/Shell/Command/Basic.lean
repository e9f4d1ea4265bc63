import Storyboard.Shell.Condition
import Storyboard.Shell.Script

/-!
Commands that the shell does itself. A command ends with a status or is refused with a reason; what
it prints is written when it has ended.
-/

namespace Storyboard.Shell

/-- How a command ends. -/
structure Outcome where
  /-- The status, or why the command is refused. -/
  result : Except Octets Nat
  printed : Octets
  shell : Shell

/-- What a command does with its arguments. -/
abbrev Command := Engine → List Octets → Shell → Outcome

def answers (sh : Shell) (status : Nat) : Outcome :=
  ⟨.ok status, [], sh⟩

def prints (sh : Shell) (text : Octets) : Outcome :=
  ⟨.ok 0, text, sh⟩

def refuses (sh : Shell) (reason : Octets) : Outcome :=
  ⟨.error reason, [], sh⟩

/-- The status of a condition. -/
def truth (b : Bool) : Nat :=
  if b then 0 else 1

/-! ### Numbers -/

/-- The greatest number that an argument can state. -/
def greatestNumber : Nat := 2147483647

/-- The number that an argument states. -/
def numberIn (text : Octets) : Except Octets Nat :=
  match Condition.numberOf text with
  | .ok (.ofNat n) =>
    if n ≤ greatestNumber then .ok n else .error (Condition.Fault.badNumber text).message
  | _ => .error (Condition.Fault.badNumber text).message

/-! ### Options -/

/-- Options with their arguments, and the arguments behind them. -/
abbrev Given := List (Char × Octets) × List Octets

/-- The options of one argument. One that wants a value takes what is behind it, or the next
argument. -/
def letterOptions (plain valued : List Char) : Octets → List Octets → Except Octets Given
  | [], rest => .ok ([], rest)
  | c :: more, rest =>
    if plain.contains c then do
      let (given, rest) ← letterOptions plain valued more rest
      return ((c, []) :: given, rest)
    else if valued.contains c then
      match more, rest with
      | [], [] => .error (Octets.ofText "No arg for -" ++ c :: Octets.ofText " option")
      | [], value :: rest => .ok ([(c, value)], rest)
      | value, rest => .ok ([(c, value)], rest)
    else .error (Octets.ofText "Illegal option -" ++ [c])

/-- The options in front of some arguments; the first argument bounds their number. -/
def optionsFrom (plain valued : List Char) : Nat → List Octets → Except Octets Given
  | count + 1, ('-' :: c :: more) :: rest =>
    if c = '-' && more.isEmpty then .ok ([], rest)
    else do
      let (given, rest) ← letterOptions plain valued (c :: more) rest
      let (others, rest) ← optionsFrom plain valued count rest
      return (given ++ others, rest)
  | _, rest => .ok ([], rest)

/-- Reads the options of a command, and goes on with them and the arguments behind them. -/
def withOptions (plain valued : List Char) (arguments : List Octets) (sh : Shell)
    (goOn : List (Char × Octets) → List Octets → Outcome) : Outcome :=
  match optionsFrom plain valued arguments.length arguments with
  | .ok (given, rest) => goOn given rest
  | .error reason => sh.refuses reason

/-! ### Quotes -/

/-- A text between quotes, as the shell reads it again. The first argument bounds its length. -/
def quotedFrom : Nat → Octets → Octets
  | 0, _ => []
  | count + 1, text =>
    let (plain, rest) := text.span (· != '\'')
    let (marks, rest) := rest.span (· = '\'')
    '\'' :: plain ++ '\'' :: (if marks.isEmpty then [] else '"' :: marks ++ ['"'])
      ++ (if rest.isEmpty then [] else quotedFrom count rest)

def quoted (text : Octets) : Octets :=
  quotedFrom (text.length + 1) text

example : quoted "it's".toList = "'it'\"'\"'s'".toList := by decide +kernel

end Storyboard.Shell
