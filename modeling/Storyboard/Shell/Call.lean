import Storyboard.Shell.Command
import Storyboard.Shell.Copy

/-!
Simple commands: assignments, words and redirections. The first word decides who carries a command
out: a function, the shell itself or a program.
-/

namespace Storyboard.Shell

/-! ### Words -/

/-- The words behind those by which `command` asks to run them, and whether they are sought along
the standard search path. -/
def behindCommand? (isStandard : Bool) : List Octets → Option (Bool × List Octets)
  | [] => none
  | ['-', '-'] :: rest => if rest.isEmpty then none else some (isStandard, rest)
  | ('-' :: c :: more) :: rest =>
    if (c :: more).all (· = 'p') then behindCommand? true rest else none
  | rest => some (isStandard, rest)

/-- Who carries a command out. -/
inductive Role where
  | nobody
  | function (body : Statement)
  | shell (isSpecial : Bool) (command : Command)
  /-- A program takes the place of the shell. -/
  | successor (isSpecial : Bool)
  /-- A program, which may be sought along the standard search path. -/
  | program (isStandard : Bool)

/-- Tells what a name stands for, or refuses an option. -/
def tellCommand : Command := fun _ arguments sh =>
  withOptions ['p', 'v', 'V'] [] arguments sh fun given names =>
    match given.reverse.find? (·.1 != 'p') with
    | some (letter, _) => describeOne (given.any (·.1 = 'p')) (letter = 'V') names sh
    | none => sh.answers 0

/-- Who carries some words out, and which words are left for that; the number bounds theirs. Behind
`command` they are no longer plain. -/
def roleFrom (sh : Shell) :
    Nat → (isPlain isStandard : Bool) → List Octets → Role × List Octets
  | 0, _, _, words => (.nobody, words)
  | _, _, _, [] => (.nobody, [])
  | count + 1, isPlain, isStandard, name :: rest =>
    match if isPlain then sh.functions.lookup name else none with
    | some body => (.function body, name :: rest)
    | none =>
      if name = "command".toList then
        match behindCommand? isStandard rest with
        | some (isStandard, inner) => roleFrom sh count false isStandard inner
        | none => (.shell false tellCommand, name :: rest)
      else if name = "exec".toList then (.successor isPlain, name :: rest)
      else
        match command? name with
        | some command => (.shell (isPlain && isSpecialCommand name) command, name :: rest)
        | none => (.program isStandard, name :: rest)

/-- Who carries some words out, and which words are left for that. -/
def roleOf (sh : Shell) (words : List Octets) : Role × List Octets :=
  roleFrom sh words.length true false words

/-- Whether the assignments in front of a command hold for it alone. -/
def Role.isBrief : Role → Bool
  | .nobody | .shell true _ | .successor true => false
  | _ => true

def Role.isSpecial : Role → Bool
  | .shell isSpecial _ | .successor isSpecial => isSpecial
  | _ => false

/-- The commands whose arguments may be assignments. -/
def assigningCommands : List String :=
  ["export", "readonly", "local", "alias"]

/-- Whether the words that begin a command make assignments of its arguments. -/
def takesAssignments (sh : Shell) (words : List Octets) : Bool :=
  match roleOf sh words with
  | (.shell .., name :: _) => assigningCommands.any (·.toList = name)
  | _ => false

/-- Whether some words say what is run. -/
def isDecided (words : List Octets) : Bool :=
  match words with
  | [] => false
  | name :: rest =>
    name != "command".toList || rest.any fun word => word.head? != some '-'

/-- Expands words up to those that say what is run. -/
def leadingFields (e : Engine) (done : List Octets) : List Word → Shell →
    List Octets × List Word × Shell
  | [], sh => (done, [], sh)
  | w :: rest, sh =>
    let (found, sh) := fields (finish e) e w sh
    let done := done ++ found
    if sh.isStopped || isDecided done then (done, rest, sh) else leadingFields e done rest sh

/-- Expands the arguments of a command that takes assignments, whose values are not divided. -/
def assigningFields (e : Engine) : List Word → Shell → List Octets × Shell
  | [], sh => ([], sh)
  | w :: rest, sh =>
    let (found, sh) :=
      match w.assignment? with
      | some (name, value) =>
        let (text, sh) := textOf (finish e) e .assigned value sh
        ([name ++ '=' :: text], sh)
      | none => fields (finish e) e w sh
    if sh.isStopped then (found, sh)
    else
      let (others, sh) := assigningFields e rest sh
      (found ++ others, sh)

/-- The fields of the words of a command. -/
def commandFields (e : Engine) (words : List Word) (sh : Shell) : List Octets × Shell :=
  let (first, rest, sh) := leadingFields e [] words sh
  if sh.isStopped then (first, sh)
  else
    let (others, sh) :=
      if takesAssignments sh first then assigningFields e rest sh
      else allFields (finish e) e rest sh
    (first ++ others, sh)

/-! ### Assignments -/

/-- Carries out assignments in order, until one ends the shell. The result tells what the variables
were before and which assignments were made. -/
def assignWords (e : Engine) (exports : Bool) : List (Octets × Word) → Shell →
    List (Octets × Option Variable) × List Octets × Shell
  | [], sh => ([], [], sh)
  | (name, value) :: rest, sh =>
    let (text, sh) := textOf (finish e) e .assigned value sh
    if sh.isStopped then ([], [], sh)
    else
      let old := (name, sh.binding? name)
      match sh.assign name text exports with
      | .error reason => ([], [], sh.abort reason)
      | .ok sh =>
        let (others, texts, sh) := assignWords e exports rest sh
        (others ++ [old], (name ++ '=' :: text) :: texts, sh)

/-- Writes a command to the standard error before it is run, if that was asked for. -/
def trace (outer : Descriptors) (texts : List Octets) (sh : Shell) : Shell :=
  if sh.has 'x' then
    let opening := (sh.value? "PS4".toList).getD []
    let sh' := (sh.withDescriptors outer).say (opening ++ [' '].intercalate texts ++ ['\n'])
    sh'.withDescriptors sh.descriptors
  else sh

/-! ### Programs -/

/-- Why a program did not start, and whether it was not even found. -/
structure StartFailure where
  cause : FileError
  isSought : Bool

namespace StartFailure

def reason (f : StartFailure) : String :=
  match f.cause with
  | .missing | .notDirectory => "not found"
  | cause => cause.reason

def status (f : StartFailure) : Nat :=
  match f.cause with
  | .missing | .notDirectory | .nameTooLong | .tooManyLinks => 127
  | _ => if f.isSought then 127 else 126

end StartFailure

/-- How many drawers there are for variables. -/
def variableDrawers : Nat := 39

/-- What a program finds around it: its environment is handed on drawer by drawer. -/
def handedOn (sh : Shell) : Process :=
  let p := sh.surroundings
  { p with environment := byDrawer variableDrawers (·.1) p.environment }

/-- Starts a program; a file that is none is read by another shell. -/
def start (e : Engine) (found : Except FileError Octets) (name : Octets)
    (arguments : List Octets) (sh : Shell) : Except StartFailure ExitStatus × Shell :=
  match found with
  | .error cause => (.error ⟨cause, true⟩, sh)
  | .ok path =>
    let begin_ (path called : Octets) (arguments : List Octets) (system : System) :=
      e.launch path called arguments sh.handedOn system
    let (result, system) :=
      match begin_ path name arguments sh.system with
      | (.error .notProgram, system) =>
        begin_ Program.shellPath Program.shellPath (path :: arguments) system
      | other => other
    (result.mapError (⟨·, false⟩), { sh with system })

/-- Says why a program did not start. -/
def refuseProgram (sh : Shell) (name : Octets) (f : StartFailure) : Shell :=
  sh.complain (name ++ Octets.ofText (": " ++ f.reason))

/-- Runs a program to its end. -/
def runProgram (e : Engine) (stance : Stance) (isStandard : Bool) (name : Octets)
    (arguments : List Octets) (sh : Shell) : Shell :=
  let (found, sh) :=
    if isStandard then (searchProgram sh standardPath name, sh) else sh.findProgram name
  match start e found name arguments sh with
  | (.ok status, sh) => sh.vacate.settle stance status
  | (.error f, sh) => (refuseProgram sh name f).finished f.status

/-- Lets a program take the place of the shell; without one, nothing happens. -/
def replaceShell (e : Engine) (words : List Octets) (sh : Shell) : Shell :=
  match words with
  | [] => sh.finished 0
  | name :: arguments =>
    match start e (searchProgram sh sh.searchPath name) name arguments sh with
    | (.ok status, sh) =>
      { sh with last := numberOf status, jump := some (.exit status .sudden) }
    | (.error f, sh) =>
      let sh := { sh with command := some "exec".toList }
      { (refuseProgram sh name f).exits f.status with command := none }

/-! ### Functions -/

/-- How many calls of functions may be open. -/
def callLimit : Nat := 1000

/-- Calls a function, which has arguments and variables of its own. -/
def callFunction (e : Engine) (stance : Stance) (body : Statement) (arguments : List Octets)
    (sh : Shell) : Shell :=
  if sh.calls ≥ callLimit then
    sh.abort (Octets.ofText "Maximum function recursion depth (1000) reached")
  else
    let inner := e.run body stance.inside
      { sh.restartOptions 1 with
        arguments, loops := 0, hidden := some ⟨[], none⟩, calls := sh.calls + 1 }
    let isOver := match inner.jump with
      | some (.exit ..) => true
      | _ => false
    let after := if isOver then inner else inner.hidden.elim inner inner.reveal
    { after with
      arguments := sh.arguments, loops := sh.loops, hidden := sh.hidden, calls := sh.calls
      optionIndex := sh.optionIndex, optionOffset := sh.optionOffset
      jump := match inner.jump with
        | some (.back _) => none
        | jump => jump }

/-! ### Simple commands -/

/-- Gives the descriptors of redirections the streams that they had before. -/
def undo (outer : Descriptors) (targets : List Target) (sh : Shell) : Shell :=
  sh.withDescriptors (targets.foldl (fun d t =>
    match outer.lookup t.descriptor with
    | some stream => d.set t.descriptor stream
    | none => d.close t.descriptor) sh.descriptors)

/-- Carries a command out. -/
def carryOut (e : Engine) (stance : Stance) (role : Role) (words : List Octets) (sh : Shell) :
    Shell :=
  match role, words with
  | .function body, _ :: arguments => callFunction e stance body arguments sh
  | .shell isSpecial command, name :: arguments =>
    perform e command isSpecial name arguments sh
  | .successor _, _ :: arguments => replaceShell e arguments sh
  | .program isStandard, name :: arguments => runProgram e stance isStandard name arguments sh
  | _, _ => sh.finished sh.substituted

/-- Runs a command whose redirections are made, with its assignments. -/
def runAssigned (e : Engine) (stance : Stance) (role : Role) (assignments : List (Octets × Word))
    (words left : List Octets) (outer : Descriptors) (sh : Shell) : Shell :=
  let exports := role.isBrief || (match role with
    | .successor _ => left.length > 1
    | _ => false)
  let (old, texts, sh) := assignWords e exports assignments sh
  if sh.isStopped then sh
  else
    let after := carryOut e stance role left (trace outer (texts ++ words) sh)
    let isOver := match after.jump with
      | some (.exit ..) => true
      | _ => false
    if role.isBrief && !isOver then old.foldl restore after else after

/-- Runs a simple command. -/
def simple (e : Engine) (stance : Stance) (line : Nat) (assignments : List (Octets × Word))
    (words : List Word) (redirections : List Redirection) (sh : Shell) : Shell :=
  let (found, sh) := commandFields e words { sh with line, substituted := 0 }
  if sh.isStopped then sh
  else
    let (targets, sh) := targetsOf (finish e) e redirections sh
    if sh.isStopped then sh
    else
      let outer := sh.descriptors
      let (role, left) := roleOf sh found
      match redirectAll (finish e) e true [] targets sh with
      | (false, sh) =>
        let sh := (undo outer targets sh).finished mistaken
        if role.isSpecial && !sh.isStopped then sh.fails else sh
      | (true, sh) =>
        let after := runAssigned e stance role assignments found left outer sh
        match role, left with
        | .successor _, [_] => after
        | _, _ => undo outer targets after

end Storyboard.Shell
