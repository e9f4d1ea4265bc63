import Storyboard.Program.Tool
import Storyboard.Shell.Run

/-!
The shell as a program: its options, and the script that it runs, which is an argument, a file or
what it reads.
-/

namespace Storyboard.Shell

/-- The variables that a shell has from the start, apart from those around it. -/
def standardVariables (p : Process) : List (String × Octets) :=
  [("IFS", standardSeparators), ("PS1", "# ".toList), ("PS2", "> ".toList), ("PS4", "+ ".toList),
   ("OPTIND", ['1']), ("PPID", decimal p.parent)]

/-- The variables that keep what is around the shell, or are set where nothing is. -/
def keptVariables : List String :=
  ["PS1", "PS2", "PS4"]

/-- Whether a path from the root leads to the folder of a process. -/
def isFolderOf (p : Process) (path : Octets) : Bool :=
  path.head? = some '/' && locationFrom p path = p.folder

/-- The variables of a shell that starts. -/
def startingVariables (p : Process) : List Variable :=
  let given := (p.environment.filter fun v => isName v.1).map fun (name, value) =>
    (⟨name, some value, true, false⟩ : Variable)
  let isGiven (name : String) : Bool := given.any (·.name = name.toList)
  let own := (standardVariables p).filter fun v => !(keptVariables.contains v.1 && isGiven v.1)
  let others := given.filter fun v => v.name != place && !own.any (·.1.toList = v.name)
  let path :=
    if isGiven "PATH" then [] else [⟨searchVariable, some Shell.standardPath, false, false⟩]
  let folder := ((p.setting? "PWD").filter (isFolderOf p)).getD (folderText p.folder)
  others ++ path ++ ⟨place, some folder, true, false⟩
    :: own.map fun (name, value) => ⟨name.toList, some value, false, false⟩
where
  place : Octets := "PWD".toList

/-- A shell that has just been started. -/
def starting (called : Octets) (p : Process) (s : System) : Shell :=
  let (number, system) := s.addProcess
  { name := called
    arguments := []
    bindings := startingVariables p
    functions := []
    aliases := []
    found := []
    options := []
    traps := []
    descriptors := p.descriptors
    folder := p.folder
    mask := p.mask
    limits := p.limits
    ignored := p.ignored
    last := 0
    substituted := 0
    jobs := []
    lastJob := none
    main := number
    process := number
    loops := 0
    jump := none
    hidden := none
    line := 0
    readLine := 0
    command := none
    documents := []
    announced := 0
    optionIndex := 1
    optionOffset := none
    calls := 0
    interrupted := none
    system }

/-! ### Arguments -/

/-- What has been read of the arguments of a shell. -/
structure StartArguments where
  shell : Shell
  printed : Octets
  /-- Whether the script is the next argument. -/
  isCommand : Bool
  rest : List Octets

/-- Reads the letters of one argument. -/
def startLetters (isOn : Bool) : Octets → StartArguments → Except Octets StartArguments
  | [], a => .ok a
  | 'c' :: more, a => startLetters isOn more { a with isCommand := true }
  | 'l' :: more, a => startLetters isOn more a
  | 'o' :: more, a =>
    match a.rest with
    | [] =>
      startLetters isOn more { a with printed := a.printed ++ a.shell.toldSettings isOn }
    | name :: rest => do
      startLetters isOn more { a with shell := ← a.shell.turnName isOn name, rest }
  | c :: more, a => do
    startLetters isOn more { a with shell := ← a.shell.turnLetter isOn c }

/-- Reads the options in front of the arguments; the first argument bounds their number. -/
def startOptions : Nat → StartArguments → Except Octets StartArguments
  | 0, a => .ok a
  | count + 1, a =>
    match a.rest with
    | ['-'] :: rest | ['-', '-'] :: rest => .ok { a with rest }
    | (c :: letters) :: rest =>
      if c = '-' || c = '+' then do
        startOptions count (← startLetters (c = '-') letters { a with rest })
      else .ok a
    | _ => .ok a

/-- Complains before any line is read. -/
def refuseStart (sh : Shell) (reason : Octets) : ExitStatus × System :=
  (.exited mistaken, ({ sh with line := 0 }.complain reason).system)

/-- The shell whose arguments are read. One that talks to somebody asks for the control of jobs. -/
def settled (sh : Shell) : Shell :=
  (if sh.has 'i' then sh.turn true 'm' else sh).refuseControl

/-- All that a stream holds; one that cannot be read holds nothing. -/
def textOfStream (s : System) (stream : Option Nat) : Octets × System :=
  match stream.map fun stream => s.read stream none with
  | some (.ok bytes, s) => (Octets.ofBytes bytes, s)
  | some (.error _, s) => ([], s)
  | none => ([], s)

/-- Runs the text that the shell reads from its standard input. -/
def runInput (launch : Launch) (sh : Shell) : Shell :=
  let (text, system) := textOfStream sh.system (sh.descriptors.lookup 0)
  runText (engine launch) .ordinary true text { sh with system }

/-- Runs a script that is an argument, and what is read too if that was asked for. -/
def runArgument (launch : Launch) (text : Octets) (sh : Shell) : Shell :=
  if sh.has 's' then
    let sh := runText (engine launch) .ordinary false text sh
    if sh.isStopped then sh else runInput launch sh
  else runText (engine launch) .last false text sh

/-- Runs the script in a file. -/
def runFile (launch : Launch) (called path : Octets) (arguments : List Octets) (p : Process)
    (sh : Shell) : ExitStatus × System :=
  match p.openToRead path sh.system with
  | (.error cause, system) =>
    let reason := "cannot open ".toList ++ path ++ Octets.ofText (": " ++ openingReason cause)
    refuseStart { sh with system, name := called } reason
  | (.ok stream, system) =>
    let (text, system) := textOfStream system (some stream)
    let (status, sh) :=
      runScript launch text (settled { sh with system, name := path, arguments })
    (status, sh.system)

/-- The shell as a program. -/
def tool (launch : Launch) : Tool := fun called arguments p s =>
  let sh := starting called p s
  match startOptions arguments.length ⟨sh, [], false, arguments⟩ with
  | .error reason => refuseStart sh reason
  | .ok a =>
    let sh := if a.printed.isEmpty then a.shell else (a.shell.write 1 a.printed).2
    match a.isCommand, a.rest with
    | true, [] => refuseStart sh (Octets.ofText "-c requires an argument")
    | true, text :: rest =>
      let sh := settled { sh with name := rest.headD called, arguments := rest.tail }
      let (status, sh) := finish (engine launch) (runArgument launch text sh)
      (status, sh.system)
    | false, rest =>
      match rest with
      | path :: others =>
        if sh.has 's' then
          let (status, sh) :=
            finish (engine launch) (runInput launch (settled { sh with arguments := rest }))
          (status, sh.system)
        else runFile launch called path others p sh
      | [] =>
        let (status, sh) := finish (engine launch) (runInput launch (settled (sh.turn true 's')))
        (status, sh.system)

end Storyboard.Shell
