import Storyboard.Program.Basic
import Storyboard.Shell.Reading

/-!
The state of a shell: its variables, functions and traps, the streams that it has open, and where it
stands in its script.
-/

namespace Storyboard

namespace Shell

structure Variable where
  name : Octets
  /-- The value, once there is one. -/
  value : Option Octets
  isExported : Bool
  isReadOnly : Bool

/-- Why a shell ends. -/
inductive Ending where
  /-- Because it is told to. -/
  | stated
  /-- Because of a mistake, which the command that has led to it may bear. -/
  | mistake
  /-- Because a program has taken its place or a signal has come: what was arranged for its end is
  not done. -/
  | sudden
deriving DecidableEq

/-- Why the statements that follow are not run. -/
inductive Jump where
  /-- Leaves some loops. -/
  | leave (loops : Nat)
  /-- Leaves all but the last of some loops, and goes on with that one. -/
  | resume (loops : Nat)
  /-- Leaves a function or a script, whether or not its status was stated. -/
  | back (isStated : Bool)
  | exit (status : ExitStatus) (ending : Ending)

/-- What was left running beside the script. -/
structure Job where
  /-- The number by which it is called, from one on. -/
  place : Nat
  /-- The process whose end is its end. -/
  process : Nat
  /-- How many processes it has. -/
  parts : Nat
  status : ExitStatus
  /-- Whether the shell has noted its end. -/
  isNoted : Bool
  /-- Whether the script has waited for it, so that its place may be taken. -/
  isAwaited : Bool

/-- Where a program was found. -/
structure FoundProgram where
  name : Octets
  path : Octets
  /-- Whether it is to be sought anew when it is run, as the shell has gone to another folder. -/
  isStale : Bool

/-- What a function keeps for its own while it runs, as it was before. -/
structure Hidden where
  bindings : List (Octets × Option Variable)
  options : Option (List Char)

end Shell

structure Shell where
  /-- The name under which the script runs. -/
  name : Octets
  arguments : List Octets
  bindings : List Shell.Variable
  functions : List (Octets × Shell.Statement)
  /-- The texts that stand for some words where a command begins. -/
  aliases : List (Octets × Octets)
  /-- The programs that were found along the search path. -/
  found : List Shell.FoundProgram
  /-- The letters of the options that are on. -/
  options : List Char
  /-- What is to be done on some signals, and at the end under the number zero. -/
  traps : List (Nat × Octets)
  descriptors : Descriptors
  folder : Location
  /-- The rights that are kept from the files that are made. -/
  mask : Nat
  /-- The limits on what may be used, by their letters. -/
  limits : List (Char × Limit)
  /-- The signals that are ignored whatever is arranged. -/
  ignored : List Nat
  /-- The status of the last command. -/
  last : Nat
  /-- The status of the last command whose output was used. -/
  substituted : Nat
  /-- What was left running, the latest in front. -/
  jobs : List Shell.Job
  /-- The process of the last job. -/
  lastJob : Option Nat
  /-- The number by which the script knows its process. -/
  main : Nat
  /-- The number of the process itself. -/
  process : Nat
  /-- How many loops are open. -/
  loops : Nat
  jump : Option Shell.Jump
  /-- In a function, what it keeps for its own. -/
  hidden : Option Shell.Hidden
  /-- The line of the command that runs. -/
  line : Nat
  /-- The line up to which the script is read. -/
  readLine : Nat
  /-- The command of the shell that runs. -/
  command : Option Octets
  /-- The texts that the script holds. -/
  documents : List (Nat × Shell.Word)
  announced : Nat
  /-- The number of the argument whose options are read next. -/
  optionIndex : Nat
  /-- How far the reading of options has come in the argument before that one. -/
  optionOffset : Option Nat
  /-- How many calls of functions are open. -/
  calls : Nat
  /-- While a signal is answered, the status from before. -/
  interrupted : Option Nat
  system : System

namespace Shell

/-! ### Drawers -/

/-- The drawer in which something is kept by its name, of so many. -/
def drawer (count : Nat) (name : Octets) : Nat :=
  name.foldl (fun n c => n + c.toNat) ((name.headD '\x00').toNat * 16) % count

/-- Things in the order of their drawers, and in their own order within each. -/
def byDrawer {α : Type} (count : Nat) (name : α → Octets) (things : List α) : List α :=
  things.mergeSort fun a b => drawer count (name a) ≤ drawer count (name b)

/-! ### Variables -/

def binding? (sh : Shell) (name : Octets) : Option Variable :=
  sh.bindings.find? (·.name = name)

/-- The value of a variable. -/
def value? (sh : Shell) (name : Octets) : Option Octets :=
  (sh.binding? name).bind (·.value)

/-- The variable that tells where programs are sought. -/
def searchVariable : Octets :=
  "PATH".toList

/-- Where the shell seeks programs. -/
def searchPath (sh : Shell) : Octets :=
  (sh.value? searchVariable).getD []

/-- Forgets where programs were found, if a variable tells where they are sought. -/
def forgetFound (sh : Shell) (name : Octets) : Shell :=
  if name = searchVariable then { sh with found := [] } else sh

/-- Puts a variable in the place of the one of its name. -/
def setVariable (sh : Shell) (v : Variable) : Shell :=
  if (sh.binding? v.name).isSome then
    { sh with bindings := sh.bindings.map fun w => if w.name = v.name then v else w }
  else { sh with bindings := sh.bindings ++ [v] }

def dropVariable (sh : Shell) (name : Octets) : Shell :=
  { sh with bindings := sh.bindings.filter (·.name != name) }

/-- Brings a variable back to what it was. -/
def restore (sh : Shell) : Octets × Option Variable → Shell
  | (name, some v) => (sh.setVariable v).forgetFound name
  | (name, none) => (sh.dropVariable name).forgetFound name

/-- Brings back what a function has kept for its own. -/
def reveal (sh : Shell) (h : Hidden) : Shell :=
  { h.bindings.foldl restore sh with options := h.options.getD sh.options }

def has (sh : Shell) (option : Char) : Bool :=
  sh.options.contains option

/-- Starts the reading of options anew from an argument. -/
def restartOptions (sh : Shell) (index : Nat) : Shell :=
  { sh with optionIndex := max 1 index, optionOffset := none }

/-- The variable that tells which argument is read for options next. -/
def optionVariable : Octets :=
  "OPTIND".toList

/-- Gives a variable a value; one that may only be read refuses it. -/
def assign (sh : Shell) (name value : Octets) (exports : Bool) : Except Octets Shell :=
  let old := sh.binding? name
  if old.any (·.isReadOnly) then .error (name ++ ": is read only".toList)
  else
    let sh :=
      if name = optionVariable then sh.restartOptions ((String.ofList value).toNat?.getD 0)
      else sh
    .ok ((sh.setVariable
      ⟨name, some value, exports || sh.has 'a' || old.any (·.isExported), false⟩).forgetFound name)

/-! ### Streams -/

/-- What the programs find that the shell starts. -/
def surroundings (sh : Shell) : Process :=
  ⟨sh.bindings.filterMap fun v =>
      if v.isExported then v.value.map fun value => (v.name, value) else none,
    sh.descriptors, sh.folder, sh.process, sh.mask, sh.limits,
    sh.ignored ++ sh.traps.filterMap fun (signal, action) =>
      if action.isEmpty && signal ≠ 0 then some signal else none⟩

/-- Writes a text to a descriptor; whether that failed. -/
def write (sh : Shell) (descriptor : Nat) (text : Octets) : Bool × Shell :=
  let (r, system) := sh.surroundings.write descriptor (Octets.toBytes text) sh.system
  (!r.isOk, { sh with system })

/-- Writes to the standard error. -/
def say (sh : Shell) (text : Octets) : Shell :=
  (sh.write 2 text).2

/-- The opening of complaints about a line of the script. -/
def heading (sh : Shell) (line : Nat) : Octets :=
  sh.name ++ ": ".toList ++ (toString line).toList ++ ": ".toList
    ++ (match sh.command with
      | some name => name ++ ": ".toList
      | none => [])

/-- Says what is wrong with the command that runs. -/
def complain (sh : Shell) (text : Octets) : Shell :=
  sh.say (sh.heading sh.line ++ text ++ ['\n'])

/-! ### Status -/

/-- The status by which the shell knows how a program ended. -/
def numberOf : ExitStatus → Nat
  | .exited code => code
  | .signalled number => 128 + number

def finished (sh : Shell) (status : Nat) : Shell :=
  { sh with last := status }

/-- The status of a mistake. -/
def mistaken : Nat := 2

/-- Ends the shell with the status of the last command. -/
def exits (sh : Shell) (status : Nat) : Shell :=
  { sh with last := status, jump := some (.exit (.exited status) .stated) }

/-- Ends the shell because of a mistake. -/
def fails (sh : Shell) : Shell :=
  { sh with last := mistaken, jump := some (.exit (.exited mistaken) .mistake) }

/-- Complains and ends the shell. -/
def abort (sh : Shell) (text : Octets) : Shell :=
  (sh.complain text).fails

def isStopped (sh : Shell) : Bool :=
  sh.jump.isSome

/-! ### Signals -/

/-- Whether a signal ends the shell at once. -/
def isFatal (sh : Shell) (signal : Nat) : Bool :=
  signal = Signal.kill
    || ((sh.traps.lookup signal).isNone && !Signal.isHarmless signal && !sh.ignored.contains signal)

/-- Ends the shell by a signal. -/
def endBy (sh : Shell) (signal : Nat) : Shell :=
  { sh with jump := some (.exit (.signalled signal) .sudden) }

/-- Whether a process that the shell has left running is known to be gone. -/
def isGone (sh : Shell) (process : Nat) : Bool :=
  match sh.jobs.find? (·.process = process) with
  | some job => job.isNoted
  | none => sh.lastJob = some process

/-- Sends a signal to a process; whether there is such a process. -/
def send (sh : Shell) (process signal : Nat) : Bool × Shell :=
  if process = sh.process || process = sh.main then
    if signal = 0 then (true, sh)
    else if process = sh.process && sh.isFatal signal then (true, sh.endBy signal)
    else
      (true, { sh with
        system := { sh.system with signals := sh.system.signals ++ [(process, signal)] } })
  else if sh.isGone process then (false, sh)
  else if sh.jobs.any (·.process = process) then (true, sh)
  else if 0 < process && process ≤ sh.system.processes then
    if signal = 0 then (true, sh)
    else
      (true, { sh with
        system := { sh.system with signals := sh.system.signals ++ [(process, signal)] } })
  else (false, sh)

/-- The signals that have come for the shell. -/
def takeSignals (sh : Shell) : List Nat × Shell :=
  let (own, others) := sh.system.signals.partition (·.1 = sh.process)
  (own.map (·.2), { sh with system := { sh.system with signals := others } })

/-! ### Shells of their own -/

/-- The first place for a job that is free or may be taken; the number bounds the places. -/
def roomFrom (jobs : List Job) : Nat → Nat → Nat
  | 0, place => place
  | count + 1, place =>
    if jobs.any fun job => job.place = place && !job.isAwaited then roomFrom jobs count (place + 1)
    else place

/-- Takes a place for a job, whose former holder is forgotten. -/
def takePlace (sh : Shell) : Nat × Shell :=
  let place := roomFrom sh.jobs sh.jobs.length 1
  (place, { sh with jobs := sh.jobs.filter (·.place != place) })

/-- The shell once a copy of it or a program was started for which it waits. -/
def vacate (sh : Shell) : Shell :=
  sh.takePlace.2

/-- A shell of its own that starts as a copy: what was arranged for signals does not hold in it,
except that they are ignored. -/
def fork (sh : Shell) : Shell :=
  let (process, system) := sh.system.addProcess
  { sh with
    process, system, jump := none, jobs := [], interrupted := none
    traps := sh.traps.filter (·.2.isEmpty) }

/-- Ends the shell if a signal has come that does so. -/
def heed (sh : Shell) : Shell :=
  match sh.system.signals.find? fun s => s.1 = sh.process && sh.isFatal s.2 with
  | some (_, signal) => sh.endBy signal
  | none => sh

/-- The shell after one of its copies has ended. -/
def join (sh child : Shell) : Shell :=
  heed
    { sh with system := child.system, documents := child.documents, announced := child.announced }

/-- Tells by which signal a program ended that the shell has waited for. -/
def report (sh : Shell) (status : ExitStatus) : Shell :=
  match status with
  | .signalled n =>
    if n = Signal.interrupt || n = Signal.brokenPipe then sh
    else sh.say (Octets.ofText (Signal.reason n) ++ ['\n'])
  | .exited _ => sh

/-- Notes how a program ended that the shell has waited for. -/
def await (sh : Shell) (status : ExitStatus) : Shell :=
  (sh.report status).finished (numberOf status)

/-- The shell with some descriptors. -/
def withDescriptors (sh : Shell) (descriptors : Descriptors) : Shell :=
  { sh with descriptors }

/-- Gives a descriptor a new stream. -/
def attach (sh : Shell) (descriptor : Nat) (content : Stream) : Shell :=
  let (stream, system) := sh.system.addStream content
  { sh with system, descriptors := sh.descriptors.set descriptor stream }

/-- What the place of a statement means for it. -/
structure Stance where
  /-- Whether its failure is an answer, and no reason to end. -/
  isTested : Bool
  /-- Whether the shell ends behind it, so that a program may take its place. -/
  isLast : Bool

namespace Stance

def ordinary : Stance := ⟨false, false⟩

def tested : Stance := ⟨true, false⟩

def last : Stance := ⟨false, true⟩

/-- The place of a statement behind which others come. -/
def inside (s : Stance) : Stance := { s with isLast := false }

/-- The place of the statement with which a copy of the shell ends. -/
def forked (s : Stance) : Stance := { s with isLast := true }

end Stance

/-- What statements need to be run: a way to run those within them, and to start programs. -/
structure Engine where
  run : Statement → Stance → Shell → Shell
  launch : Launch

end Shell

end Storyboard
