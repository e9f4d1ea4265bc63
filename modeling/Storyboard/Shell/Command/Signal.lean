import Storyboard.Shell.Command.Job
import Storyboard.Shell.Expansion
import Storyboard.Text.Case

/-!
The commands that send signals, and that arrange what is done on them.
-/

namespace Storyboard.Shell

/-! ### Names of signals -/

/-- The signal whose name is no more than its number. -/
def unnamedSignal : Nat := 16

/-- Half of the signals without a meaning are named from the first one on, the others from the last
one back. -/
def lastCountedUp : Nat := 49

/-- The name by which the shell knows a signal; zero stands for its end. -/
def signalName (n : Nat) : String :=
  if n = 0 then "EXIT"
  else if n = unnamedSignal then toString n
  else if n = Signal.firstFree then "RTMIN"
  else if n = Signal.greatest then "RTMAX"
  else if Signal.firstFree < n then
    if n ≤ lastCountedUp then "RTMIN+" ++ toString (n - Signal.firstFree)
    else "RTMAX-" ++ toString (Signal.greatest - n)
  else (Signal.name? n).getD (toString n)

/-- The signal that a text names by its number or, from some signal on, by its name. -/
def signalOf? (least : Nat) (text : Octets) : Option Nat :=
  if !text.isEmpty && text.all Text.isAsciiDigit then
    let n := Arithmetic.valueIn 10 (text.map fun c => c.toNat - '0'.toNat)
    if n ≤ Signal.greatest then some n else none
  else
    (List.range (Signal.greatest + 1)).find? fun n =>
      least ≤ n && Text.sameWord (signalName n).toList text

/-! ### Sending -/

def killUsage : Octets :=
  Octets.ofText ("Usage: kill [-s sigspec | -signum | -sigspec] [pid | job]... or\n"
    ++ "kill -l [exitstatus]")

/-- Tells the names of the signals, or of the one that a status or number stands for. -/
def tellSignals (arguments : List Octets) (sh : Shell) : Outcome :=
  match arguments with
  | [] =>
    sh.prints (Octets.ofText (String.join
      ("0\n" :: (List.range Signal.greatest).map fun n => signalName (n + 1) ++ "\n")))
  | text :: _ =>
    match numberIn text with
    | .error reason => sh.refuses reason
    | .ok n =>
      let signal := if n > 128 then n - 128 else n
      if 0 < signal && signal ≤ Signal.greatest then
        sh.prints (Octets.ofText (signalName signal ++ "\n"))
      else sh.refuses (Octets.ofText "invalid signal number or exit status: " ++ text)

/-- The process that a text names. Jobs and groups are no processes that can be reached. -/
def processOf (sh : Shell) (text : Octets) : Except Octets (Option Nat) :=
  match text with
  | '%' :: _ => (sh.jobNamed text).map fun _ => none
  | '-' :: text => (numberIn text).map fun _ => none
  | text => (numberIn text).map some

/-- Sends a signal to the processes that some texts name. -/
def sendAll (signal : Nat) : List Octets → Nat → Shell → Outcome
  | [], status, sh => sh.answers status
  | text :: rest, status, sh =>
    match sh.processOf text with
    | .error reason => sh.refuses reason
    | .ok process =>
      match process.map fun process => sh.send process signal with
      | some (true, sh) => sendAll signal rest status sh
      | _ => sendAll signal rest 1 (sh.complain (Octets.ofText "No such process\n"))

/-- Reads the signal and the processes behind the options of `kill`. -/
def killWith (signal : Option Nat) (arguments : List Octets) (sh : Shell) : Outcome :=
  match arguments with
  | [] => sh.refuses killUsage
  | processes => sendAll (signal.getD Signal.terminate) processes 0 sh

/-- The signal that the options of `kill` name. -/
def chosenSignal : List (Char × Octets) → Except Octets (Option Nat)
  | [] => .ok none
  | ('s', text) :: rest => do
    match signalOf? 1 text with
    | some n => return ((← chosenSignal rest).or (some n))
    | none => .error (Octets.ofText "invalid signal number or name: " ++ text)
  | _ :: rest => chosenSignal rest

/-- Sends a signal to processes, or tells the names of the signals. -/
def kill : Command := fun _ arguments sh =>
  match arguments with
  | ('-' :: name) :: rest =>
    match signalOf? 1 name with
    | some n => killWith (some n) rest sh
    | none =>
      withOptions ['l'] ['s'] arguments sh fun given rest =>
        match chosenSignal given with
        | .error reason => sh.refuses reason
        | .ok signal =>
          if given.any (·.1 = 'l') then
            if signal.isSome then sh.refuses killUsage else tellSignals rest sh
          else killWith signal rest sh
  | arguments => killWith none arguments sh

/-! ### Arrangements -/

/-- The lines that tell what is arranged for signals. -/
def toldTraps (sh : Shell) : Octets :=
  (List.range (Signal.greatest + 1)).flatMap fun n =>
    match sh.traps.lookup n with
    | some action =>
      Octets.ofText "trap -- " ++ quoted action ++ Octets.ofText (" " ++ signalName n ++ "\n")
    | none => []

/-- Arranges for some signals what is to be done, or that nothing is. -/
def arrangeAll (action : Option Octets) : List Octets → Shell → Outcome
  | [], sh => sh.answers 0
  | name :: rest, sh =>
    match signalOf? 0 name with
    | none =>
      answers (sh.say (Octets.ofText "trap: " ++ name ++ Octets.ofText ": bad trap\n")) 1
    | some n =>
      let others := sh.traps.filter (·.1 != n)
      let traps :=
        match action with
        | some action => (n, action) :: others
        | none => others
      arrangeAll action rest { sh with traps }

/-- Arranges what is to be done on signals, or tells what is arranged. -/
def trap : Command := fun _ arguments sh =>
  withOptions [] [] arguments sh fun _ arguments =>
    match arguments with
    | [] => sh.prints (toldTraps sh)
    | [_] => arrangeAll none arguments sh
    | action :: rest =>
      let isNumber := !action.isEmpty && action.all Text.isAsciiDigit && (signalOf? 0 action).isSome
      if isNumber then arrangeAll none arguments sh
      else arrangeAll (if action = ['-'] then none else some action) rest sh

end Storyboard.Shell
