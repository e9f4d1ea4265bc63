import Storyboard.Shell.Command.Alias
import Storyboard.Shell.Command.Flow
import Storyboard.Shell.Command.Limit
import Storyboard.Shell.Command.Place
import Storyboard.Shell.Command.Printing
import Storyboard.Shell.Command.Rights
import Storyboard.Shell.Command.Setting
import Storyboard.Shell.Command.Signal

/-!
The commands of the shell by their names, and how one is carried out.
-/

namespace Storyboard.Shell

/-- Ends with a status. -/
def ending (status : Nat) : Command :=
  fun _ _ sh => sh.answers status

/-- The command of a name, apart from those that start programs themselves. -/
def command? (name : Octets) : Option Command :=
  match String.ofList name with
  | ":" | "true" => some (ending 0)
  | "false" => some (ending 1)
  | "echo" => some echo
  | "printf" => some printf
  | "test" => some test
  | "[" => some bracket
  | "exit" => some exit
  | "return" => some goBack
  | "break" => some (leaving .leave)
  | "continue" => some (leaving .resume)
  | "eval" => some evaluateText
  | "." => some source
  | "export" => some exporting
  | "readonly" => some protecting
  | "unset" => some unset
  | "local" => some localize
  | "read" => some read
  | "set" => some set
  | "shift" => some shift
  | "getopts" => some readOption
  | "kill" => some kill
  | "trap" => some trap
  | "wait" => some wait
  | "jobs" => some listJobs
  | "fg" | "bg" => some resumeJob
  | "cd" | "chdir" => some changeFolder
  | "pwd" => some tellFolder
  | "umask" => some fileMask
  | "ulimit" => some limitUse
  | "times" => some times
  | "type" => some describe
  | "hash" => some rememberPrograms
  | "alias" => some giveAlias
  | "unalias" => some dropAlias
  | _ => none

/-- Writes what a command prints; the status tells when that fails. -/
def writePrinted (name text : Octets) (status : Nat) (sh : Shell) : Nat × Shell :=
  if text.isEmpty then (status, sh)
  else
    match sh.write 1 text with
    | (false, sh) => (status, sh)
    | (true, sh) => (status ||| 1, sh.complain (name ++ Octets.ofText ": I/O error"))

/-- What a mistake means for the command in which it was made: it ends the shell only if the command
is special. -/
def borne (isSpecial : Bool) (sh : Shell) : Shell :=
  match sh.jump with
  | some (.exit _ .mistake) => if isSpecial then sh else { sh with jump := none }
  | _ => sh

/-- Carries out a command. A special command that is refused ends the shell. -/
def perform (e : Engine) (command : Command) (isSpecial : Bool) (name : Octets)
    (arguments : List Octets) (sh : Shell) : Shell :=
  let outer := sh.command
  let o := command e arguments { sh with command := some name }
  match o.result with
  | .ok status =>
    let (status, after) := writePrinted name o.printed status o.shell
    borne isSpecial { after with command := outer, last := status }
  | .error reason =>
    let after := (writePrinted name o.printed 0 (o.shell.complain reason)).2
    let after := { after with command := outer, last := mistaken }
    if isSpecial then after.fails else after

end Storyboard.Shell
