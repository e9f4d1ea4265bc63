import Storyboard.Program.Search
import Storyboard.Shell.Command.Basic
import Storyboard.Shell.Redirect

/-!
The commands that lead elsewhere: out of loops, functions and the shell, and into other texts.
-/

namespace Storyboard.Shell

/-- Ends the shell. While a signal is answered, its status is the one from before. -/
def exit : Command := fun _ arguments sh =>
  match arguments with
  | [] =>
    let status := sh.interrupted.getD sh.last
    answers (sh.exits status) status
  | text :: _ =>
    match numberIn text with
    | .ok n => answers (sh.exits (n % 256)) (n % 256)
    | .error reason => sh.refuses reason

/-- Leaves the function or the text that runs. -/
def goBack : Command := fun _ arguments sh =>
  match arguments with
  | [] => answers { sh with jump := some (.back false) } sh.last
  | text :: _ =>
    match numberIn text with
    | .ok n => answers { sh with jump := some (.back true) } n
    | .error reason => sh.refuses reason

/-- Leaves loops, or goes on with the next round of one. -/
def leaving (jump : Nat → Jump) : Command := fun _ arguments sh =>
  match (arguments.head?.map numberIn).getD (.ok 1) with
  | .error reason => sh.refuses reason
  | .ok 0 => sh.refuses (Condition.Fault.badNumber (arguments.headD [])).message
  | .ok n =>
    let loops := min n sh.loops
    if loops = 0 then sh.answers 0 else answers { sh with jump := some (jump loops) } 0

/-- Runs its arguments as a text. -/
def evaluateText : Command := fun e arguments sh =>
  let sh := runText e .ordinary false ([' '].intercalate arguments) sh
  sh.answers sh.last

/-- The path of a text that is to be run. -/
def textPath (sh : Shell) (name : Octets) : Except Octets Octets :=
  if name.contains '/' then .ok name
  else
    let paths := (Program.folders sh.searchPath).map (Program.under · name)
    match paths.find? (isThere sh) with
    | some path => .ok path
    | none => .error (name ++ Octets.ofText ": not found")

/-- Runs the text in a file. -/
def source : Command := fun e arguments sh =>
  withOptions [] [] arguments sh fun _ arguments =>
    match arguments with
    | [] => sh.answers 0
    | name :: _ =>
      match textPath sh name with
      | .error reason => sh.refuses reason
      | .ok path =>
        match sh.surroundings.openToRead path sh.system with
        | (.error cause, system) =>
          refuses { sh with system }
            (Octets.ofText "cannot open " ++ path ++ Octets.ofText (": " ++ openingReason cause))
        | (.ok stream, system) =>
          let (text, system) := system.read stream none
          let text := match text with
            | .ok bytes => Octets.ofBytes bytes
            | .error _ => []
          let after := runText e .ordinary true text { sh with system, command := some path }
          let after := { after with command := sh.command }
          match after.jump with
          | some (.back _) => answers { after with jump := none } after.last
          | _ => after.answers after.last

end Storyboard.Shell
