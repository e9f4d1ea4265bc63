import Storyboard.Shell.Command.Search
import Storyboard.Shell.Script

/-!
Copies of the shell: statements that run in a shell of their own, alone, behind each other's output
or beside the script.
-/

namespace Storyboard.Shell

/-- Whether something is to be done before the shell may end. -/
def hasTraps (sh : Shell) : Bool :=
  sh.traps.any (!·.2.isEmpty)

/-- Notes how a program or a copy ended. Where nothing comes behind it, the shell ends so too. -/
def settle (sh : Shell) (stance : Stance) (status : ExitStatus) : Shell :=
  if stance.isLast && !sh.hasTraps then
    { sh with last := numberOf status, jump := some (.exit status .sudden) }
  else sh.await status

/-- Ends the shell after a failure that is no answer, if that was asked for. -/
def checked (sh : Shell) (stance : Stance) : Shell :=
  if sh.has 'e' && !stance.isTested && sh.last ≠ 0 && !sh.isStopped then sh.exits sh.last else sh

/-- Runs a statement in a copy of the shell, to the end of that copy. -/
def runCopy (e : Engine) (stance : Stance) (body : Statement) (child : Shell) :
    ExitStatus × Shell :=
  finish e (e.run body stance.forked child)

/-- Gives a shell the output of another one to read. -/
def feed (input : Option ByteArray) (sh : Shell) : Shell :=
  match input with
  | some bytes => sh.attach 0 (.source bytes 0)
  | none => sh

/-- Seeks the program of a part of a pipe, if a plain name says which it is. -/
def seekPart (part : Statement) (sh : Shell) : Shell :=
  match part with
  | .simple _ _ (word :: _) _ | .sequence [.simple _ _ (word :: _) _] =>
    match Word.literal? word with
    | some name =>
      if isName name && (sh.functions.lookup name).isNone && !isCommand name then
        (sh.findProgram name).2
      else sh
    | none => sh
  | _ => sh

/-- Runs the parts of a pipe, each in a copy of the shell that reads what the one before prints. -/
def runPipe (e : Engine) (stance : Stance) : Option ByteArray → List Statement → Shell →
    ExitStatus × Shell
  | _, [], sh => (.success, sh)
  | input, [part], sh =>
    let sh := seekPart part sh
    let (status, child) := runCopy e stance part (feed input sh.fork)
    (status, (sh.join child).report status)
  | input, part :: rest, sh =>
    let sh := seekPart part sh
    let child := (feed input sh.fork).attach 1 (.gathering .empty)
    let stream := child.descriptors.lookup 1
    let (status, child) := runCopy e stance part child
    let output := (stream.map child.system.gathered).getD .empty
    runPipe e stance (some output) rest ((sh.join child).report status)

/-- A copy of the shell that runs beside the script: it has nothing to read, and signals from the
keyboard do not reach it. -/
def forkBeside (sh : Shell) : Shell :=
  let child := sh.fork.attach 0 (.device .void)
  { child with ignored := Signal.interrupt :: Signal.quit :: child.ignored }

/-- Runs a statement beside the script, at once. -/
def runBeside (e : Engine) (body : Statement) (sh : Shell) : Shell :=
  let (status, child) := runCopy e .last body sh.forkBeside
  let (place, sh) := (sh.join child).takePlace
  let parts := match body with
    | .pipe parts => parts.length
    | _ => 1
  let job : Job := ⟨place, child.process, parts, status, false, false⟩
  { sh with jobs := job :: sh.jobs, lastJob := some child.process, last := 0 }

end Storyboard.Shell
