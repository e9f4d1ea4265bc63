import Storyboard.Shell.Command.Basic

/-!
The commands that have to do with what was left running beside the script. All of it has ended by
then, though the shell may not have noted that; what is told is how.
-/

namespace Storyboard.Shell

/-! ### Names of jobs -/

/-- The job that a text behind a percent sign calls by its number. -/
def jobAt? (sh : Shell) (text : Octets) : Option Job :=
  (numberIn text).toOption.bind fun n => sh.jobs.find? (·.place = n)

/-- The job that a text names: by its number, or as the current or the previous one. -/
def jobNamed (sh : Shell) (text : Octets) : Except Octets Job :=
  let orElse (job : Option Job) (reason : String) : Except Octets Job :=
    match job with
    | some job => .ok job
    | none => .error (Octets.ofText reason)
  match text with
  | ['%'] | ['%', '+'] | ['%', '%'] => orElse sh.jobs.head? "No current job"
  | ['%', '-'] => orElse sh.jobs.tail.head? "No previous job"
  | '%' :: number =>
    match sh.jobAt? number with
    | some job => .ok job
    | none => .error (Octets.ofText "No such job: " ++ text)
  | _ => .error (Octets.ofText "No such job: " ++ text)

/-! ### Waiting -/

/-- Notes the end of a job for which the script waits, and of those that were started before it. By
which signal it ended is told once. -/
def note (sh : Shell) (job : Job) : Nat × Shell :=
  let jobs := sh.jobs.map fun j =>
    { j with
      isNoted := j.isNoted || j.process ≤ job.process
      isAwaited := j.isAwaited || j.place = job.place }
  let after := { sh with jobs }
  (numberOf job.status, if job.isNoted then after else after.report job.status)

/-- The job that a text names by its number, its process or otherwise. -/
def awaited? (sh : Shell) (text : Octets) : Except Octets (Option Job) :=
  match text with
  | '%' :: _ => (sh.jobNamed text).map some
  | text => (numberIn text).map fun process => sh.jobs.find? (·.process = process)

/-- Waits for some jobs; the status is that of the last one that is known. -/
def waitEach : List Octets → Nat → Shell → Outcome
  | [], status, sh => sh.answers status
  | text :: rest, status, sh =>
    match sh.awaited? text with
    | .error reason => sh.refuses reason
    | .ok none => waitEach rest status sh
    | .ok (some job) =>
      let (status, sh) := sh.note job
      waitEach rest status sh

/-- Waits for all that was left running, or for some of it. -/
def wait : Command := fun _ arguments sh =>
  withOptions [] [] arguments sh fun _ arguments =>
    if arguments.isEmpty then
      let jobs := sh.jobs.map fun job => { job with isNoted := true, isAwaited := true }
      answers { sh with jobs } 0
    else waitEach arguments 127 sh

/-! ### Telling -/

/-- How a job stands, in words. -/
def Job.standing (job : Job) : String :=
  if !job.isNoted then "Running"
  else
    match job.status with
    | .exited 0 => "Done"
    | .exited code => "Done(" ++ toString code ++ ")"
    | .signalled number => Signal.reason number

/-- The column in which the command of a job would stand. -/
def commandColumn : Nat := 33

/-- The line that tells a job, with the numbers of its processes or without. -/
def jobLine (sh : Shell) (job : Job) (tellsProcess : Bool) : Octets :=
  let mark :=
    if sh.jobs.head?.any (·.place = job.place) then "+"
    else if sh.jobs.tail.head?.any (·.place = job.place) then "-"
    else " "
  let process := if tellsProcess then toString job.process ++ " " else ""
  let text := "[" ++ toString job.place ++ "] " ++ mark ++ " " ++ process ++ job.standing
  let gap := List.replicate (max 1 (commandColumn - text.length)) ' '
  let others := if tellsProcess then [] else List.replicate (job.parts - 1) " | "
  Octets.ofText text ++ gap ++ Octets.ofText (String.join others) ++ ['\n']

/-- Tells some jobs: their processes alone, or a line for each. One that has ended is forgotten with
its line. -/
def tellJobs (kind : Option Char) : List Job → Shell → Octets × Shell
  | [], sh => ([], sh)
  | job :: rest, sh =>
    if kind = some 'p' then
      let (lines, sh) := tellJobs kind rest sh
      ((toString job.process).toList ++ '\n' :: lines, sh)
    else
      let line := sh.jobLine job (kind = some 'l')
      let jobs := sh.jobs.filter fun j => j.place != job.place || !j.isNoted
      let (lines, sh) := tellJobs kind rest { sh with jobs }
      (line ++ lines, sh)

/-- Tells jobs by their names, in order, up to one that is not known. -/
def tellNamed (kind : Option Char) : List Octets → Shell → Outcome
  | [], sh => sh.answers 0
  | name :: rest, sh =>
    match sh.jobNamed name with
    | .error reason => sh.refuses reason
    | .ok job =>
      let (lines, sh) := tellJobs kind [job] sh
      let o := tellNamed kind rest sh
      { o with printed := lines ++ o.printed }

/-- Tells what was left running and how it ended. -/
def listJobs : Command := fun _ arguments sh =>
  withOptions ['l', 'p'] [] arguments sh fun given names =>
    let kind := given.getLast?.map (·.1)
    if names.isEmpty then
      let jobs := sh.jobs.map fun job => { job with isNoted := true }
      let (lines, sh) := tellJobs kind jobs { sh with jobs }
      sh.prints lines
    else tellNamed kind names sh

/-- Goes on with a job, which is refused, as jobs are not controlled. -/
def resumeJob : Command := fun _ arguments sh =>
  withOptions [] [] arguments sh fun _ names =>
    match sh.jobNamed (names.headD ['%']) with
    | .error reason => sh.refuses reason
    | .ok _ =>
      sh.refuses (Octets.ofText "job " ++ names.headD (Octets.ofText "(null)")
        ++ Octets.ofText " not created under job control")

end Storyboard.Shell
