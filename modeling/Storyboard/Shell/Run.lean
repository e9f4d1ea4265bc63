import Storyboard.Shell.Call

/-!
The running of statements. Every statement changes the shell, and signals that have come are
answered behind it.
-/

namespace Storyboard.Shell

/-! ### Loops -/

/-- How a loop goes on behind a part of it. -/
inductive Course where
  | onward
  /-- With the next round. -/
  | again
  | out
deriving DecidableEq

/-- What a jump means for the loop that it meets. -/
def meetLoop (sh : Shell) : Course × Shell :=
  match sh.jump with
  | none => (.onward, sh)
  | some (.leave loops) =>
    (.out, { sh with jump := if loops ≤ 1 then none else some (.leave (loops - 1)) })
  | some (.resume loops) =>
    if loops ≤ 1 then (.again, { sh with jump := none })
    else (.out, { sh with jump := some (.resume (loops - 1)) })
  | some _ => (.out, sh)

/-- Whether the shell goes back with a status that was stated. -/
def isStatedBack (sh : Shell) : Bool :=
  match sh.jump with
  | some (.back isStated) => isStated
  | _ => false

/-- Repeats a body by a condition; the first argument bounds the rounds, the second is the status so
far. -/
def rounds (e : Engine) (stance : Stance) (untilTrue : Bool) (condition body : Statement) :
    Nat → Nat → Shell → Shell
  | 0, status, sh => sh.finished status
  | count + 1, status, sh =>
    let sh := e.run condition .tested sh
    let isStated := isStatedBack sh
    match meetLoop sh with
    | (.out, sh) => if isStated then sh else sh.finished status
    | (.again, sh) => rounds e stance untilTrue condition body count status sh
    | (.onward, sh) =>
      if (sh.last = 0) = untilTrue then sh.finished status
      else
        let sh := e.run body stance.inside sh
        let status := sh.last
        match meetLoop sh with
        | (.out, sh) => sh.finished status
        | (_, sh) => rounds e stance untilTrue condition body count status sh

/-- How many rounds a loop may take. -/
def roundLimit : Nat := 1000000

/-- Repeats a body for the values of a variable. -/
def eachValue (e : Engine) (stance : Stance) (name : Octets) (body : Statement) :
    Nat → List Octets → Shell → Shell
  | status, [], sh => sh.finished status
  | _, value :: rest, sh =>
    match sh.assign name value false with
    | .error reason => sh.abort reason
    | .ok sh =>
      let sh := e.run body stance.inside sh
      let status := sh.last
      match meetLoop sh with
      | (.out, sh) => sh.finished status
      | (_, sh) => eachValue e stance name body status rest sh

/-- The shell in one more loop. -/
def inLoop (f : Shell → Shell) (sh : Shell) : Shell :=
  { f { sh with loops := sh.loops + 1 } with loops := sh.loops }

/-! ### Selections -/

/-- Whether a text matches one of some patterns. -/
def matchesAny (e : Engine) (text : Octets) : List Word → Shell → Bool × Shell
  | [], sh => (false, sh)
  | w :: rest, sh =>
    let (found, sh) := cells (finish e) e .single w sh
    if sh.isStopped then (false, sh)
    else if Pattern.fits (Pattern.ofMarked (Cell.marked found)) text then (true, sh)
    else matchesAny e text rest sh

/-- The body of the first arm that has a pattern for a text. -/
def armFor (e : Engine) (text : Octets) : List (List Word × Statement) → Shell →
    Option Statement × Shell
  | [], sh => (none, sh)
  | (patterns, body) :: rest, sh =>
    let (isFound, sh) := matchesAny e text patterns sh
    if sh.isStopped then (none, sh)
    else if isFound then (some body, sh)
    else armFor e text rest sh

/-! ### Statements -/

/-- Runs a body with redirections. -/
def redirected (e : Engine) (stance : Stance) (line : Nat) (body : Statement)
    (redirections : List Redirection) (sh : Shell) : Shell :=
  let (targets, sh) := targetsOf (finish e) e redirections { sh with line }
  if sh.isStopped then sh
  else
    let outer := sh.descriptors
    match redirectAll (finish e) e true [] targets sh with
    | (true, sh) => undo outer targets (e.run body stance.inside sh)
    | (false, sh) => ((undo outer targets sh).finished mistaken).checked stance

/-- Runs a body with redirections in a copy of the shell. -/
def subshell (e : Engine) (stance : Stance) (line : Nat) (body : Statement)
    (redirections : List Redirection) (sh : Shell) : Shell :=
  let (targets, sh) := targetsOf (finish e) e redirections { sh with line }
  if sh.isStopped then sh
  else
    let (status, child) :=
      match redirectAll (finish e) e false [] targets sh.fork with
      | (true, child) => runCopy e stance body child
      | (false, child) => (.exited mistaken, child)
    ((sh.join child).vacate.settle stance status).checked stance

/-- Runs a statement by the means for those within it. -/
def runOne (e : Engine) (stance : Stance) (sh : Shell) : Statement → Shell
  | .simple line assignments words redirections =>
    (simple e stance line assignments words redirections sh).checked stance
  | .sequence [] => sh.finished 0
  | .sequence items => runAll e stance items sh
  | .background body => runBeside e body sh
  | .pipe parts =>
    let (status, sh) := runPipe e stance none parts sh
    (sh.vacate.finished (numberOf status)).checked stance
  | .both first second =>
    let sh := e.run first .tested sh
    if sh.isStopped || sh.last ≠ 0 then sh else e.run second stance sh
  | .either first second =>
    let sh := e.run first .tested sh
    if sh.isStopped || sh.last = 0 then sh else e.run second stance sh
  | .negated body =>
    let sh := e.run body .tested sh
    if sh.isStopped then sh else sh.finished (truth (sh.last ≠ 0))
  | .choose condition yes no =>
    let sh := e.run condition .tested sh
    if sh.isStopped then sh else e.run (if sh.last = 0 then yes else no) stance sh
  | .loop untilTrue condition body =>
    inLoop (rounds e stance untilTrue condition body roundLimit 0) sh
  | .forEach line name words body =>
    let sh := { sh with line }
    let (values, sh) :=
      match words with
      | some words => allFields (finish e) e words sh
      | none => (sh.arguments, sh)
    if sh.isStopped then sh else inLoop (eachValue e stance name body 0 values) sh
  | .select line subject arms =>
    let (text, sh) := textOf (finish e) e .single subject { sh with line }
    if sh.isStopped then sh
    else
      match armFor e text arms sh with
      | (some body, sh) => e.run body stance sh
      | (none, sh) => if sh.isStopped then sh else sh.finished 0
  | .subshell line body redirections => subshell e stance line body redirections sh
  | .redirected line body redirections => redirected e stance line body redirections sh
  | .define name body =>
    { sh with
      functions := (name, body) :: sh.functions.filter (·.1 != name)
      found := sh.found.filter (·.name != name), last := 0 }

/-- Runs a statement, unless nothing is to be run any more, and answers the signals that have come
meanwhile. The first argument bounds how deeply statements may stand within each other and functions
may call themselves. -/
def run (launch : Launch) : Nat → Statement → Stance → Shell → Shell
  | 0, _, _, sh => sh.fails
  | depth + 1, s, stance, sh =>
    let e : Engine := ⟨run launch depth, launch⟩
    answerAll e (if sh.has 'n' then sh else runOne e stance sh s)

/-- How deeply statements may stand within each other. -/
def depthLimit : Nat := 20000

def engine (launch : Launch) : Engine :=
  ⟨run launch depthLimit, launch⟩

/-- Runs a script that is read from a file to its end. -/
def runScript (launch : Launch) (script : Octets) (sh : Shell) : ExitStatus × Shell :=
  finish (engine launch) (runText (engine launch) .ordinary true script sh)

end Storyboard.Shell
