import Storyboard.Shell.State

/-!
The running of texts: each complete command of a text is read and run before the next one is read.
Signals that have come are answered between commands, and an arrangement for the end of the shell is
honoured when it ends.
-/

namespace Storyboard.Shell

/-- Runs some statements, one after the other, until one makes the shell jump. -/
def runAll (e : Engine) (stance : Stance) : List Statement → Shell → Shell
  | [], sh => sh
  | [item], sh => if sh.isStopped then sh else e.run item stance sh
  | item :: rest, sh =>
    if sh.isStopped then sh else runAll e stance rest (e.run item stance.inside sh)

/-- Complains about a mistake in a text. -/
def refuseText (sh : Shell) (fault : SyntaxFault) : Shell :=
  let text := "Syntax error: " ++ fault.mistake.message ++ "\n"
  (sh.say (sh.heading fault.line ++ Octets.ofText text)).fails

/-- Whether a reading has come to the end of its text. -/
def isAtEnd (r : Reading) : Bool :=
  match r.pushed with
  | some .ending => true
  | _ => false

/-- The lines of which something was read, between two places of a text. -/
def linesRead (text rest : Octets) : Octets :=
  let read := text.take (text.length - rest.length)
  if read.isEmpty || read.getLast? = some '\n' then read
  else read ++ rest.takeWhile (· != '\n') ++ (rest.dropWhile (· != '\n')).take 1

/-- Shows the lines that were read for a command, if that was asked for. -/
def showRead (shows : Bool) (before after : Reading) (sh : Shell) : Shell :=
  if shows && sh.has 'v' then sh.say (linesRead before.rest after.rest) else sh

/-- Runs the commands of a text from where its reading stands; a text without any leaves a good
status. The lines of the text may be shown. The number bounds that of the commands. -/
def runFrom (e : Engine) (stance : Stance) (shows : Bool) :
    Nat → (hasRun : Bool) → Reading → Shell → Shell
  | 0, _, _, sh => sh
  | count + 1, hasRun, r, sh =>
    let r := { r with announced := sh.announced, aliases := sh.aliases, documents := [] }
    match Reader.nextCommand r with
    | .error fault after => refuseText (showRead shows r after sh) fault
    | .ok none after =>
      let sh := showRead shows r after sh
      if hasRun then sh else sh.finished 0
    | .ok (some items) after =>
      let sh := { showRead shows r after sh with
        readLine := after.line, announced := after.announced
        documents := after.documents ++ sh.documents }
      let place := if isAtEnd after then stance else stance.inside
      let sh := runAll e place items sh
      if sh.isStopped then sh
      else runFrom e stance shows count (hasRun || !items.isEmpty) after sh

/-- Runs the commands of a text, which may show its lines as they are read. -/
def runText (e : Engine) (stance : Stance) (shows : Bool) (text : Octets) (sh : Shell) : Shell :=
  let readLine := sh.readLine
  let sh := runFrom e stance shows (text.length + 2) false (Reader.start text 1 sh.announced) sh
  { sh with readLine }

/-! ### Signals -/

/-- Answers a signal as was arranged for it. The status stays, unless another one is stated. -/
def answer (e : Engine) (signal : Nat) (sh : Shell) : Shell :=
  if sh.isFatal signal then sh.endBy signal
  else if sh.ignored.contains signal then sh
  else
    match sh.traps.lookup signal with
    | some action =>
      if action.isEmpty then sh
      else
        let answered :=
          runText e .ordinary false action { sh with jump := none, interrupted := some sh.last }
        let answered := { answered with interrupted := sh.interrupted }
        match answered.jump with
        | some (.exit ..) | some (.back true) => answered
        | _ => answered.finished sh.last
    | none => sh

/-- Answers the signals that have come, unless the shell is at its end. -/
def answerAll (e : Engine) (sh : Shell) : Shell :=
  let (signals, sh) := sh.takeSignals
  signals.foldl (fun sh signal =>
    match sh.jump with
    | some (.exit ..) => sh
    | jump =>
      let answered := answer e signal sh
      if answered.isStopped then answered else { answered with jump }) sh

/-! ### The end -/

/-- The status with which a shell ends. -/
def endStatus (sh : Shell) : ExitStatus :=
  match sh.jump with
  | some (.exit status _) => status
  | _ => .exited (sh.last % 256)

/-- Whether what was arranged for the end is still due. -/
def isTrapDue (sh : Shell) : Bool :=
  match sh.jump with
  | some (.exit _ ending) => ending != .sudden
  | _ => true

/-- Ends a shell: what was arranged for its end is done, and it has a status. -/
def finish (e : Engine) (sh : Shell) : ExitStatus × Shell :=
  let status := endStatus sh
  match sh.traps.lookup 0 with
  | none => (status, sh)
  | some action =>
    if action.isEmpty || !isTrapDue sh then (status, sh)
    else
      let sh := runText e .ordinary false action
        { sh with
          jump := none, traps := sh.traps.filter (·.1 != 0), command := none, loops := 0
          last := numberOf status, interrupted := some (numberOf status) }
      match sh.jump with
      | some (.exit status _) => (status, sh)
      | _ => (status, sh)

end Storyboard.Shell
