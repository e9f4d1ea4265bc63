import Storyboard.CommandLine.Argument
import Storyboard.Number.Digit
import Storyboard.Speech.SpeakerCommand
import Storyboard.Speech.Studio

/-!
Requests: what the arguments of a command line ask for.
-/

namespace Storyboard.CommandLine

inductive Request where
  | version
  | help
  /-- The document of a script, for a file or the standard output. -/
  | parse (script : String) (target : Option String)
  | build (scripts publicRoot : String) (format : Option SpeechFormat) (encoder : Option String)
      (speaker : String)
  /-- The plan of a script or a document. -/
  | schedule (input : String) (rate : UInt32) (recordings : Option String)
deriving DecidableEq

/-! ### Values -/

/-- A path must not be empty. -/
def isPath (text : String) : Bool :=
  !text.isEmpty

def formatOf? (text : String) : Option SpeechFormat :=
  (SpeechFormat.ofName text).toOption

/-- The greatest count that can be asked for. -/
def countLimit : Nat := UInt32.size - 1

/-- The sign in front of some digits, and the digits. -/
def signed : List Char → Bool × List Char
  | '-' :: digits => (true, digits)
  | '+' :: digits => (false, digits)
  | digits => (false, digits)

/-- A count in decimal digits, with a sign or without; a minus sign stands only before zero. -/
def countOf? (text : String) : Option UInt32 :=
  let (negative, digits) := signed text.toList
  match Digits.span digits with
  | ([], _) | (_, _ :: _) => none
  | (digits, []) =>
    let n := Digits.toNat digits
    if n > countLimit || (negative && n ≠ 0) then none else some (.ofNat n)

/-! ### Levels -/

/-- The flags that every level understands. -/
def sharedFlags : List Name :=
  [⟨"verbose", some 'v'⟩]

/-- An option whose value may be any text. -/
def textOption (long : String) : Parameter :=
  ⟨⟨long, none⟩, fun _ => true⟩

/-- An option whose value is a path. -/
def pathOption (long : String) : Parameter :=
  ⟨⟨long, none⟩, isPath⟩

/-- The options that every level understands. -/
def sharedOptions : List Parameter :=
  [textOption "log"]

def commands : List String :=
  ["parse", "build", "schedule", "help"]

def mainLevel : Level :=
  ⟨sharedFlags, sharedOptions, commands, 0, isPath, true⟩

def levelOf (options : List Parameter) (free : Nat) : Level :=
  ⟨sharedFlags, sharedOptions ++ options, [], free, isPath, false⟩

def parseLevel : Level :=
  levelOf [⟨⟨"out", some 'o'⟩, isPath⟩] 1

def buildLevel : Level :=
  levelOf
    [pathOption "timelines", pathOption "public",
     ⟨⟨"format", none⟩, fun text => (formatOf? text).isSome⟩, pathOption "ffmpeg",
     textOption "tts-command"] 0

def scheduleLevel : Level :=
  levelOf [⟨⟨"fps", none⟩, fun text => (countOf? text).isSome⟩, pathOption "casts"] 1

def standardRate : UInt32 := 30

/-! ### Requests -/

/-- What the arguments of a level give; no further command may follow. -/
def givenOf (l : Level) (arguments : List String) : Except Stop Given :=
  (l.scan .none arguments).map (·.given)

/-- The one free argument of a level. -/
def freePath (g : Given) : Except Stop String :=
  match g.free with
  | path :: _ => .ok path
  | [] => .error .misused

def parseRequest (g : Given) : Except Stop Request := do
  return .parse (← freePath g) (g.value? "out")

def buildRequest (g : Given) : Request :=
  .build
    ((g.value? "timelines").getD StudioOptions.standard.scriptFolder)
    ((g.value? "public").getD StudioOptions.standard.publicRoot)
    ((g.value? "format").bind formatOf?) (g.value? "ffmpeg")
    ((g.value? "tts-command").getD SpeakerCommand.defaultTemplate)

def scheduleRequest (g : Given) : Except Stop Request := do
  return .schedule (← freePath g) (((g.value? "fps").bind countOf?).getD standardRate)
    (g.value? "casts")

/-- Asks for help on a command, or on all of them. -/
def helpStop : List String → Stop
  | [] => .help
  | [command] => if commands.contains command then .help else .misused
  | _ => .misused

/-- A request, with what is asked about the log. -/
structure Order where
  request : Request
  isVerbose : Bool
  log : Option String
deriving DecidableEq

namespace Order

/-- An order that asks for nothing about the log. -/
def plain (r : Request) : Order :=
  ⟨r, false, none⟩

/-- What a command with some arguments asks for. -/
def ofCommand (command : String) (arguments : List String) : Except Stop Order :=
  match command with
  | "parse" => read parseLevel parseRequest
  | "build" => read buildLevel fun g => .ok (buildRequest g)
  | "schedule" => read scheduleLevel scheduleRequest
  | _ => .error (helpStop arguments)
where
  read (l : Level) (request : Given → Except Stop Request) : Except Stop Order := do
    let g ← givenOf l arguments
    return ⟨← request g, g.has "verbose", g.value? "log"⟩

/-- The order in which what stands before the command counts where the command does not say. -/
def within (o : Order) (outer : Given) : Order :=
  ⟨o.request, o.isVerbose || outer.has "verbose", o.log.or (outer.value? "log")⟩

/-- What some arguments ask for, if they are well used. -/
def ofArguments? (arguments : List String) : Option Order :=
  let order : Except Stop Order := do
    let scanned ← mainLevel.scan .none arguments
    match scanned.command with
    | some (command, rest) => return (← ofCommand command rest).within scanned.given
    | none => .error .misused
  match order with
  | .ok o => some o
  | .error .version => some (plain .version)
  | .error .help => some (plain .help)
  | .error .misused => none

end Order

end Storyboard.CommandLine
