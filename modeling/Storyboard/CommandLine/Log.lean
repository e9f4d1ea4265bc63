import Storyboard.Text.Hex

/-!
The log: what a run notes about itself. A note is one record, but its message may hold several
lines.
-/

namespace Storyboard.CommandLine

inductive LogLevel where
  | error
  | warning
  | notice
  | detail
  | trace
deriving DecidableEq

namespace LogLevel

/-- How much has to be asked for before a level is written. -/
def rank : LogLevel → Nat
  | .error => 1
  | .warning => 2
  | .notice => 3
  | .detail => 4
  | .trace => 5

def name : LogLevel → String
  | .error => "ERROR"
  | .warning => "WARN"
  | .notice => "INFO"
  | .detail => "DEBUG"
  | .trace => "TRACE"

end LogLevel

/-! ### Parts of the program -/

/-- The part that goes through the scripts of a folder. -/
def runPart : String := "scenecast::narration::run"

/-- The part that releases timelines. -/
def releasePart : String := "scenecast::narration::builder"

/-- The part that keeps a synthesizer. -/
def synthesizerPart : String := "scenecast::narration::engine"

/-! ### Notes -/

structure LogNote where
  level : LogLevel
  /-- The part of the program that made the note. -/
  part : String
  message : String
  /-- What is told beside the message, by names. -/
  fields : List (String × String)
  /-- The timeline in whose release the note was made. -/
  timeline : Option String

namespace LogNote

/-- The name under which a message is told. -/
def messageName : String := "message"

def fieldNames (n : LogNote) : List String :=
  messageName :: n.fields.map (·.1)

/-- Characters that could steer a terminal are written as escapes. -/
def shown (c : Char) : List Char :=
  if ['\x1b', '\x07', '\x08', '\x0c', '\x7f'].contains c then
    ['\\', 'x'] ++ Text.hexDigits 2 c.toNat
  else if 0x80 ≤ c.toNat && c.toNat ≤ 0x9f then
    ['\\', 'u', '\x7b'] ++ Text.hexDigits 2 c.toNat ++ ['\x7d']
  else [c]

def fieldText : String × String → String
  | (name, value) => " " ++ name ++ "=" ++ value

/-- The record of a note. -/
def text (n : LogNote) : String :=
  n.level.name ++ " " ++ String.ofList (n.message.toList.flatMap shown)
    ++ String.join (n.fields.map fieldText) ++ "\n"

end LogNote

end Storyboard.CommandLine
