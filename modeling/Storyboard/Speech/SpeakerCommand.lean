import Storyboard.Speech.World
import Storyboard.Text.Search
import Storyboard.Text.Utf8

/-!
Synthesizers that are commands. The arguments of a command may hold placeholders for the voice, the
file to write and the text, which are replaced in this order; without one for the text, the command
reads the text from its standard input.
-/

namespace Storyboard

/-- A command as a template, cut at blanks. -/
structure SpeakerCommand where
  program : String
  arguments : List String
deriving DecidableEq

namespace SpeakerCommand

def voiceMark : String := "\x7bvoice\x7d"

def fileMark : String := "\x7bout\x7d"

def textMark : String := "\x7btext\x7d"

def defaultTemplate : String :=
  "kokoro-tts - " ++ fileMark ++ " --voice " ++ voiceMark

def ofTemplate (template : String) : Except Error SpeakerCommand :=
  match (Text.words template.toList).map String.ofList with
  | [] => .error .emptyCommand
  | program :: arguments => .ok ⟨program, arguments⟩

/-- The command that is used where none is given. -/
def standard : SpeakerCommand :=
  ⟨"kokoro-tts", ["-", fileMark, "--voice", voiceMark]⟩

example : (ofTemplate defaultTemplate).toOption = some standard := by decide +kernel

/-- Whether the command reads the text from its standard input. -/
def readsText (c : SpeakerCommand) : Bool :=
  !c.arguments.any fun a => Text.contains textMark.toList a.toList

def put (mark value : String) (argument : List Char) : List Char :=
  Text.replaceAll mark.toList value.toList argument

/-- An argument with its placeholders replaced. -/
def fill (text voice speech argument : String) : String :=
  String.ofList
    (put textMark text (put fileMark speech (put voiceMark voice argument.toList)))

/-- The call of the command for a text. -/
def call (c : SpeakerCommand) (text voice speech : String) : ProgramCall :=
  ⟨c.program, c.arguments.map (fill text voice speech),
    if c.readsText then text.toUTF8 else .empty⟩

/-- What a program complained about, without blanks around it. -/
def complaint (r : ProgramResult) : String :=
  String.ofList (Text.trim (Text.lenient r.complaint))

/-- How many bytes of a text wait for a command that does not read them. -/
def waitingRoom : Nat := 65536

/-- Calls the command. It must take the text, end well and leave the file. -/
def synthesize {σ : Type} (runs : Runner σ) (c : SpeakerCommand) (text voice speech : String) :
    Act σ Unit := do
  Act.makeParent speech
  match ← Act.call runs (c.call text voice speech) with
  | .error cause => throw (.synthesizerNotStarted c.program cause)
  | .ok r =>
    if waitingRoom < r.unread then throw (.textNotTaken .brokenPipe)
    else if r.status ≠ .success then throw (.synthesizerFailed r.status (complaint r))
    else if !(← Act.store).contains speech then throw (.noSpeechFile speech)

def synthesizer {σ : Type} (runs : Runner σ) (c : SpeakerCommand) : Synthesizer σ :=
  ⟨c.synthesize runs⟩

end SpeakerCommand

end Storyboard
