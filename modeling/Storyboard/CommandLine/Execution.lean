import Storyboard.CommandLine.Record
import Storyboard.CommandLine.Request
import Storyboard.Program.Installed
import Storyboard.Recording.Folder
import Storyboard.Speech.EncoderProgram
import Storyboard.Text.Case
import Storyboard.Timeline.File
import Storyboard.Timing.Document

/-!
Execution of requests: from the settings, the standard input and the files to what is printed, the
exit code and the files that are left.
-/

namespace Storyboard.CommandLine

/-- What the environment sets. -/
structure Settings where
  speechFormat : Option String
  encoder : Option String
  log : Option String

/-- The variables of the environment that are set, which the programs that are called see too. -/
def Settings.environment (settings : Settings) : List (String × String) :=
  [("SPEECH_FORMAT", settings.speechFormat), ("FFMPEG_PATH", settings.encoder),
    ("RUST_LOG", settings.log)].filterMap fun (name, value) => value.map (name, ·)

/-- How the execution of a command line ends. -/
structure Finish where
  exitCode : Nat
  output : String
  /-- What is printed on the standard error. -/
  complaint : String
  /-- Whether the arguments were refused. -/
  isMisused : Bool

namespace Finish

def success (output : String) : Finish :=
  ⟨0, output, "", false⟩

def failure (e : Error) : Finish :=
  ⟨2, "", "error: " ++ e.report ++ "\n", false⟩

def misuse : Finish :=
  ⟨2, "", "", true⟩

/-- The ending of a run that breaks off. -/
def broken (complaint : String) : Finish :=
  ⟨101, "", complaint, false⟩

/-- The ending before which some records were written. -/
def behind (f : Finish) (records : String) : Finish :=
  { f with complaint := records ++ f.complaint }

end Finish

def versionText : String := "scenecast 0.1.0\n"

def helpText : String :=
  "usage: scenecast parse SCRIPT [--out FILE]\n"
    ++ "       scenecast build [--timelines DIR] [--public DIR] [--format FORMAT]"
    ++ " [--ffmpeg PROGRAM] [--tts-command COMMAND]\n"
    ++ "       scenecast schedule INPUT [--fps N] [--casts DIR]\n"

/-! ### Streams -/

/-- The path that stands for the standard input. -/
def standardInput : String := "-"

/-- The standard stream to which a path leads: zero for the input, one for the output and two for
the errors. -/
def streamOf? (s : Store) (path : String) : Option Nat :=
  match s.locate path with
  | .ok l => l.stream?
  | .error _ => none

/-- Whether a path stands for the standard input or leads to it. -/
def asksInput (s : Store) (path : String) : Bool :=
  path = standardInput || streamOf? s path = some 0

def textOf (bytes : ByteArray) : Except FileError String :=
  match String.fromUTF8? bytes with
  | some text => .ok text
  | none => .error .notText

/-- The text to which a path leads, where the standard input holds some bytes. -/
def readText (input : ByteArray) (s : Store) (path : String) : Except FileError String :=
  if streamOf? s path = some 0 then textOf input else s.readText path

/-- The text of an input, which is a file or the standard input. -/
def readInput (input : ByteArray) (s : Store) (path : String) : Except Error String :=
  if path = standardInput then (textOf input).mapError .unreadStandardInput
  else
    match readText input s path with
    | .ok text => .ok text
    | .error cause => .error (.unreadInput path cause)

/-! ### Parsing -/

/-- Writes a document to a file, making the directory that the file lies in. -/
def saveDocument (target document : String) (s : Store) : Except Error Unit × Store :=
  let (made, s) := s.makeDirectories ((Path.parent? target).getD "")
  match made with
  | .error cause => (.error (.noOutputDirectory ((Path.parent? target).getD "") cause), s)
  | .ok () =>
    match s.writeText target document with
    | .error cause => (.error (.unwritten target cause), s)
    | .ok s => (.ok (), s)

/-- How the writing of a document to a target ends. The target may lead to what is printed. -/
def writtenFinish (s : Store) (target document : String) : Finish :=
  let line := "wrote " ++ target ++ "\n"
  match streamOf? s target with
  | some 1 => ⟨0, document, line, false⟩
  | some 2 => ⟨0, "", document ++ line, false⟩
  | _ => ⟨0, "", line, false⟩

def parse (input : ByteArray) (s : Store) (script : String) (target : Option String) :
    Finish × Store :=
  match readInput input s script >>= Script.compile with
  | .error e => (.failure e, s)
  | .ok t =>
    match target with
    | none => (.success (t.document ++ "\n"), s)
    | some target =>
      match saveDocument target t.document s with
      | (.error e, s) => (.failure e, s)
      | (.ok (), s) => (writtenFinish s target t.document, s)

/-! ### Building -/

/-- The studio of a build, whose synthesizer is a command and whose encoder is a program. -/
def studioOf (settings : Settings) (scripts publicRoot : String) (format : Option SpeechFormat)
    (encoder : Option String) (speaker : String) (input : ByteArray) : Studio Unit :=
  let runs := Runner.ofPrograms (Program.runsIn settings.environment)
  let options := StudioOptions.withSetting ⟨publicRoot, scripts, .opus⟩ settings.speechFormat
  { options := { options with format := format.getD options.format }
    openSynthesizer :=
      match SpeakerCommand.ofTemplate speaker with
      | .ok c => pure (c.synthesizer runs)
      | .error e => throw e
    encoder :=
      ((encoder.map EncoderProgram.mk).getD (.ofSetting settings.encoder)).encoder runs input }

def failureLine : String × Error → String
  | (path, e) => "failed: " ++ path ++ ": " ++ e.message ++ "\n"

/-- How a build ends whose run made a report. -/
def reportFinish (r : RunReport) : Finish :=
  if r.isSuccess then .success ""
  else ⟨1, "", String.join (r.failures.map failureLine), false⟩

/-- A setting for the format that means none is noted. -/
def settingNotes (setting : Option String) : List LogNote :=
  match setting with
  | none => []
  | some text =>
    match SpeechFormat.ofName text with
    | .ok _ => []
    | .error e =>
      if Text.trim text.toList = [] then []
      else
        [⟨.warning, releasePart, "ignoring SPEECH_FORMAT: " ++ e.message,
          [("value", quotedText text)], none⟩]

/-- The note with which a build ends well. -/
def successNote (r : RunReport) : LogNote :=
  ⟨.notice, "scenecast", "ok", [("built", toString r.built.length)], none⟩

def build (records : List LogNote → String) (studio : Studio Unit) (s : Store) : Finish × Store :=
  match studio.releaseAll (.start ⟨s, ()⟩) with
  | .error e after =>
    ((Finish.failure e).behind (records (after.events.map noteOf)), after.world.store)
  | .ok report after =>
    let ending := if report.isSuccess then [successNote report] else []
    ((reportFinish report).behind (records (after.events.map noteOf ++ ending)),
      after.world.store)

/-! ### Scheduling -/

/-- Whether a path names a document, by its extension. -/
def isDocument (path : String) : Bool :=
  (Path.extension? path).any (Text.sameWord "json".toList)

/-- The root of the recordings where none is given: where the input lies. -/
def recordingsOf (input : String) : String :=
  match Path.parent? input with
  | some parent => if parent.isEmpty then "." else parent
  | none => "."

def planOf (input : ByteArray) (s : Store) (path : String) (frames : UInt32)
    (recordings : Option String) : Except Error Plan := do
  let text ← readInput input s path
  let t ← if isDocument path then Timeline.ofText text else Script.compile text
  let rate ← FrameRate.whole frames
  let left := if asksInput s path then .empty else input
  t.plan rate (Recording.probe (readText left s) (recordings.getD (recordingsOf path)))

def schedule (input : ByteArray) (s : Store) (path : String) (frames : UInt32)
    (recordings : Option String) : Finish :=
  match planOf input s path frames recordings with
  | .ok plan => .success (plan.document ++ "\n")
  | .error e => .failure e

/-! ### Command lines -/

def Request.execute (settings : Settings) (records : List LogNote → String) (input : ByteArray)
    (s : Store) : Request → Finish × Store
  | .version => (.success versionText, s)
  | .help => (.success helpText, s)
  | .parse script target => CommandLine.parse input s script target
  | .build scripts publicRoot format encoder speaker =>
    let studio := studioOf settings scripts publicRoot format encoder speaker input
    let (finish, s) := CommandLine.build records studio s
    (finish.behind (records (settingNotes settings.speechFormat)), s)
  | .schedule path rate recordings => (CommandLine.schedule input s path rate recordings, s)

/-- Executes a command line. -/
def execute (settings : Settings) (arguments : List String) (input : ByteArray) (s : Store) :
    Finish × Store :=
  match Order.ofArguments? arguments with
  | some order =>
    let reading := LogFilter.chosen order.log order.isVerbose settings.log
    match reading.filter with
    | none => (.broken reading.complaints, s)
    | some filter =>
      let (finish, s) := order.request.execute settings filter.record input s
      (finish.behind reading.complaints, s)
  | none => (.misuse, s)

end Storyboard.CommandLine
