import Storyboard.Disk.FileError
import Storyboard.Program.Status
import Storyboard.Timeline.Fault

/-!
Errors, as causes. An error has a kind and a message that its kind opens; where a file is the
cause, the message names the file only and the report adds what the system said.
-/

namespace Storyboard

inductive Error where
  /-- A script line that means nothing, or nothing at its place. -/
  | badLine (number : Nat) (line : String)
  | invalid (fault : Fault)
  | malformedDocument
  | unopenedDocument (path : String) (cause : FileError)
  | duplicateName (name : String)
  | zeroFrames
  | zeroSeconds
  | unknownAnchor (name : String)
  | unknownDirection (name : String)
  | unknownFormat (name : String)
  | lengthCount (timeline : String) (clips lengths : Nat)
  | emptyPath
  | remotePath (path : String)
  | escapingPath
  | namelessPath
  | emptyCommand
  | noScriptDirectory (path : String)
  | unreadRecording (path : String) (cause : FileError)
  /-- A collaborator refused, in its own words. -/
  | refused (reason : String)
  | synthesizerNotStarted (program : String) (cause : FileError)
  /-- The text could not be passed on. -/
  | textNotTaken (cause : FileError)
  | synthesizerFailed (status : ExitStatus) (complaint : String)
  | noSpeechFile (path : String)
  | encoderUnavailable (program : String)
  | encoderNotStarted (program : String) (cause : FileError)
  | encoderFailed (status : ExitStatus) (source complaint : String)
  | noAssetDirectory (path : String) (cause : FileError)
  | noOutputDirectory (path : String) (cause : FileError)
  | unwritten (path : String) (cause : FileError)
  | unreadScript (path : String) (cause : FileError)
  | unreadInput (path : String) (cause : FileError)
  | unreadStandardInput (cause : FileError)
deriving DecidableEq

/-- The kinds of errors. -/
inductive ErrorKind where
  | line
  | meaning
  | asset
  | argument
  | file
deriving DecidableEq

namespace Error

def kind : Error → ErrorKind
  | .badLine .. => .line
  | .invalid _ | .malformedDocument | .unopenedDocument .. | .duplicateName _ => .meaning
  | .zeroFrames | .zeroSeconds | .unknownAnchor _ | .unknownDirection _ | .unknownFormat _
  | .lengthCount .. | .emptyPath | .remotePath _ | .escapingPath | .namelessPath | .emptyCommand
  | .noScriptDirectory _ => .argument
  | .unreadRecording .. | .refused _ | .synthesizerNotStarted .. | .textNotTaken _
  | .synthesizerFailed .. | .noSpeechFile _ | .encoderUnavailable _ | .encoderNotStarted ..
  | .encoderFailed .. => .asset
  | .noAssetDirectory .. | .noOutputDirectory .. | .unwritten .. | .unreadScript ..
  | .unreadInput .. | .unreadStandardInput _ => .file

/-- The words that open every message of a kind. -/
def opening : ErrorKind → String
  | .line => "syntax error "
  | .meaning => "semantic error: "
  | .asset => "asset error: "
  | .argument => "validation error: "
  | .file => ""

def quoted (s : String) : String :=
  "'" ++ s ++ "'"

def detail : Error → String
  | .badLine number line => "on line " ++ toString number ++ ": \"" ++ line ++ "\""
  | .invalid fault => fault.message
  | .malformedDocument => "malformed timeline JSON"
  | .unopenedDocument path cause => "open timeline JSON " ++ quoted path ++ ": " ++ cause.message
  | .duplicateName name => "duplicate timeline name " ++ quoted name
  | .zeroFrames => "Fps num must be > 0"
  | .zeroSeconds => "Fps den must be > 0"
  | .unknownAnchor name => "unknown anchor " ++ quoted name
  | .unknownDirection name => "unknown direction " ++ quoted name
  | .unknownFormat name => "unknown speech format " ++ quoted name ++ " (expected opus or vorbis)"
  | .lengthCount timeline clips lengths =>
    "timeline " ++ quoted timeline ++ " has " ++ toString clips ++ " clips but " ++ toString lengths
      ++ " base frame counts were given"
  | .emptyPath => "asset path must be non-empty"
  | .remotePath path => "asset path " ++ quoted path ++ " must be local to the content root"
  | .escapingPath => "asset paths must not contain '..'"
  | .namelessPath => "asset path must contain a file name"
  | .emptyCommand => "TTS command must not be empty"
  | .noScriptDirectory path => "timelines directory " ++ quoted path ++ " not found"
  | .unreadRecording path cause => "read recording " ++ quoted path ++ ": " ++ cause.message
  | .refused reason => reason
  | .synthesizerNotStarted program cause =>
    "failed to spawn TTS command " ++ quoted program ++ ": " ++ cause.message
  | .textNotTaken cause => "failed to write text to TTS stdin: " ++ cause.message
  | .synthesizerFailed status complaint =>
    "TTS command exited with status " ++ status.message ++ ": " ++ complaint
  | .noSpeechFile path => "TTS command produced no file at " ++ quoted path
  | .encoderUnavailable program =>
    "ffmpeg is required for speech encoding, but " ++ quoted program
      ++ " could not be run (install it or set FFMPEG_PATH)"
  | .encoderNotStarted program cause =>
    "failed to spawn ffmpeg " ++ quoted program ++ ": " ++ cause.message
  | .encoderFailed status source complaint =>
    "ffmpeg exited with status " ++ status.message ++ " encoding " ++ quoted source ++ ": "
      ++ complaint
  | .noAssetDirectory path _ => "failed to create output directory " ++ quoted path
  | .noOutputDirectory path _ => "create output dir " ++ quoted path
  | .unwritten path _ => "write " ++ quoted path
  | .unreadScript path _ => "read script " ++ quoted path
  | .unreadInput path _ => "read " ++ quoted path
  | .unreadStandardInput _ => "read stdin"

def message (e : Error) : String :=
  opening e.kind ++ e.detail

/-- What the system said about an error of kind `file`. -/
def cause? : Error → Option FileError
  | .noAssetDirectory _ cause | .noOutputDirectory _ cause | .unwritten _ cause
  | .unreadScript _ cause | .unreadInput _ cause | .unreadStandardInput cause => some cause
  | _ => none

/-- The message followed by what the system said. -/
def report (e : Error) : String :=
  match e.cause? with
  | some cause => e.message ++ ": " ++ cause.message
  | none => e.message

end Error

end Storyboard
