import Storyboard.Error
import Storyboard.Text.Blank
import Storyboard.Text.Case

/-!
The formats in which speech is delivered, both of them in Ogg.
-/

namespace Storyboard

inductive SpeechFormat where
  | opus
  | vorbis
deriving DecidableEq

namespace SpeechFormat

def name : SpeechFormat → String
  | .opus => "opus"
  | .vorbis => "vorbis"

/-- The extension of a file, without the dot. -/
def extension : SpeechFormat → String
  | .opus => "opus"
  | .vorbis => "ogg"

/-- The type under which a file is served. -/
def mediaType : SpeechFormat → String
  | .opus => "audio/ogg; codecs=opus"
  | .vorbis => "audio/ogg; codecs=vorbis"

/-- What the encoder is told about the format. -/
def encoderArguments : SpeechFormat → List String
  | .opus => ["-c:a", "libopus", "-b:a", "96k", "-vbr", "on"]
  | .vorbis => ["-c:a", "libvorbis", "-q:a", "5"]

/-- The format of a name in any case, between blanks. -/
def ofName (s : String) : Except Error SpeechFormat :=
  match String.ofList (Text.lower (Text.trim s.toList)) with
  | "opus" => .ok .opus
  | "vorbis" | "ogg" => .ok .vorbis
  | other => .error (.unknownFormat other)

end SpeechFormat

end Storyboard
