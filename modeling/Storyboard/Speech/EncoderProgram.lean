import Storyboard.Speech.SpeakerCommand

/-!
The encoder that is a program, with the arguments that it is given.
-/

namespace Storyboard

structure EncoderProgram where
  program : String
deriving DecidableEq

namespace EncoderProgram

/-- The encoder that is used where none is set. -/
def standard : EncoderProgram := ⟨"ffmpeg"⟩

/-- The encoder of a setting, which may be missing or empty. -/
def ofSetting : Option String → EncoderProgram
  | none => standard
  | some program => if program.isEmpty then standard else ⟨program⟩

/-- The call that asks for the version; the program finds the input of the run there. -/
def versionCall (e : EncoderProgram) (input : ByteArray) : ProgramCall :=
  ⟨e.program, ["-version"], input⟩

def encodeCall (e : EncoderProgram) (speech target : String) (format : SpeechFormat) :
    ProgramCall :=
  ⟨e.program,
    ["-y", "-loglevel", "error", "-i", speech] ++ format.encoderArguments ++ [target], .empty⟩

variable {σ : Type}

/-- The encoder is available when it can tell its version. -/
def available (runs : Runner σ) (e : EncoderProgram) (input : ByteArray) : Act σ Unit := do
  match ← Act.call runs (e.versionCall input) with
  | .ok r => if r.status ≠ .success then throw (.encoderUnavailable e.program)
  | .error _ => throw (.encoderUnavailable e.program)

/-- Calls the encoder, which must end well. -/
def encode (runs : Runner σ) (e : EncoderProgram) (speech target : String)
    (format : SpeechFormat) : Act σ Unit := do
  Act.makeParent target
  match ← Act.call runs (e.encodeCall speech target format) with
  | .error cause => throw (.encoderNotStarted e.program cause)
  | .ok r =>
    if r.status ≠ .success then
      throw (.encoderFailed r.status speech (SpeakerCommand.complaint r))

def encoder (runs : Runner σ) (e : EncoderProgram) (input : ByteArray) : Encoder σ :=
  ⟨e.available runs input, e.encode runs⟩

end EncoderProgram

end Storyboard
