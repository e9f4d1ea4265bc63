import Storyboard.Number.Shortest

/-!
What can be wrong with the fields of a timeline.
-/

namespace Storyboard

inductive ItemFault where
  | emptyTitle
  | badSeconds
  | emptyPath
  | badVoice (voice : String)
  | badSpeechOffset
  | emptySource
  | badAudioOffset
  | badVolume (volume : Binary64)
  | badFade
deriving DecidableEq

inductive Fault where
  | noName
  | badName (name : String)
  | item (index : Nat) (fault : ItemFault)
deriving DecidableEq

def ItemFault.message : ItemFault → String
  | .emptyTitle => "card title must be non-empty"
  | .badSeconds => "card seconds must be finite and >= 0"
  | .emptyPath => "cast path must be non-empty"
  | .badVoice voice => "voice '" ++ voice ++ "' must match [A-Za-z0-9_]+"
  | .badSpeechOffset => "speech offset must be finite"
  | .emptySource => "audio src must be non-empty"
  | .badAudioOffset => "audio offset must be finite"
  | .badVolume volume => "audio volume " ++ volume.plain ++ " outside [0, 1]"
  | .badFade => "audio fades must be finite and >= 0"

def Fault.message : Fault → String
  | .noName => "timeline has no name"
  | .badName name => "timeline name '" ++ name ++ "' is not a valid file name"
  | .item index fault => "item " ++ toString index ++ ": " ++ fault.message

end Storyboard
