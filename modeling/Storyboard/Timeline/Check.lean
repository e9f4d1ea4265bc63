import Storyboard.Text.Blank
import Storyboard.Timeline.Basic
import Storyboard.Timeline.Fault

/-!
The rules on fields that a build relies on. The name must do as one part of a path, because it
names the directory of the timeline's sounds and its documents. Faults are reported for the first
item that has one, in the order of its fields.
-/

namespace Storyboard

def checkWhen (bad : Bool) {ε : Type} (fault : ε) : Except ε Unit :=
  if bad then .error fault else .ok ()

namespace Binary64

/-- A length of time: finite and not negative. -/
def isLength (x : Binary64) : Bool :=
  x.isFinite && !x.lt zero

def inUnitInterval (x : Binary64) : Bool :=
  zero.le x && x.le one

end Binary64

namespace Cue

def isVoice (s : String) : Bool :=
  !s.toList.isEmpty && s.toList.all Text.isWordChar

def check (c : Cue) : Except ItemFault Unit := do
  checkWhen (!isVoice c.voice) (.badVoice c.voice)
  checkWhen (!c.offset.isFinite) .badSpeechOffset

end Cue

namespace Attachment

def check (a : Attachment) : Except ItemFault Unit := do
  checkWhen a.source.toList.isEmpty .emptySource
  checkWhen (!a.offset.isFinite) .badAudioOffset
  match a.volume with
  | some v => checkWhen (!v.inUnitInterval) (.badVolume v)
  | none => pure ()
  checkWhen (!a.fadeIn.all Binary64.isLength || !a.fadeOut.all Binary64.isLength) .badFade

end Attachment

namespace Item

def checkSound (i : Item) : Except ItemFault Unit := do
  i.speech.forM Cue.check
  i.audio.forM Attachment.check

def check : Item → Except ItemFault Unit
  | .transition _ => pure ()
  | .card c => do
    checkWhen c.title.toList.isEmpty .emptyTitle
    checkWhen (!c.seconds.isLength) .badSeconds
    (Item.card c).checkSound
  | .cast c => do
    checkWhen (Text.trim c.path.toList).isEmpty .emptyPath
    (Item.cast c).checkSound

end Item

namespace Timeline

def isSeparator (c : Char) : Bool :=
  c = '/' || c = '\\'

def checkName (name : String) : Except Fault Unit := do
  checkWhen (Text.trim name.toList).isEmpty .noName
  checkWhen (name = "." || name = ".." || name.toList.any isSeparator) (.badName name)

def checkItems : Nat → List Item → Except Fault Unit
  | _, [] => pure ()
  | index, item :: rest => do
    item.check.mapError (.item index)
    checkItems (index + 1) rest

def check (t : Timeline) : Except Fault Unit := do
  checkName t.name
  checkItems 0 t.items

end Timeline

end Storyboard
