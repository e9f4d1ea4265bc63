import Storyboard.Number.Binary64
import Storyboard.Timeline.Anchor
import Storyboard.Timeline.Transition

/-!
Timelines: title cards, terminal recordings and the transitions between them, in order. Cards and
recordings are the *clips*; they alone occupy time and carry narration and sound.
-/

namespace Storyboard

/-- A line of narration that is still to be spoken. -/
structure Cue where
  text : String
  voice : String
  anchor : Anchor
  /-- Seconds after the anchor; may be negative. -/
  offset : Binary64
deriving DecidableEq

/-- A sound that is played along with a clip. -/
structure Attachment where
  source : String
  /-- Without one, the kind of the clip decides. -/
  anchor : Option Anchor
  /-- Seconds after the anchor; may be negative. -/
  offset : Binary64
  volume : Option Binary64
  looped : Option Bool
  fadeIn : Option Binary64
  fadeOut : Option Binary64
  label : Option String
deriving DecidableEq

structure Card where
  title : String
  subtitle : Option String
  seconds : Binary64
  speech : List Cue
  audio : List Attachment
deriving DecidableEq

/-- A recorded terminal session. -/
structure Cast where
  path : String
  columns : Option UInt32
  rows : Option UInt32
  speech : List Cue
  audio : List Attachment
deriving DecidableEq

inductive Item where
  | transition (t : Transition)
  | card (c : Card)
  | cast (c : Cast)
deriving DecidableEq

inductive ClipKind where
  | card
  | cast
deriving DecidableEq

structure Timeline where
  name : String
  items : List Item
deriving DecidableEq

namespace Cue

def defaultVoice : String := "af_heart"

end Cue

namespace Attachment

/-- An attachment that leaves every option open but its anchor. -/
def plain (source : String) (anchor : Anchor) (offset : Binary64) : Attachment :=
  ⟨source, some anchor, offset, none, none, none, none, none⟩

end Attachment

namespace ClipKind

def name : ClipKind → String
  | .card => "card"
  | .cast => "cast"

/-- Where a sound without an anchor of its own begins. -/
def anchor : ClipKind → Anchor
  | .card => .inEnd
  | .cast => .inBegin

end ClipKind

namespace Item

def kind? : Item → Option ClipKind
  | .transition _ => none
  | .card _ => some .card
  | .cast _ => some .cast

def transition? : Item → Option Transition
  | .transition t => some t
  | _ => none

def speech : Item → List Cue
  | .transition _ => []
  | .card c => c.speech
  | .cast c => c.speech

def audio : Item → List Attachment
  | .transition _ => []
  | .card c => c.audio
  | .cast c => c.audio

/-- The item with another narration and other sounds; a transition has neither. -/
def withSound (speech : List Cue) (audio : List Attachment) : Item → Item
  | .transition t => .transition t
  | .card c => .card { c with speech, audio }
  | .cast c => .cast { c with speech, audio }

/-- The title of a card; any other item has an empty one. -/
def title : Item → String
  | .card c => c.title
  | _ => ""

end Item

namespace Timeline

def defaultName : String := "timeline"

/-- The clips with their positions among the items. -/
def clips (t : Timeline) : List (Nat × ClipKind) :=
  t.items.zipIdx.filterMap fun (item, i) => item.kind?.map (i, ·)

def cueCount (t : Timeline) : Nat :=
  (t.items.map (·.speech.length)).foldr (· + ·) 0

end Timeline

end Storyboard
