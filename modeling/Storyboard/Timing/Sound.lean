import Storyboard.Timing.FrameRate
import Storyboard.Timing.Layout

/-!
Sounds: attachments resolved to a window of frames inside their clip. A window begins at the cue,
or with the clip where the cue comes before it, and ends with the clip; an attachment whose cue
comes behind its clip is dropped.
-/

namespace Storyboard

/-! ### The frames that anchors and cues stand for -/

namespace Geometry

/-- The frame of an anchor. The absolute one is the origin, so that a cue there is its offset. -/
def anchorFrame (g : Geometry) : Anchor → Int
  | .inBegin => g.start
  | .inEnd => Frame.clamp (g.start + Frame.ofLength g.incoming)
  | .outBegin => Frame.clamp (g.start + Frame.ofLength g.base)
  | .outEnd => Frame.clamp (g.start + Frame.ofLength g.occupied)
  | .absolute => 0

/-- The frame a number of frames after an anchor. -/
def shiftedFrame (g : Geometry) (anchor : Anchor) (frames : Int) : Int :=
  Frame.clamp (g.anchorFrame anchor + frames)

/-- The frame of a cue: that of its anchor and its offset rounded to frames. -/
def cueFrame (g : Geometry) (anchor : Anchor) (offset : Binary64) (rate : FrameRate) : Int :=
  g.shiftedFrame anchor (rate.roundFrames offset)

end Geometry

/-! ### Windows -/

structure Sound where
  /-- The position among the clips of the schedule. -/
  clip : Nat
  source : String
  anchor : Anchor
  /-- The frame of the cue, which need not lie in the clip. -/
  cueFrame : Int
  /-- The first frame, counted from the start of the clip. -/
  skipped : Nat
  /-- The frames from the first one to the end of the clip. -/
  window : Nat
  volume : Binary64
  looped : Bool
  fadeIn : Nat
  /-- The frames of the fade that ends with the last frame of the window. -/
  fadeOut : Nat
  label : Option String
deriving DecidableEq

namespace Sound

/-- A part of a fade of `frames` frames; no fade is complete from the start. -/
def fadeGain (done : Binary64) (frames : Nat) : Binary64 :=
  if frames = 0 then .one else (done / .ofNat frames).least .one

/-- The gain `frame` frames into the window. -/
def gainAt (s : Sound) (frame : Nat) : Binary64 :=
  let f := Binary64.ofNat frame
  let rising := fadeGain f s.fadeIn
  let falling := fadeGain (.ofNat s.window - .one - f) s.fadeOut
  s.volume * (rising * falling).toUnitInterval

def fadeFrames (rate : FrameRate) (secs : Option Binary64) : Nat :=
  (rate.roundFrames (secs.getD .zero)).toNat

/-- The frames from the start of a clip to a cue, none of them negative. -/
def skip (p : Placement) (cue : Int) : Nat :=
  (Frame.clamp (cue - p.start)).toNat

/-- The sound of an attachment to the clip at position `clip`. -/
def place? (rate : FrameRate) (clip : Nat) (p : Placement) (a : Attachment) : Option Sound :=
  let anchor := a.anchor.getD p.slot.kind.anchor
  let cue := p.geometry.cueFrame anchor a.offset rate
  let skipped := skip p cue
  if skipped < p.duration then
    some
      { clip, anchor, skipped
        source := a.source
        cueFrame := cue
        window := p.duration - skipped
        volume := (a.volume.getD .one).toUnitInterval
        looped := a.looped.getD false
        fadeIn := fadeFrames rate a.fadeIn
        fadeOut := fadeFrames rate a.fadeOut
        label := a.label }
  else none

/-- The attachments of the item from which a clip was placed. -/
def attachments (t : Timeline) (p : Placement) : List Attachment :=
  (t.items[p.slot.index]?.map Item.audio).getD []

/-- The sounds of all clips, clip by clip. -/
def ofSchedule (t : Timeline) (s : Schedule) (rate : FrameRate) : List Sound :=
  s.clips.zipIdx.flatMap fun (p, clip) => (attachments t p).filterMap (place? rate clip p)

end Sound

end Storyboard
