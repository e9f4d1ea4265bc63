import Storyboard.Error
import Storyboard.Number.Binary64
import Storyboard.Timing.Frame

/-!
Frame rates: a number of frames in a number of seconds, both positive. Seconds become frames by one
binary64 multiplication; offsets round to nearest, lengths round up and are at least one frame.
-/

namespace Storyboard

structure FrameRate where
  frames : UInt32
  seconds : UInt32
  frames_ne_zero : frames ≠ 0
  seconds_ne_zero : seconds ≠ 0

namespace FrameRate

def ofParts (frames seconds : UInt32) : Except Error FrameRate :=
  if hs : seconds = 0 then .error .zeroSeconds
  else if hf : frames = 0 then .error .zeroFrames
  else .ok ⟨frames, seconds, hf, hs⟩

/-- A whole number of frames in one second. -/
def whole (frames : UInt32) : Except Error FrameRate :=
  ofParts frames 1

def standard : FrameRate :=
  ⟨30, 1, by decide, by decide⟩

def perSecond (r : FrameRate) : Binary64 :=
  .ofNat r.frames.toNat / .ofNat r.seconds.toNat

def toSeconds (r : FrameRate) (frames : Int) : Binary64 :=
  .ofInt frames * .ofNat r.seconds.toNat / .ofNat r.frames.toNat

/-- The frame nearest to an offset in seconds; an offset that is not finite counts as none. -/
def roundFrames (r : FrameRate) (secs : Binary64) : Int :=
  match (secs * r.perSecond).round? with
  | some n => Frame.clamp n
  | none => 0

/-- The frames that cover a length in seconds, at least one; a length that is not finite covers
one. -/
def coverFrames (r : FrameRate) (secs : Binary64) : Nat :=
  let v := secs * r.perSecond
  if v.le .one then 1
  else
    match v.ceil? with
    | some n => Frame.clampLength n.toNat
    | none => 1

end FrameRate

end Storyboard
