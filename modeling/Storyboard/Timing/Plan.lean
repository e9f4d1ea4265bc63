import Storyboard.Timing.Chapter
import Storyboard.Timing.Sound

/-!
Plans: the nominal lengths of the clips, their layout, chapters and sounds in one pass.
-/

namespace Storyboard

/-- Tells the length in seconds of the recording at a path. -/
abbrev Probe := String → Except Error Binary64

structure Plan where
  name : String
  rate : FrameRate
  schedule : Schedule
  chapters : Chapters
  sounds : List Sound

namespace Item

/-- The length in seconds of a clip: a card states it, a recording is asked. -/
def seconds? (probe : Probe) : Item → Option (Except Error Binary64)
  | .transition _ => none
  | .card c => some (.ok c.seconds)
  | .cast c => some (probe c.path)

end Item

namespace Timeline

/-- The nominal lengths of the clips in frames. The first recording that cannot be asked fails. -/
def clipLengths (t : Timeline) (rate : FrameRate) (probe : Probe) : Except Error (List Nat) :=
  (t.items.filterMap (Item.seconds? probe)).mapM fun secs => secs.map rate.coverFrames

def plan (t : Timeline) (rate : FrameRate) (probe : Probe) : Except Error Plan := do
  let lengths ← t.clipLengths rate probe
  let schedule ← t.layout lengths
  return ⟨t.name, rate, schedule, .ofSchedule t schedule, Sound.ofSchedule t schedule rate⟩

end Timeline

end Storyboard
