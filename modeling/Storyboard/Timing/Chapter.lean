import Storyboard.Timing.Layout

/-!
Chapters: one for each card, at the frame where the card is fully seen. They are sorted by frame,
because a long transition can carry a card's chapter past the next one; equal frames keep the order
of the clips.
-/

namespace Storyboard

structure Chapter where
  title : String
  frame : Int
  /-- The position among the clips of the schedule. -/
  clip : Nat
deriving DecidableEq

/-- Chapters in the order of their frames, and the last frame of the composition. -/
structure Chapters where
  list : List Chapter
  endFrame : Int
deriving DecidableEq

namespace Chapters

/-- The chapter of a clip, if it is a card. -/
def ofClip? (t : Timeline) (p : Placement) (clip : Nat) : Option Chapter :=
  match p.slot.kind with
  | .card => some ⟨(t.items[p.slot.index]?.map Item.title).getD "", p.visibleStart, clip⟩
  | .cast => none

/-- The chapters of a schedule's cards, in the order of the clips. -/
def unsorted (t : Timeline) (s : Schedule) : List Chapter :=
  s.clips.zipIdx.filterMap fun (p, clip) => ofClip? t p clip

def ofSchedule (t : Timeline) (s : Schedule) : Chapters :=
  { list := (unsorted t s).mergeSort fun a b => a.frame ≤ b.frame
    endFrame := Frame.clamp (Frame.ofLength s.totalFrames - 1) }

/-- How many chapters begin at or before a frame. -/
def begun (c : Chapters) (frame : Int) : Nat :=
  (c.list.takeWhile (·.frame ≤ frame)).length

/-- The position of the last chapter that begins at or before a frame. -/
def atOrBefore? (c : Chapters) (frame : Int) : Option Nat :=
  match c.begun frame with
  | 0 => none
  | n + 1 => some n

/-- How far behind the start of the last chapter "previous" still leads to the one before. -/
def tolerance : Int := 1

/-- The position of the chapter to which "previous" leads. -/
def previousIndex (c : Chapters) (last : Chapter) (frame : Int) : Nat :=
  match c.atOrBefore? frame with
  | none => 0
  | some i =>
    if i + 1 = c.list.length ∧ Frame.clamp (last.frame + tolerance) < frame then i else i - 1

/-- The frame to which "previous" leads: the chapter before the present one, but from within the
last chapter its own start. -/
def previous? (c : Chapters) (frame : Int) : Option Int := do
  let last ← c.list.getLast?
  let target ← c.list[c.previousIndex last frame]?
  return target.frame

/-- The frame to which "next" leads: the next chapter, or the end behind the last one. -/
def next? (c : Chapters) (frame : Int) : Option Int :=
  if c.list.isEmpty then none
  else some ((c.list[c.begun frame]?.map Chapter.frame).getD c.endFrame)

end Chapters

end Storyboard
