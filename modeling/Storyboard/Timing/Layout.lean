import Storyboard.Error
import Storyboard.Timeline.Basic
import Storyboard.Timing.Frame

/-!
Layout of a timeline in frames. Each clip is first given its two transitions: the nearest one
before it, however far back, and the last one between it and the next clip. Both are looked up by
halving in the list of all transitions with their positions. Then the clips are put one behind the
other, each pulled forward by the frames it shares with the clip before it.
-/

namespace Storyboard

/-! ### Searching -/

/-- The place at which a test ceases to hold, among `size` places from `low` on, found by halving.
It is only found if the test holds at none of the later places. -/
def bisect (test : Nat → Bool) (low size : Nat) : Nat :=
  if size = 0 then low
  else if test (low + size / 2) then bisect test (low + size / 2 + 1) (size - size / 2 - 1)
  else bisect test low (size / 2)

theorem bisect_eq {test : Nat → Bool} {low size place : Nat} (hlow : low ≤ place)
    (hsize : place ≤ low + size)
    (htest : ∀ k, low ≤ k → k < low + size → (test k = true ↔ k < place)) :
    bisect test low size = place := by
  -- The place stays in the half that is searched on.
  fun_induction bisect test low size with
  | case1 low => omega
  | case2 low size hpos hmiddle ih =>
      have hbefore := (htest _ (by omega) (by omega)).mp hmiddle
      refine ih (by omega) (by omega) ?_
      intro k hk hlt
      exact htest k (by omega) (by omega)
  | case3 low size hpos hmiddle ih =>
      have hbehind := mt (htest (low + size / 2) (by omega) (by omega)).mpr hmiddle
      refine ih hlow (by omega) ?_
      intro k hk hlt
      exact htest k hk (by omega)

/-- How many elements stand before the first one that fails a test, found by halving. It is only
found if all later ones fail it as well. -/
def partitionPoint {α : Type} (xs : List α) (test : α → Bool) : Nat :=
  bisect (fun k => xs[k]?.any test) 0 xs.length

theorem partitionPoint_append {α : Type} {test : α → Bool} {xs ys : List α}
    (hxs : ∀ x ∈ xs, test x = true) (hys : ∀ y ∈ ys, test y = false) :
    partitionPoint (xs ++ ys) test = xs.length := by
  refine bisect_eq (Nat.zero_le _) (by simp) ?_
  intro k _ hk
  rw [Nat.zero_add] at hk
  rw [List.getElem?_eq_getElem hk, Option.any_some]
  by_cases hfront : k < xs.length
  · rw [List.getElem_append_left hfront]
    exact iff_of_true (hxs _ (List.getElem_mem _)) hfront
  · rw [List.getElem_append_right (Nat.not_lt.mp hfront), hys _ (List.getElem_mem _)]
    exact iff_of_false Bool.false_ne_true hfront

/-! ### Slots -/

/-- A clip with its place among the items and its transitions. -/
structure Slot where
  index : Nat
  kind : ClipKind
  incoming : Option Transition
  outgoing : Option Transition
deriving DecidableEq

namespace Slot

def overlap (s : Slot) : Nat :=
  (s.outgoing.map Transition.overlap).getD 0

/-- The nearest of some transitions that stands before a position. -/
def nearestBefore? (transitions : List (Nat × Transition)) (position : Nat) : Option Transition :=
  match partitionPoint transitions (·.1 < position) with
  | 0 => none
  | n + 1 => transitions[n]?.map (·.2)

/-- How many of some transitions stand before the next clip, if there is one. -/
def countBefore (transitions : List (Nat × Transition)) : Option Nat → Nat
  | some next => partitionPoint transitions (·.1 < next)
  | none => transitions.length

/-- The last of some transitions that stands behind a position, and before the next clip if there
is one. -/
def lastBetween? (transitions : List (Nat × Transition)) (position : Nat) (next : Option Nat) :
    Option Transition :=
  match countBefore transitions next with
  | 0 => none
  | n + 1 => do
    let (i, t) ← transitions[n]?
    if position < i then some t else none

end Slot

/-- Where a clip sits, as far as anchors need to know. -/
structure Geometry where
  start : Int
  /-- The frames for which the incoming transition is seen. -/
  incoming : Nat
  /-- The nominal length. -/
  base : Nat
  /-- The length with the frames shared with the next clip. -/
  occupied : Nat
deriving DecidableEq

/-- A clip on the frames of the composition. -/
structure Placement where
  slot : Slot
  /-- The nominal length, at least one. -/
  base : Nat
  /-- The frames shared with the clip before. -/
  shared : Nat
  /-- The first frame; negative only where overlaps exceed the clips before. -/
  start : Int
deriving DecidableEq

namespace Placement

def incomingFrames (p : Placement) : Nat :=
  (p.slot.incoming.map Transition.visible).getD 0

def outgoingFrames (p : Placement) : Nat :=
  (p.slot.outgoing.map Transition.visible).getD 0

/-- The nominal length and the frames shared with the next clip. -/
def duration (p : Placement) : Nat :=
  max 1 (Frame.clampLength (p.base + p.slot.overlap))

def geometry (p : Placement) : Geometry :=
  ⟨p.start, p.incomingFrames, p.base, p.duration⟩

/-- The frame at which the clip is fully seen: a cut, too, counts with the length it states. -/
def visibleStart (p : Placement) : Int :=
  Frame.clamp (p.start + (p.slot.incoming.map (fun t => (t.frames.toNat : Int))).getD 0)

/-- The first frame behind the clip. -/
def stop (p : Placement) : Int :=
  Frame.clamp (p.start + Frame.ofLength p.duration)

def contains (p : Placement) (frame : Int) : Bool :=
  p.start ≤ frame && frame < p.stop

/-- The start of the clip behind this one. -/
def nextStart (p : Placement) : Int :=
  Frame.clamp (Frame.clamp (p.start + Frame.ofLength p.base) - Frame.ofLength p.slot.overlap)

/-- Places clips with their nominal lengths, the first one at `start`. -/
def sequence (start : Int) (shared : Nat) : List (Slot × Nat) → List Placement
  | [] => []
  | (slot, length) :: rest =>
    let p : Placement := ⟨slot, max 1 length, shared, start⟩
    p :: sequence p.nextStart slot.overlap rest

end Placement

structure Schedule where
  clips : List Placement
  totalFrames : Nat
deriving DecidableEq

namespace Schedule

/-- The nominal lengths less the frames that adjacent clips share. -/
def extent (clips : List Placement) : Int :=
  let lengths := Frame.total (clips.map (·.base))
  let shared := Frame.total (clips.dropLast.map (·.slot.overlap))
  (lengths : Int) - (shared : Int)

def ofClips (clips : List Placement) : Schedule :=
  ⟨clips, Frame.clampLength (max 1 (extent clips)).toNat⟩

/-- The clips that occupy a frame: two of them while adjacent clips overlap. -/
def activeAt (s : Schedule) (frame : Int) : List Placement :=
  s.clips.filter (·.contains frame)

end Schedule

namespace Timeline

/-- The transitions with their positions among the items. -/
def transitions (t : Timeline) : List (Nat × Transition) :=
  t.items.zipIdx.filterMap fun (item, i) => item.transition?.map (i, ·)

def slots (t : Timeline) : List Slot :=
  t.clips.zipIdx.map fun ((position, kind), k) =>
    let next := t.clips[k + 1]?.map (·.1)
    ⟨position, kind, Slot.nearestBefore? t.transitions position,
      Slot.lastBetween? t.transitions position next⟩

/-- The schedule of the clips with the given nominal lengths, of which none counts as less than
one. -/
def layout (t : Timeline) (lengths : List Nat) : Except Error Schedule :=
  if t.slots.length = lengths.length then
    .ok (Schedule.ofClips (Placement.sequence 0 0 (t.slots.zip lengths)))
  else .error (.lengthCount t.name t.slots.length lengths.length)

end Timeline

end Storyboard
