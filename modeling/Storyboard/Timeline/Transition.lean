import Storyboard.Text.Case

/-!
Transitions between clips. Only swipes and crossfades make the two clips share frames; a cut is
instantaneous whatever length it states.
-/

namespace Storyboard

inductive Effect where
  | cut
  | fade
  | crossfade
  | swipe
  | slide
  | wipe
  | blur
deriving DecidableEq

inductive Direction where
  | left
  | right
  | up
  | down
deriving DecidableEq

/-- The sides of the cut to which a fade applies. -/
inductive Sides where
  | incoming
  | outgoing
  | both
deriving DecidableEq

namespace Effect

def all : List Effect :=
  [.cut, .fade, .crossfade, .swipe, .slide, .wipe, .blur]

def name : Effect → String
  | .cut => "cut"
  | .fade => "fade"
  | .crossfade => "crossfade"
  | .swipe => "swipe"
  | .slide => "slide"
  | .wipe => "wipe"
  | .blur => "blur"

def ofName? (s : String) : Option Effect :=
  all.find? (·.name = s)

@[simp] theorem ofName?_name (e : Effect) : ofName? e.name = some e := by
  cases e <;> decide

/-- Whether adjacent clips share frames. -/
def overlaps : Effect → Bool
  | .crossfade | .swipe => true
  | _ => false

end Effect

namespace Direction

def all : List Direction :=
  [.left, .right, .up, .down]

def name : Direction → String
  | .left => "left"
  | .right => "right"
  | .up => "up"
  | .down => "down"

def ofName? (s : String) : Option Direction :=
  all.find? (·.name = s)

@[simp] theorem ofName?_name (d : Direction) : ofName? d.name = some d := by
  cases d <;> decide

/-- The direction of a word in any case. -/
def ofWord? (s : List Char) : Option Direction :=
  ofName? (String.ofList (Text.lower s))

end Direction

namespace Sides

def all : List Sides :=
  [.incoming, .outgoing, .both]

def name : Sides → String
  | .incoming => "in"
  | .outgoing => "out"
  | .both => "both"

def ofName? (s : String) : Option Sides :=
  all.find? (·.name = s)

@[simp] theorem ofName?_name (m : Sides) : ofName? m.name = some m := by
  cases m <;> decide

end Sides

structure Transition where
  effect : Effect
  /-- The stated length in frames. -/
  frames : UInt32
  direction : Option Direction
  sides : Option Sides
deriving DecidableEq

namespace Transition

/-- The frames by which the next clip is pulled forward. -/
def overlap (t : Transition) : Nat :=
  if t.effect.overlaps then t.frames.toNat else 0

/-- The frames for which the effect is seen. -/
def visible (t : Transition) : Nat :=
  if t.effect = .cut then 0 else t.frames.toNat

end Transition

end Storyboard
