/-!
Frame positions and lengths. A position is an integer of sixty-four bits, a length a natural number
of sixty-four bits; arithmetic that leaves the range stops at its end.
-/

namespace Storyboard.Frame

def least : Int := -0x8000000000000000

def greatest : Int := 0x7fffffffffffffff

def greatestLength : Nat := 0xffffffffffffffff

/-- The position nearest to an integer. -/
def clamp (x : Int) : Int :=
  max least (min x greatest)

/-- The length nearest to a natural number. -/
def clampLength (n : Nat) : Nat :=
  min n greatestLength

/-- A length as a distance between positions. -/
def ofLength (n : Nat) : Int :=
  min (n : Int) greatest

/-- The sum of some lengths. -/
def total (lengths : List Nat) : Nat :=
  lengths.foldr (· + ·) 0

theorem clamp_eq {x : Int} (hl : least ≤ x) (hg : x ≤ greatest) : clamp x = x := by
  unfold clamp
  omega

theorem ofLength_eq {n : Nat} (h : (n : Int) ≤ greatest) : ofLength n = n := by
  unfold ofLength
  omega

end Storyboard.Frame
