/-!
Binary64 numbers, exactly. A finite magnitude is a natural number of *units*, where a unit is
`2 ^ -1074`, the least positive value; so every finite value is an integer multiple of one unit
and comparisons and sums are integer arithmetic. An operation computes its exact result as a
quotient of naturals and rounds once: to nearest, a tie to the even significand, and to infinity
from `2 ^ 1024` on.
-/

namespace Storyboard

namespace Magnitude

/-- One, in units. -/
def one : Nat := Nat.pow 2 1074

/-- The first power of two, in units, that is too large to be finite. -/
def limit : Nat := Nat.pow 2 2098

/-- The place value of the last of fifty-three significant bits. -/
def spacing (n : Nat) : Nat :=
  Nat.pow 2 (n.log2 - 52)

/-- A natural number of units that fifty-three significant bits can hold. -/
def Holds (n : Nat) : Prop :=
  n < limit ∧ spacing n ∣ n

/-- The multiple of `step` nearest to `num / den`; of two, the even one. -/
def nearest (num den step : Nat) : Nat :=
  let whole := num / (den * step)
  let rest := num % (den * step)
  if 2 * rest < den * step ∨ (2 * rest = den * step ∧ whole % 2 = 0) then whole * step
  else (whole + 1) * step

/-- The quotient `num / den` rounded to fifty-three significant bits. -/
def round (num den : Nat) : Nat :=
  nearest num den (spacing (num / den))

theorem div_spacing_lt (n : Nat) : n / spacing n < Nat.pow 2 53 := by
  unfold spacing
  simp only [Nat.pow_eq]
  rw [Nat.div_lt_iff_lt_mul (Nat.two_pow_pos _), ← Nat.pow_add]
  exact Nat.lt_of_lt_of_le Nat.lt_log2_self (Nat.pow_le_pow_right (by omega) (by omega))

theorem spacing_dvd_mul_pow {k s : Nat} (hk : k ≤ Nat.pow 2 53) :
    spacing (k * Nat.pow 2 s) ∣ k * Nat.pow 2 s := by
  unfold spacing
  simp only [Nat.pow_eq] at hk ⊢
  rcases Nat.eq_or_lt_of_le hk with rfl | hk
  · rw [← Nat.pow_add, Nat.log2_two_pow]
    exact Nat.pow_dvd_pow 2 (by omega)
  · rcases Nat.eq_zero_or_pos k with rfl | hpos
    · simp
    · refine Nat.dvd_trans (Nat.pow_dvd_pow 2 ?_) (Nat.dvd_mul_left _ _)
      have hlt : k * 2 ^ s < 2 ^ (53 + s) := by
        rw [Nat.pow_add]
        exact Nat.mul_lt_mul_of_pos_right hk (Nat.two_pow_pos s)
      have hpow : 2 ^ s ≠ 0 := Nat.pos_iff_ne_zero.1 (Nat.two_pow_pos s)
      have := (Nat.log2_lt (Nat.mul_ne_zero (by omega) hpow)).2 hlt
      omega

/-- What rounding gives fits fifty-three significant bits. -/
theorem spacing_dvd_round (num den : Nat) : spacing (round num den) ∣ round num den := by
  have hlt : num / (den * spacing (num / den)) < Nat.pow 2 53 := by
    rw [← Nat.div_div_eq_div_mul]
    exact div_spacing_lt _
  unfold round nearest
  dsimp only
  split
  · exact spacing_dvd_mul_pow (s := (num / den).log2 - 52) (by omega)
  · exact spacing_dvd_mul_pow (s := (num / den).log2 - 52) (by omega)

end Magnitude

open Magnitude in
inductive Binary64 where
  | nan
  | infinite (negative : Bool)
  /-- A finite value: its sign, its magnitude in units, and that the magnitude can be held. -/
  | finite (negative : Bool) (units : Nat) (holds : Holds units)
deriving DecidableEq

namespace Binary64
open Magnitude

theorem holds_zero : Holds 0 :=
  ⟨by unfold limit; apply Nat.pow_pos; exact Nat.two_pos, Nat.dvd_zero _⟩

/-- Zero with a sign. -/
def signedZero (negative : Bool) : Binary64 :=
  .finite negative 0 holds_zero

def zero : Binary64 := signedZero false

instance : Inhabited Binary64 := ⟨zero⟩

/-- A quotient of naturals, in units, with a sign, rounded. -/
def ofUnits (negative : Bool) (num den : Nat) : Binary64 :=
  if h : round num den < limit then
    .finite negative (round num den) ⟨h, spacing_dvd_round num den⟩
  else .infinite negative

/-- The quotient `num / den`, rounded. -/
def ofRatio (num den : Nat) : Binary64 :=
  ofUnits false (num * one) den

def ofNat (n : Nat) : Binary64 :=
  ofRatio n 1

def neg : Binary64 → Binary64
  | .nan => .nan
  | .infinite s => .infinite !s
  | .finite s u h => .finite (!s) u h

/-- The value with the sign of `negative` in place of a positive one. -/
def withSign (negative : Bool) (x : Binary64) : Binary64 :=
  if negative then x.neg else x

def ofInt (n : Int) : Binary64 :=
  (ofNat n.natAbs).withSign (n < 0)

def isNaN : Binary64 → Bool
  | .nan => true
  | _ => false

def isFinite : Binary64 → Bool
  | .finite .. => true
  | _ => false

def isZero : Binary64 → Bool
  | .finite _ 0 _ => true
  | _ => false

/-- The signed number of units of a finite value. -/
def signed (negative : Bool) (units : Nat) : Int :=
  if negative then -units else units

def le : Binary64 → Binary64 → Bool
  | .nan, _ => false
  | _, .nan => false
  | .infinite true, _ => true
  | _, .infinite false => true
  | .infinite false, _ => false
  | _, .infinite true => false
  | .finite s u _, .finite t v _ => signed s u ≤ signed t v

def lt (x y : Binary64) : Bool :=
  x.le y && !y.le x

/-- Numeric equality: the two zeros are equal and nothing equals a NaN. -/
def same (x y : Binary64) : Bool :=
  x.le y && y.le x

def mul : Binary64 → Binary64 → Binary64
  | .nan, _ => .nan
  | _, .nan => .nan
  | .infinite s, .infinite t => .infinite (s != t)
  | .infinite s, .finite t v _ => if v = 0 then .nan else .infinite (s != t)
  | .finite s u _, .infinite t => if u = 0 then .nan else .infinite (s != t)
  | .finite s u _, .finite t v _ => ofUnits (s != t) (u * v) one

def div : Binary64 → Binary64 → Binary64
  | .nan, _ => .nan
  | _, .nan => .nan
  | .infinite _, .infinite _ => .nan
  | .infinite s, .finite t _ _ => .infinite (s != t)
  | .finite s _ _, .infinite t => signedZero (s != t)
  | .finite s u _, .finite t v _ =>
    if v = 0 then (if u = 0 then .nan else .infinite (s != t))
    else ofUnits (s != t) (u * one) v

/-- The sum; two opposite values give the positive zero. -/
def add : Binary64 → Binary64 → Binary64
  | .nan, _ => .nan
  | _, .nan => .nan
  | .infinite s, .infinite t => if s = t then .infinite s else .nan
  | .infinite s, .finite .. => .infinite s
  | .finite .., .infinite t => .infinite t
  | .finite s u _, .finite t v _ =>
    let sum := signed s u + signed t v
    if sum = 0 then signedZero (s && t) else ofUnits (sum < 0) sum.natAbs 1

instance : Neg Binary64 := ⟨neg⟩
instance : Add Binary64 := ⟨add⟩
instance : Sub Binary64 := ⟨fun x y => x.add y.neg⟩
instance : Mul Binary64 := ⟨mul⟩
instance : Div Binary64 := ⟨div⟩

def one : Binary64 := ofNat 1

/-- The smaller of two values; a NaN gives way to the other. -/
def least (x y : Binary64) : Binary64 :=
  if x.isNaN then y else if y.isNaN then x else if x.le y then x else y

/-- The value brought between zero and one; a NaN stays. -/
def toUnitInterval (x : Binary64) : Binary64 :=
  if x.lt zero then zero else if one.lt x then one else x

/-- The nearest integer, a half away from zero; none for a value that is not finite. -/
def round? : Binary64 → Option Int
  | .finite s u _ => some (signed s ((2 * u + Magnitude.one) / (2 * Magnitude.one)))
  | _ => none

/-- The least integer that is not below a finite value; none for a value that is not finite. -/
def ceil? : Binary64 → Option Int
  | .finite false u _ => some ((u + (Magnitude.one - 1)) / Magnitude.one : Nat)
  | .finite true u _ => some (-(u / Magnitude.one : Nat))
  | _ => none

end Binary64

end Storyboard
