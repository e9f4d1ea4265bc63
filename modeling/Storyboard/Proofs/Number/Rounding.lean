import Mathlib
import Storyboard.Number.Binary64

/-!
Laws of rounding: a bound that fifty-three bits can hold is never crossed, a value that they can
hold is kept, and so products and quotients of finite values stay finite where the exact ones do.
-/

namespace Storyboard

namespace Magnitude

theorem spacing_pos (n : Nat) : 0 < spacing n :=
  Nat.two_pow_pos _

theorem spacing_dvd_spacing {m n : Nat} (h : m ≤ n) : spacing m ∣ spacing n := by
  refine Nat.pow_dvd_pow 2 (Nat.sub_le_sub_right ?_ 52)
  rw [Nat.log2_eq_log_two, Nat.log2_eq_log_two]
  exact Nat.log_mono_right h

theorem nearest_le {num den step c : Nat} (hden : 0 < den) (hstep : 0 < step)
    (h : num ≤ c * step * den) : nearest num den step ≤ c * step := by
  have hpos : 0 < den * step := Nat.mul_pos hden hstep
  have hc : num ≤ c * (den * step) := by
    rw [Nat.mul_comm den, ← Nat.mul_assoc]
    exact h
  unfold nearest
  dsimp only
  rcases Nat.lt_or_ge (num / (den * step)) c with hlt | hge
  · split
    · exact Nat.mul_le_mul_right _ hlt.le
    · exact Nat.mul_le_mul_right _ hlt
  · have hnum : num = c * (den * step) :=
      Nat.le_antisymm hc ((Nat.le_div_iff_mul_le hpos).mp hge)
    have hrest : num % (den * step) = 0 := by rw [hnum, Nat.mul_mod_left]
    have hwhole : num / (den * step) = c := by rw [hnum, Nat.mul_div_cancel _ hpos]
    rw [hrest, hwhole, if_pos (Or.inl (by omega))]

theorem le_nearest {num den step c : Nat} (hden : 0 < den) (hstep : 0 < step)
    (h : c * step * den ≤ num) : c * step ≤ nearest num den step := by
  have hc : c ≤ num / (den * step) := by
    rw [Nat.le_div_iff_mul_le (Nat.mul_pos hden hstep), Nat.mul_comm den, ← Nat.mul_assoc]
    exact h
  unfold nearest
  dsimp only
  split
  · exact Nat.mul_le_mul_right _ hc
  · exact Nat.mul_le_mul_right _ (hc.trans (Nat.le_succ _))

/-- Rounding does not cross an upper bound that fifty-three bits can hold. -/
theorem round_le {num den b : Nat} (hden : 0 < den) (hb : spacing b ∣ b) (h : num ≤ b * den) :
    round num den ≤ b := by
  have hq : num / den ≤ b := Nat.div_le_of_le_mul (by rwa [Nat.mul_comm])
  obtain ⟨c, hc⟩ := (spacing_dvd_spacing hq).trans hb
  rw [Nat.mul_comm] at hc
  rw [hc] at h ⊢
  exact nearest_le hden (spacing_pos _) h

/-- Rounding does not cross a power of two from above. -/
theorem two_pow_le_round {num den e : Nat} (hden : 0 < den) (h : 2 ^ e * den ≤ num) :
    2 ^ e ≤ round num den := by
  have hq : 2 ^ e ≤ num / den := (Nat.le_div_iff_mul_le hden).mpr h
  have hne : num / den ≠ 0 := (Nat.lt_of_lt_of_le (Nat.two_pow_pos e) hq).ne'
  have hlog : e ≤ (num / den).log2 := (Nat.le_log2 hne).mpr hq
  obtain ⟨c, hc⟩ : spacing (num / den) ∣ 2 ^ (num / den).log2 :=
    Nat.pow_dvd_pow 2 (Nat.sub_le _ 52)
  rw [Nat.mul_comm] at hc
  have hfloor : 2 ^ (num / den).log2 * den ≤ num :=
    (Nat.mul_le_mul_right den (Nat.log2_self_le hne)).trans (Nat.div_mul_le_self num den)
  rw [hc] at hfloor
  calc
    2 ^ e ≤ 2 ^ (num / den).log2 := Nat.pow_le_pow_right Nat.two_pos hlog
    _ = c * spacing (num / den) := hc
    _ ≤ round num den := le_nearest hden (spacing_pos _) hfloor

/-- A value that fifty-three bits can hold is its own rounding. -/
theorem round_mul {u den : Nat} (hden : 0 < den) (hu : spacing u ∣ u) :
    round (u * den) den = u := by
  refine Nat.le_antisymm (round_le hden hu le_rfl) ?_
  unfold round
  rw [Nat.mul_div_cancel _ hden]
  obtain ⟨c, hc⟩ := hu
  rw [Nat.mul_comm] at hc
  have hfloor : c * spacing u * den ≤ u * den := by rw [← hc]
  have hle := le_nearest hden (spacing_pos u) hfloor
  rwa [← hc] at hle

theorem holds_two_pow {e : Nat} (h : e < 2098) : Holds (2 ^ e) := by
  constructor
  · unfold limit
    apply Nat.pow_lt_pow_right Nat.one_lt_two
    exact h
  · have hdvd := spacing_dvd_mul_pow (k := 1) (s := e) (by decide)
    rwa [Nat.one_mul] at hdvd

theorem exists_one_eq : ∃ e ≤ 1074, one = 2 ^ e :=
  ⟨1074, le_rfl, rfl⟩

theorem one_pos : 0 < one := by
  obtain ⟨e, _, he⟩ := exists_one_eq
  rw [he]
  exact Nat.two_pow_pos e

theorem holds_one : Holds one := by
  obtain ⟨e, hle, he⟩ := exists_one_eq
  rw [he]
  exact holds_two_pow (by omega)

/-- A positive whole number rounds to one at least. -/
theorem one_le_round {n : Nat} (hn : 0 < n) : one ≤ round (n * one) 1 := by
  obtain ⟨e, _, he⟩ := exists_one_eq
  rw [he]
  refine two_pow_le_round Nat.one_pos ?_
  rw [Nat.mul_one]
  exact Nat.le_mul_of_pos_left _ hn

end Magnitude

namespace Binary64
open Magnitude

theorem isFinite_iff {x : Binary64} : x.isFinite ↔ ∃ s u h, x = .finite s u h := by
  refine ⟨fun h => ?_, fun ⟨s, u, hu, hx⟩ => hx ▸ rfl⟩
  cases x with
  | nan | infinite s => cases h
  | finite s u hu => exact ⟨s, u, hu, rfl⟩

theorem zero_le_finite {u : Nat} (h : Magnitude.Holds u) : zero.le (.finite false u h) = true :=
  decide_eq_true (Int.natCast_nonneg u)

theorem zero_le_ofRatio (num den : Nat) : zero.le (ofRatio num den) = true := by
  unfold ofRatio ofUnits
  split
  · exact zero_le_finite _
  · rfl

theorem ofUnits_of_lt {negative : Bool} {num den : Nat} (h : Magnitude.round num den < limit) :
    ofUnits negative num den =
      .finite negative (Magnitude.round num den) ⟨h, spacing_dvd_round num den⟩ :=
  dif_pos h

theorem isFinite_ofUnits {negative : Bool} {num den b : Nat} (hb : Holds b) (hden : 0 < den)
    (h : num ≤ b * den) : (ofUnits negative num den).isFinite := by
  rw [ofUnits_of_lt (Nat.lt_of_le_of_lt (round_le hden hb.2 h) hb.1)]
  rfl

/-- A product is divided exactly by a factor of it where the other factor can be held. -/
theorem ofUnits_mul {negative : Bool} {u den : Nat} (hu : Holds u) (hden : 0 < den) :
    ofUnits negative (u * den) den = .finite negative u hu := by
  have hround : Magnitude.round (u * den) den = u := round_mul hden hu.2
  rw [ofUnits_of_lt (by rw [hround]; exact hu.1)]
  simp only [hround]

theorem one_eq : one = .finite false Magnitude.one holds_one := by
  unfold one ofNat ofRatio
  rw [Nat.one_mul, ← ofUnits_mul holds_one Nat.one_pos, Nat.mul_one]

protected theorem mul_one (x : Binary64) : x * one = x := by
  change x.mul one = x
  rw [one_eq]
  cases x with
  | nan => rfl
  | infinite s =>
      have hne : Magnitude.one ≠ 0 := Magnitude.one_pos.ne'
      cases s <;> simp [mul, hne]
  | finite s u hu =>
      simp only [mul, ofUnits_mul hu Magnitude.one_pos, Bool.bne_false]

theorem isFinite_ofNat {n k : Nat} (hk : k < 1024) (h : n ≤ 2 ^ k) : (ofNat n).isFinite := by
  obtain ⟨e, hle, he⟩ := exists_one_eq
  have hb : Holds (2 ^ (k + e)) := holds_two_pow (by omega)
  unfold ofNat ofRatio
  refine isFinite_ofUnits hb Nat.one_pos ?_
  rw [Nat.mul_one, Nat.pow_add, he]
  exact Nat.mul_le_mul_right _ h

/-- A quotient by a whole number is finite where the dividend is. -/
theorem isFinite_div_ofNat {x : Binary64} {n : Nat} (hx : x.isFinite) (hn : 0 < n) :
    (x / ofNat n).isFinite := by
  obtain ⟨s, u, hu, rfl⟩ := isFinite_iff.mp hx
  change (div _ (ofNat n)).isFinite
  unfold ofNat ofRatio
  by_cases hlt : Magnitude.round (n * Magnitude.one) 1 < limit
  · have hle := one_le_round hn
    have hpos := Nat.lt_of_lt_of_le Magnitude.one_pos hle
    rw [ofUnits_of_lt hlt, div.eq_def]
    simp only [hpos.ne', if_false]
    exact isFinite_ofUnits hu hpos (Nat.mul_le_mul_left u hle)
  · rw [ofUnits, dif_neg hlt]
    rfl

/-- What is above one is not rounded up to less than one. -/
theorem one_le_of_ceil? {x : Binary64} {n : Int} (hx : x.le one = false) (hn : x.ceil? = some n) :
    1 ≤ n := by
  cases x with
  | nan | infinite s => cases hn
  | finite s u hu =>
      rw [one_eq, le, decide_eq_false_iff_not, not_le] at hx
      have hone : 1 ≤ Magnitude.one := Magnitude.one_pos
      -- One has more than a thousand digits, which no step may look at.
      generalize hm : Magnitude.one = m at hx hone
      cases s with
      | true =>
          simp only [signed, if_true, Bool.false_eq_true, if_false] at hx
          omega
      | false =>
          simp only [signed, Bool.false_eq_true, if_false, Nat.cast_lt] at hx
          rw [ceil?, hm] at hn
          obtain rfl := Option.some.inj hn
          have hquotient : 1 ≤ (u + (m - 1)) / m := Nat.div_pos (by omega) hone
          exact_mod_cast hquotient

end Binary64

end Storyboard
