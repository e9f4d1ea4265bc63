import Mathlib
import Storyboard.Proofs.Number.Rounding

/-!
Rounding keeps the order of what is rounded. Quotients that are rounded in steps of one size keep
their order step by step; between others there is a power of two, which neither of them crosses.
-/

namespace Storyboard

namespace Magnitude

variable {num den num' den' : Nat}

theorem div_le_div_of_mul_le (hden : 0 < den) (hden' : 0 < den') (h : num * den' ≤ num' * den) :
    num / den ≤ num' / den' := by
  rw [Nat.le_div_iff_mul_le hden']
  have hfloor : num / den * den' * den ≤ num' * den := by
    calc
      num / den * den' * den = num / den * den * den' := Nat.mul_right_comm _ _ _
      _ ≤ num * den' := Nat.mul_le_mul_right _ (Nat.div_mul_le_self num den)
      _ ≤ num' * den := h
  exact Nat.le_of_mul_le_mul_right hfloor hden

/-- Of two quotients with one whole part, what is left of the smaller one is not rounded up where
what is left of the greater one is not. -/
theorem down_of_rest_le {rest rest' whole : Nat} (hden : 0 < den) (hden' : 0 < den')
    (h : rest * den' ≤ rest' * den)
    (hdown : 2 * rest' < den' ∨ (2 * rest' = den' ∧ whole % 2 = 0)) :
    2 * rest < den ∨ (2 * rest = den ∧ whole % 2 = 0) := by
  rcases hdown with hlt | ⟨heq, heven⟩
  · left
    have hprod : 2 * rest * den' < den * den' := by
      calc
        2 * rest * den' = 2 * (rest * den') := Nat.mul_assoc _ _ _
        _ ≤ 2 * (rest' * den) := Nat.mul_le_mul_left _ h
        _ = 2 * rest' * den := (Nat.mul_assoc _ _ _).symm
        _ < den' * den := Nat.mul_lt_mul_of_pos_right hlt hden
        _ = den * den' := Nat.mul_comm _ _
    exact Nat.lt_of_mul_lt_mul_right hprod
  · have hprod : 2 * rest * den' ≤ den * den' := by
      calc
        2 * rest * den' = 2 * (rest * den') := Nat.mul_assoc _ _ _
        _ ≤ 2 * (rest' * den) := Nat.mul_le_mul_left _ h
        _ = den' * den := by rw [← Nat.mul_assoc, heq]
        _ = den * den' := Nat.mul_comm _ _
    rcases (Nat.le_of_mul_le_mul_right hprod hden').lt_or_eq with hlt | hsame
    · exact .inl hlt
    · exact .inr ⟨hsame, heven⟩

/-- In steps of one size, the nearest multiples keep the order. -/
theorem nearest_mono {step : Nat} (hden : 0 < den) (hden' : 0 < den') (hstep : 0 < step)
    (h : num * den' ≤ num' * den) : nearest num den step ≤ nearest num' den' step := by
  have hpos := Nat.mul_pos hden hstep
  have hpos' := Nat.mul_pos hden' hstep
  have hscaled : num * (den' * step) ≤ num' * (den * step) := by
    rw [← Nat.mul_assoc, ← Nat.mul_assoc]
    exact Nat.mul_le_mul_right _ h
  have hsplit := Nat.div_add_mod num (den * step)
  have hsplit' := Nat.div_add_mod num' (den' * step)
  unfold nearest
  dsimp only
  rcases (div_le_div_of_mul_le hpos hpos' hscaled).lt_or_eq with hlt | heq
  · calc
      _ ≤ (num / (den * step) + 1) * step := by
        split
        · exact Nat.mul_le_mul_right _ (Nat.le_succ _)
        · exact le_rfl
      _ ≤ num' / (den' * step) * step := Nat.mul_le_mul_right _ hlt
      _ ≤ _ := by
        split
        · exact le_rfl
        · exact Nat.mul_le_mul_right _ (Nat.le_succ _)
  · rw [heq] at hsplit ⊢
    generalize num' / (den' * step) = whole at hsplit hsplit' ⊢
    have hrest : num % (den * step) * (den' * step) ≤ num' % (den' * step) * (den * step) := by
      rw [← hsplit, ← hsplit'] at hscaled
      nlinarith [hscaled]
    by_cases hdown : 2 * (num' % (den' * step)) < den' * step ∨
        (2 * (num' % (den' * step)) = den' * step ∧ whole % 2 = 0)
    · rw [if_pos (down_of_rest_le hpos hpos' hrest hdown), if_pos hdown]
    · rw [if_neg hdown]
      split
      · exact Nat.mul_le_mul_right _ (Nat.le_succ _)
      · exact le_rfl

/-- Rounding keeps the order of two quotients. -/
theorem round_mono (hden : 0 < den) (hden' : 0 < den') (h : num * den' ≤ num' * den) :
    round num den ≤ round num' den' := by
  have hq := div_le_div_of_mul_le hden hden' h
  rcases (Nat.log_mono_right (b := 2) hq).lt_or_eq with hlt | heq
  · -- A power of two lies between the two quotients.
    rw [← Nat.log2_eq_log_two, ← Nat.log2_eq_log_two] at hlt
    have hne : num' / den' ≠ 0 := by
      intro hzero
      rw [hzero] at hlt
      simp at hlt
    have hbelow : num / den < 2 ^ (num' / den').log2 :=
      Nat.lt_of_lt_of_le Nat.lt_log2_self (Nat.pow_le_pow_right Nat.two_pos hlt)
    have habove : 2 ^ (num' / den').log2 * den' ≤ num' :=
      (Nat.mul_le_mul_right den' (Nat.log2_self_le hne)).trans (Nat.div_mul_le_self num' den')
    have hpower : spacing (2 ^ (num' / den').log2) ∣ 2 ^ (num' / den').log2 := by
      have hdvd := spacing_dvd_mul_pow (k := 1) (s := (num' / den').log2) (by decide)
      rwa [Nat.one_mul] at hdvd
    exact (round_le hden hpower ((Nat.div_lt_iff_lt_mul hden).mp hbelow).le).trans
      (two_pow_le_round hden' habove)
  · have hspacing : spacing (num / den) = spacing (num' / den') := by
      rw [spacing, spacing, Nat.log2_eq_log_two, Nat.log2_eq_log_two, heq]
    rw [round, round, hspacing]
    exact nearest_mono hden hden' (spacing_pos _) h

end Magnitude

end Storyboard
