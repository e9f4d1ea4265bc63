import Mathlib
import Storyboard.Text.Search

/-!
Where a text occurs in another one, and what replacing it does. Occurrences of a mark, whose first
character comes only once in it, have no characters in common, so replacing reaches each of them.
-/

namespace Storyboard.Text

/-- The number of places where a text occurs in another one. -/
def occurrences (part : List Char) : List Char → Nat
  | [] => 0
  | c :: rest => (if part.isPrefixOf (c :: rest) then 1 else 0) + occurrences part rest

/-- A text that begins with a character that comes only once in it. -/
def IsMark (part : List Char) : Prop :=
  ∃ c rest, part = c :: rest ∧ c ∉ rest

variable {part value s t : List Char}

theorem occurrences_le_append (part s t : List Char) :
    occurrences part t ≤ occurrences part (s ++ t) := by
  induction s with
  | nil => exact le_rfl
  | cons c s ih =>
      rw [List.cons_append, occurrences]
      exact ih.trans (Nat.le_add_left _ _)

theorem occurrences_cons {c : Char} (h : ¬ part <+: c :: s) :
    occurrences part (c :: s) = occurrences part s := by
  rw [occurrences, if_neg (h ∘ List.isPrefixOf_iff_prefix.mp), Nat.zero_add]

/-- Where a text begins with a character that comes nowhere in the front of another one, it does
not occur there. -/
theorem occurrences_append_of_not_mem {c : Char} (hs : c ∉ s) (rest t : List Char) :
    occurrences (c :: rest) (s ++ t) = occurrences (c :: rest) t := by
  induction s with
  | nil => rfl
  | cons d s ih =>
      rw [List.mem_cons, not_or] at hs
      rw [List.cons_append, occurrences_cons (fun h => hs.1 (List.cons_prefix_cons.mp h).1),
        ih hs.2]

/-- A character that a text does not have divides its occurrences. -/
theorem occurrences_append_cons {d : Char} (hpart : part ≠ []) (hd : d ∉ part)
    (s t : List Char) :
    occurrences part (s ++ d :: t) = occurrences part s + occurrences part t := by
  induction s with
  | nil =>
      have hfront : ¬ part <+: d :: t := by
        obtain ⟨c, part, rfl⟩ := List.exists_cons_of_ne_nil hpart
        exact fun h => hd ((List.cons_prefix_cons.mp h).1 ▸ List.mem_cons_self)
      rw [List.nil_append, occurrences_cons hfront, occurrences, Nat.zero_add]
  | cons c s ih =>
      have hfront : part.isPrefixOf (c :: s ++ d :: t) = part.isPrefixOf (c :: s) := by
        rw [Bool.eq_iff_iff, List.isPrefixOf_iff_prefix, List.isPrefixOf_iff_prefix]
        refine ⟨fun h => ?_, fun h => h.trans (List.prefix_append _ _)⟩
        obtain hle | ⟨rest, rfl⟩ :=
          List.prefix_or_prefix_of_prefix h (List.prefix_append (c :: s) (d :: t))
        · exact hle
        · cases rest with
          | nil => rw [List.append_nil]
          | cons e rest =>
              obtain ⟨rfl, -⟩ := List.cons_prefix_cons.mp ((List.prefix_append_right_inj _).mp h)
              exact absurd (List.mem_append_right _ List.mem_cons_self) hd
      rw [List.cons_append] at hfront ⊢
      rw [occurrences, occurrences, hfront, ih, Nat.add_assoc]

namespace IsMark

theorem ne_nil (h : IsMark part) : part ≠ [] := by
  obtain ⟨c, rest, rfl, -⟩ := h
  exact List.cons_ne_nil c rest

theorem occurrences_append (h : IsMark part) (t : List Char) :
    occurrences part (part ++ t) = 1 + occurrences part t := by
  obtain ⟨c, rest, rfl, hc⟩ := h
  have hfront : (c :: rest).isPrefixOf (c :: (rest ++ t)) = true :=
    List.isPrefixOf_iff_prefix.mpr (List.prefix_append (c :: rest) t)
  rw [List.cons_append, occurrences, if_pos hfront, occurrences_append_of_not_mem hc]

theorem infix_iff (h : IsMark part) : part <:+: s ↔ occurrences part s ≠ 0 := by
  induction s with
  | nil => simp [occurrences, h.ne_nil]
  | cons c s ih =>
      rw [List.infix_cons_iff, ih, occurrences, ← List.isPrefixOf_iff_prefix]
      split <;> simp_all

end IsMark

/-! ### Replacing -/

theorem replaceFrom_append (part value s t : List Char) :
    replaceFrom part value s.length (s ++ t) = replaceAll part value t := by
  induction s with
  | nil => rfl
  | cons c s ih => exact ih

theorem replaceAll_mark (hpart : part ≠ []) (value t : List Char) :
    replaceAll part value (part ++ t) = value ++ replaceAll part value t := by
  obtain ⟨c, rest, rfl⟩ := List.exists_cons_of_ne_nil hpart
  have hfront : (c :: rest).isPrefixOf (c :: (rest ++ t)) = true :=
    List.isPrefixOf_iff_prefix.mpr (List.prefix_append (c :: rest) t)
  rw [List.cons_append, replaceAll, replaceFrom, if_pos hfront]
  exact congrArg (value ++ ·) (replaceFrom_append _ _ rest t)

/-- A front in which no occurrence begins is kept. -/
theorem replaceAll_append (value : List Char)
    (h : occurrences part (s ++ t) = occurrences part t) :
    replaceAll part value (s ++ t) = s ++ replaceAll part value t := by
  induction s with
  | nil => rfl
  | cons c s ih =>
      have hle := occurrences_le_append part s t
      rw [List.cons_append, occurrences] at h
      split at h
      · omega
      · next hfront =>
          rw [List.cons_append, replaceAll, replaceFrom, if_neg hfront]
          exact congrArg (c :: ·) (ih (by omega))

/-- Replacing changes the length by as much for each occurrence. -/
theorem IsMark.length_replaceAll (h : IsMark part) (value s : List Char) :
    (replaceAll part value s).length + occurrences part s * part.length =
      s.length + occurrences part s * value.length := by
  induction hn : s.length using Nat.strong_induction_on generalizing s with
  | h n ih =>
  subst hn
  cases s with
  | nil => simp [replaceAll, replaceFrom, occurrences]
  | cons c s =>
      by_cases hfront : part.isPrefixOf (c :: s) = true
      · obtain ⟨t, ht⟩ := List.isPrefixOf_iff_prefix.mp hfront
        have hlength := List.length_pos_iff.mpr h.ne_nil
        rw [← ht, replaceAll_mark h.ne_nil, h.occurrences_append, List.length_append,
          List.length_append, Nat.add_mul, Nat.add_mul]
        have hrest := ih t.length (by rw [← ht, List.length_append]; omega) t rfl
        omega
      · have hkept : occurrences part ([c] ++ s) = occurrences part s :=
          occurrences_cons (hfront ∘ List.isPrefixOf_iff_prefix.mpr)
        have hrest := ih s.length (Nat.lt_succ_self _) s rfl
        change (replaceAll part value ([c] ++ s)).length + occurrences part ([c] ++ s) * _ =
          _ + occurrences part ([c] ++ s) * _
        rw [replaceAll_append value hkept, hkept, List.length_append, List.length_singleton,
          List.length_cons]
        omega

end Storyboard.Text
