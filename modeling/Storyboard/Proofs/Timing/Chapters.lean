import Mathlib
import Storyboard.Proofs.Timing.Resolution
import Storyboard.Timing.Chapter

/-!
Chapters in the order of their frames. The chapters that have begun at a frame are counted from the
front; since the chapters are in order, each of them has begun exactly if it is among those.
-/

namespace Storyboard.Chapters

/-! ### Order -/

/-- Chapters in the order of their frames, none of which is behind the last position. -/
structure Ordered (c : Chapters) : Prop where
  pairwise : c.list.Pairwise fun a b => a.frame ≤ b.frame
  position : ∀ x ∈ c.list, x.frame ≤ Frame.greatest

theorem perm_ofSchedule (t : Timeline) (s : Schedule) :
    (ofSchedule t s).list.Perm (unsorted t s) :=
  List.mergeSort_perm _ _

theorem mem_unsorted {t : Timeline} {s : Schedule} {x : Chapter} :
    x ∈ unsorted t s ↔ ∃ p clip, s.clips[clip]? = some p ∧ ofClip? t p clip = some x := by
  simp only [unsorted, List.mem_filterMap, List.mem_zipIdx_iff_getElem?, Prod.exists]

theorem ordered_ofSchedule (t : Timeline) (s : Schedule) : (ofSchedule t s).Ordered where
  pairwise := by
    have hsorted : (ofSchedule t s).list.Pairwise fun a b => decide (a.frame ≤ b.frame) :=
      List.pairwise_mergeSort (fun a b c hab hbc => by simp only [decide_eq_true_eq] at *; omega)
        (fun a b => by simp only [Bool.or_eq_true, decide_eq_true_eq]; omega) (unsorted t s)
    exact hsorted.imp of_decide_eq_true
  position x hx := by
    obtain ⟨p, clip, _, hp⟩ := mem_unsorted.mp ((perm_ofSchedule t s).mem_iff.mp hx)
    unfold ofClip? at hp
    split at hp
    · cases hp
      exact max_le (by decide) (min_le_right _ _)
    · cases hp

theorem ofSchedule_of_pairwise {t : Timeline} {s : Schedule}
    (h : (unsorted t s).Pairwise fun a b => a.frame ≤ b.frame) :
    ofSchedule t s = ⟨unsorted t s, Frame.clamp (Frame.ofLength s.totalFrames - 1)⟩ := by
  rw [ofSchedule, List.mergeSort_of_pairwise (h.imp decide_eq_true)]

theorem list_ne_nil {t : Timeline} {lengths : List Nat} {s : Schedule} {i : Nat}
    (h : t.layout lengths = .ok s) (hcard : (i, .card) ∈ t.clips) :
    (ofSchedule t s).list ≠ [] := by
  rw [← Timeline.clips_of_layout h] at hcard
  obtain ⟨p, hp, hkind⟩ := List.mem_map.mp hcard
  obtain ⟨clip, hclip⟩ := List.mem_iff_getElem?.mp hp
  obtain ⟨x, hx⟩ : ∃ x, ofClip? t p clip = some x := by
    rw [ofClip?, (Prod.mk.inj hkind).2]
    exact ⟨_, rfl⟩
  have hmem : x ∈ unsorted t s := mem_unsorted.mpr ⟨p, clip, hclip, hx⟩
  exact List.ne_nil_of_mem ((perm_ofSchedule t s).mem_iff.mpr hmem)

/-! ### Chapters that have begun -/

variable {c : Chapters} {frame : Int} {k l : Nat} {x y : Chapter}

theorem Ordered.frame_le (hc : c.Ordered) (hkl : k ≤ l) (hx : c.list[k]? = some x)
    (hy : c.list[l]? = some y) : x.frame ≤ y.frame := by
  obtain ⟨hk, rfl⟩ := List.getElem?_eq_some_iff.mp hx
  obtain ⟨hl, rfl⟩ := List.getElem?_eq_some_iff.mp hy
  rcases Nat.eq_or_lt_of_le hkl with rfl | hlt
  · exact Int.le_refl _
  · exact List.pairwise_iff_getElem.mp hc.pairwise k l hk hl hlt

theorem begun_le_length (c : Chapters) (frame : Int) : c.begun frame ≤ c.list.length :=
  (List.takeWhile_sublist _).length_le

theorem frame_le_of_lt_begun (hk : k < c.begun frame) (hx : c.list[k]? = some x) :
    x.frame ≤ frame := by
  have hfront : (c.list.takeWhile (·.frame ≤ frame))[k]? = some x := by
    rw [← List.takeWhile_append_dropWhile (p := (·.frame ≤ frame)) (l := c.list),
      List.getElem?_append_left hk] at hx
    exact hx
  have hbegun := List.mem_takeWhile_imp (List.mem_of_getElem? hfront)
  exact of_decide_eq_true hbegun

theorem lt_frame_of_begun (hx : c.list[c.begun frame]? = some x) : frame < x.frame := by
  have hbehind : (c.list.dropWhile (·.frame ≤ frame)).head? = some x := by
    rw [← List.takeWhile_append_dropWhile (p := (·.frame ≤ frame)) (l := c.list), begun,
      List.getElem?_append_right (Nat.le_refl _), Nat.sub_self, ← List.head?_eq_getElem?] at hx
    exact hx
  have hstop := List.head?_dropWhile_not (fun y : Chapter => y.frame ≤ frame) c.list
  rw [hbehind] at hstop
  exact not_le.mp (of_decide_eq_false hstop)

theorem begun_eq_length_iff : c.begun frame = c.list.length ↔ ∀ x ∈ c.list, x.frame ≤ frame := by
  constructor
  · intro hbegun x hmem
    obtain ⟨k, hk⟩ := List.mem_iff_getElem?.mp hmem
    exact frame_le_of_lt_begun (hbegun ▸ (List.getElem?_eq_some_iff.mp hk).1) hk
  · intro hall
    refine Nat.le_antisymm (c.begun_le_length frame) (not_lt.mp fun hlt => ?_)
    have hlater := lt_frame_of_begun (List.getElem?_eq_getElem hlt)
    exact not_lt.mpr (hall _ (List.getElem_mem hlt)) hlater

theorem Ordered.lt_begun_iff (hc : c.Ordered) (hx : c.list[k]? = some x) :
    k < c.begun frame ↔ x.frame ≤ frame := by
  refine ⟨fun hk => frame_le_of_lt_begun hk hx, fun hframe => ?_⟩
  by_contra hk
  have hthere : c.begun frame < c.list.length :=
    Nat.lt_of_le_of_lt (not_lt.mp hk) (List.getElem?_eq_some_iff.mp hx).1
  have hfirst : c.list[c.begun frame]? = some c.list[c.begun frame] :=
    List.getElem?_eq_getElem hthere
  have hlater := lt_frame_of_begun hfirst
  have hbefore := hc.frame_le (not_lt.mp hk) hfirst hx
  omega

end Storyboard.Chapters
