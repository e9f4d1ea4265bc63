import Mathlib
import Storyboard.Proofs.Timing.Positions

/-!
Frames at which two clips are active. An overlap is counted twice: the later clip begins so many
frames before the earlier one has had its nominal length, and the earlier one stays on so many
frames behind it. So adjacent clips that are long enough share twice the overlap that both state.
-/

namespace Storyboard

/-! ### Frames of two clips -/

/-- The frames at which two clips of a schedule are both active. -/
def Schedule.bothActive (s : Schedule) (p q : Placement) : Set Int :=
  {frame | p ∈ s.activeAt frame ∧ q ∈ s.activeAt frame}

namespace Schedule

variable {s : Schedule} {p q : Placement}

theorem bothActive_eq_Ico (hp : p ∈ s.clips) (hq : q ∈ s.clips) :
    s.bothActive p q = Set.Ico (max p.start q.start) (min p.stop q.stop) := by
  ext frame
  simp only [bothActive, activeAt, List.mem_filter, hp, hq, true_and, Placement.contains,
    Bool.and_eq_true, decide_eq_true_eq, Set.mem_ofPred_eq, Set.mem_Ico, max_le_iff, lt_min_iff]
  exact and_and_and_comm

theorem ncard_bothActive_eq (hp : p ∈ s.clips) (hq : q ∈ s.clips) :
    (s.bothActive p q).ncard = (min p.stop q.stop - max p.start q.start).toNat := by
  rw [bothActive_eq_Ico hp hq, ← Finset.coe_Ico, Set.ncard_coe_finset, Int.card_Ico]

end Schedule

/-! ### Clips laid out exactly -/

namespace Placement

/-- No operation stops at the end of its range at the clip: its lengths are distances between
positions, and each step gives what it gives for unbounded integers. -/
structure Exact (p : Placement) : Prop where
  base : Frame.ofLength p.base = p.base
  overlap : Frame.ofLength p.slot.overlap = p.slot.overlap
  duration : Frame.ofLength p.duration = p.base + p.slot.overlap
  middle : Frame.clamp (p.start + p.base) = p.start + p.base
  next : Frame.clamp (p.start + p.base - p.slot.overlap) = p.start + p.base - p.slot.overlap

namespace Exact

variable {p q : Placement}

theorem nextStart_eq (h : p.Exact) : p.nextStart = p.start + p.base - p.slot.overlap := by
  rw [nextStart, h.base, h.overlap, h.middle, h.next]

theorem stop_eq (h : p.Exact) :
    p.stop = min (p.start + p.base + p.slot.overlap) Frame.greatest := by
  have hmiddle := h.middle
  rw [stop, h.duration]
  simp only [Frame.clamp, Frame.least, Frame.greatest] at hmiddle ⊢
  omega

theorem max_start (h : p.Exact) (hstart : q.start = p.nextStart)
    (hlong : 2 * p.slot.overlap ≤ p.base) :
    max p.start q.start = p.start + p.base - p.slot.overlap := by
  rw [hstart, h.nextStart_eq]
  omega

theorem min_stop (h : p.Exact) (h' : q.Exact) (hstart : q.start = p.nextStart)
    (hlong : 2 * p.slot.overlap ≤ q.base) :
    min p.stop q.stop = p.start + p.base + p.slot.overlap := by
  have hmiddle := h'.middle
  -- The nominal length of the next clip goes at least as far without stopping.
  rw [hstart, h.nextStart_eq] at hmiddle
  rw [h.stop_eq, h'.stop_eq, hstart, h.nextStart_eq]
  simp only [Frame.clamp, Frame.least, Frame.greatest] at hmiddle ⊢
  omega

end Exact

end Placement

theorem Slot.overlap_eq_zero {s : Slot}
    (h : ∀ x ∈ s.outgoing, x.effect ≠ .swipe ∧ x.effect ≠ .crossfade) : s.overlap = 0 := by
  rw [overlap_eq]
  unfold statedOverlap
  split
  · next hout => exact absurd rfl (h _ hout).1
  · next hout => exact absurd rfl (h _ hout).2
  · rfl

namespace Timeline

/-- Adjacent clips that are laid out without stopping at the end of a range, and of which neither
is shorter than twice the frames they are said to share, share twice as many; without a swipe or a
crossfade between them they share none. -/
theorem ncard_bothActive {t : Timeline} {lengths : List Nat} {s : Schedule} {k : Nat}
    {p q : Placement} (h : t.layout lengths = .ok s) (hp : s.clips[k]? = some p)
    (hq : s.clips[k + 1]? = some q) (hexact : p.Exact) (hexact' : q.Exact)
    (hlong : 2 * p.slot.overlap ≤ p.base) (hlong' : 2 * p.slot.overlap ≤ q.base) :
    q.shared = p.slot.overlap ∧ (s.bothActive p q).ncard = 2 * p.slot.overlap ∧
      ((∀ x ∈ p.slot.outgoing, x.effect ≠ .swipe ∧ x.effect ≠ .crossfade) →
        s.bothActive p q = ∅) := by
  have hmem := List.mem_of_getElem? hp
  have hmem' := List.mem_of_getElem? hq
  obtain ⟨hstart, hshared⟩ := next_of_layout h hp hq
  have hfirst := hexact.max_start hstart hlong
  have hlast := hexact.min_stop hexact' hstart hlong'
  refine ⟨hshared, ?_, fun hplain => ?_⟩
  · rw [Schedule.ncard_bothActive_eq hmem hmem', hfirst, hlast]
    omega
  · rw [Schedule.bothActive_eq_Ico hmem hmem', hfirst, hlast, Slot.overlap_eq_zero hplain]
    exact Set.Ico_eq_empty (by omega)

/-- The fifteen frames of a swipe are shared on both sides of the end of the first card. -/
theorem ncard_bothActive_swiped :
    ∃ s p q, swiped.layout [60, 90] = .ok s ∧ s.clips = [p, q] ∧ q.shared = 15 ∧
      (s.bothActive p q).ncard = 30 := by
  have hs : swiped.layout [60, 90] = .ok _ := layout_eq_ofItems (by decide)
  obtain ⟨hshared, hframes, _⟩ := ncard_bothActive (k := 0) hs rfl rfl
    ⟨rfl, rfl, rfl, rfl, rfl⟩ ⟨rfl, rfl, rfl, rfl, rfl⟩ (by decide) (by decide)
  exact ⟨_, _, _, hs, rfl, hshared, hframes⟩

/-- Two cards of which the second one crossfades in. -/
def dissolved : Timeline :=
  ⟨"t", [.card ⟨"A", none, .zero, [], []⟩, .transition ⟨.crossfade, 10, none, none⟩,
    .card ⟨"B", none, .zero, [], []⟩]⟩

/-- The frames that clips are said to share are not as many as they do share. -/
theorem shared_ne_ncard_bothActive :
    ∃ s p q, dissolved.layout [60, 60] = .ok s ∧ s.clips = [p, q] ∧ p.Exact ∧ q.Exact ∧
      2 * p.slot.overlap ≤ p.base ∧ 2 * p.slot.overlap ≤ q.base ∧ p.slot.overlap = 10 ∧
      q.shared = 10 ∧ (s.bothActive p q).ncard = 20 := by
  have hs : dissolved.layout [60, 60] = .ok _ := layout_eq_ofItems (by decide)
  exact ⟨_, _, _, hs, rfl, ⟨rfl, rfl, rfl, rfl, rfl⟩, ⟨rfl, rfl, rfl, rfl, rfl⟩, by decide,
    by decide, rfl, rfl, Schedule.ncard_bothActive_eq List.mem_cons_self
      (List.mem_cons_of_mem _ List.mem_cons_self)⟩

end Timeline

end Storyboard
