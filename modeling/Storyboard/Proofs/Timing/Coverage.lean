import Mathlib
import Storyboard.Proofs.Timing.Sequence

/-!
No frame of a composition is empty. A clip that ends at or before a frame hands on a start that is at
or before the frame too, and no less than the exact one; so the clips that miss a frame add up to an
extent that ends before it. Only the floor of one frame is not covered by an extent, and there the
first clip stands.
-/

namespace Storyboard

theorem Schedule.extent_singleton (p : Placement) : extent [p] = p.base := by
  simp [extent, Frame.total]

theorem Schedule.extent_cons_cons (p q : Placement) (rest : List Placement) :
    extent (p :: q :: rest) = p.base - p.slot.overlap + extent (q :: rest) := by
  simp only [extent, Frame.total, List.map_cons, List.foldr_cons, List.dropLast_cons_cons]
  omega

namespace Placement

variable {p : Placement} {frame : Int}

/-- Positions that stop at the end of the range lie behind every frame, so a clip that has ended has
met none of them. The start of the next clip may only have stopped at the other end. -/
theorem nextStart_of_stop_le (hbase : p.base ≤ 2 ^ 63 - 1) (hpos : 1 ≤ p.base) (hzero : 0 ≤ frame)
    (hframe : frame < 2 ^ 63 - 1) (hstop : p.stop ≤ frame) :
    p.start + p.base ≤ frame ∧ p.start + p.base - p.slot.overlap ≤ p.nextStart ∧
      p.nextStart ≤ frame := by
  have hend : p.start + Frame.ofLength p.duration ≤ frame := by
    simp only [stop, Frame.clamp, Frame.least, Frame.greatest] at hstop
    omega
  have hlength : (p.base : Int) ≤ Frame.ofLength p.duration := by
    simp only [Frame.ofLength, duration, Frame.clampLength, Frame.greatest, Frame.greatestLength]
    omega
  have hnext : p.start + p.base ≤ frame := by omega
  refine ⟨hnext, ?_⟩
  simp only [nextStart, Frame.clamp, Frame.ofLength, Frame.least, Frame.greatest]
  omega

/-- Clips that begin at or before a frame cover it, or else their extent ends at or before it. -/
theorem contains_or_extent_le {start : Int} {shared : Nat} {l : List (Slot × Nat)} (hl : l ≠ [])
    (hlengths : ∀ x ∈ l, x.2 ≤ 2 ^ 63 - 1) (hstart : start ≤ frame) (hzero : 0 ≤ frame)
    (hframe : frame < 2 ^ 63 - 1) :
    (∃ p ∈ sequence start shared l, p.contains frame) ∨
      start + Schedule.extent (sequence start shared l) ≤ frame := by
  induction l generalizing start shared with
  | nil => exact absurd rfl hl
  | cons x rest ih =>
      obtain ⟨slot, length⟩ := x
      let p : Placement := ⟨slot, max 1 length, shared, start⟩
      by_cases hstop : frame < p.stop
      · left
        refine ⟨p, List.mem_cons_self, ?_⟩
        simp [contains, hstop, p, hstart]
      have hlength := hlengths _ List.mem_cons_self
      have hbase : p.base ≤ 2 ^ 63 - 1 := by
        simp only [p]
        omega
      obtain ⟨hend, hnext, hahead⟩ :=
        nextStart_of_stop_le hbase (Nat.le_max_left 1 length) hzero hframe (not_lt.mp hstop)
      cases rest with
      | nil =>
          right
          rw [sequence, sequence, Schedule.extent_singleton]
          exact hend
      | cons y rest =>
          rcases ih (by simp) (fun z hz => hlengths z (List.mem_cons_of_mem _ hz)) hahead with
            ⟨q, hq, hcontains⟩ | hextent
          · left
            exact ⟨q, List.mem_cons_of_mem _ hq, hcontains⟩
          · right
            have hwhole : Schedule.extent (sequence start shared ((slot, length) :: y :: rest)) =
                p.base - p.slot.overlap +
                  Schedule.extent (sequence p.nextStart slot.overlap (y :: rest)) :=
              Schedule.extent_cons_cons p _ _
            have hbegun : p.start = start := rfl
            omega

/-- The first frame belongs to the first clip, which is never empty. -/
theorem contains_zero (hstart : p.start = 0) : p.contains 0 := by
  have hstop : 0 < p.stop := by
    simp only [stop, hstart, duration, Frame.clamp, Frame.ofLength, Frame.least, Frame.greatest]
    omega
  simp [contains, hstart, hstop]

end Placement

namespace Timeline

/-- There are no dead frames: with one length for each clip, each of them a length that a position
can count, every frame before the end is active in a clip, whatever the transitions are and even
where the positions have stopped at the end of their range. -/
theorem activeAt_ne_nil {t : Timeline} {lengths : List Nat} (hclips : t.clips ≠ [])
    (hlength : lengths.length = t.clips.length) (hlengths : ∀ n ∈ lengths, n ≤ 2 ^ 63 - 1) :
    ∃ s, t.layout lengths = .ok s ∧
      ∀ frame : Int, 0 ≤ frame → frame < min (s.totalFrames : Int) (2 ^ 63 - 1) →
        s.activeAt frame ≠ [] := by
  refine ⟨_, layout_eq_ok hlength, ?_⟩
  intro frame hzero hframe
  obtain ⟨htotal, hlast⟩ := lt_min_iff.mp hframe
  have hcount : (t.slots.zip lengths).length = t.clips.length := by
    simp [hlength]
  have hsome : t.slots.zip lengths ≠ [] := by
    intro hnil
    rw [hnil] at hcount
    exact hclips (List.length_eq_zero_iff.mp hcount.symm)
  have hzip : ∀ x ∈ t.slots.zip lengths, x.2 ≤ 2 ^ 63 - 1 := by
    intro x hx
    exact hlengths _ (List.of_mem_zip hx).2
  suffices ∃ p ∈ Placement.sequence 0 0 (t.slots.zip lengths), p.contains frame by
    obtain ⟨p, hp, hcontains⟩ := this
    exact List.ne_nil_of_mem (List.mem_filter.mpr ⟨hp, hcontains⟩)
  have hcases : (∃ p ∈ Placement.sequence 0 0 (t.slots.zip lengths), p.contains frame) ∨
      0 + Schedule.extent (Placement.sequence 0 0 (t.slots.zip lengths)) ≤ frame :=
    Placement.contains_or_extent_le hsome hzip hzero hzero hlast
  rcases hcases with hcovered | hextent
  · exact hcovered
  -- The frame is behind the extent, so the total is the floor of one and the frame is the first.
  · have hfirst : frame = 0 := by
      simp only [Schedule.ofClips, Frame.clampLength, Frame.greatestLength] at htotal
      omega
    obtain ⟨x, rest, hx⟩ := List.exists_cons_of_ne_nil hsome
    rw [hx, hfirst]
    exact ⟨_, List.mem_cons_self, Placement.contains_zero rfl⟩

/-- Three cards of which the last one crossfades in. -/
def crossfaded : Timeline :=
  ⟨"t", [.card ⟨"A", none, .zero, [], []⟩, .card ⟨"B", none, .zero, [], []⟩,
    .transition ⟨.crossfade, 100, none, none⟩, .card ⟨"C", none, .zero, [], []⟩]⟩

/-- The start of the last card has stopped, and been pulled back behind the end of the first one. -/
theorem activeAt_ne_nil_crossfaded :
    ∃ s, crossfaded.layout [2 ^ 63 - 1, 2 ^ 63 - 1, 1] = .ok s ∧
      s.clips.map (·.start) = [0, 2 ^ 63 - 1, 2 ^ 63 - 101] ∧ s.activeAt (2 ^ 63 - 2) ≠ [] := by
  have hlength : [2 ^ 63 - 1, 2 ^ 63 - 1, 1].length = crossfaded.clips.length := by decide
  obtain ⟨s, hs, hactive⟩ := activeAt_ne_nil (by decide) hlength (by decide)
  obtain rfl := Except.ok.inj ((layout_eq_ofItems hlength).symm.trans hs)
  exact ⟨_, hs, by decide, hactive _ (by decide) (by decide)⟩

end Timeline

end Storyboard
