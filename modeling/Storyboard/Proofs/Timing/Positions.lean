import Mathlib
import Storyboard.Proofs.Timing.Sequence

/-!
Positions of the clips as sums. The length of a composition is the sum of the nominal lengths less
the frames that adjacent clips share, brought into range once at the end. A start is reached step by
step, each of which may stop at the end of the range; as long as the lengths add up to a position
and there are not too many clips, none does, and the starts are partial sums.
-/

namespace Storyboard
open Finset (range)

/-! ### Overlaps told by position -/

/-- The frames that a transition makes two clips share: what a swipe or a crossfade states. -/
def statedOverlap : Option Transition → Nat
  | some ⟨.swipe, frames, _, _⟩ => frames.toNat
  | some ⟨.crossfade, frames, _, _⟩ => frames.toNat
  | _ => 0

theorem statedOverlap_le (o : Option Transition) : statedOverlap o ≤ 2 ^ 32 - 1 := by
  unfold statedOverlap
  split
  · next frames _ _ =>
      have := frames.toNat_lt
      omega
  · next frames _ _ =>
      have := frames.toNat_lt
      omega
  · exact Nat.zero_le _

theorem Slot.overlap_eq (s : Slot) : s.overlap = statedOverlap s.outgoing := by
  rcases s with ⟨_, _, _, _ | ⟨effect, frames, _, _⟩⟩
  · rfl
  · cases effect <;> rfl

namespace Timeline

/-- The frames that clip `k` shares with the next one; behind the last clip those it would share. -/
def overlapBehind (t : Timeline) (k : Nat) : Nat :=
  match t.clips[k]? with
  | some (i, _) => statedOverlap (t.latestIn? (i + 1) (t.reach k))
  | none => 0

theorem overlapBehind_le (t : Timeline) (k : Nat) : t.overlapBehind k ≤ 2 ^ 32 - 1 := by
  unfold overlapBehind
  split
  · exact statedOverlap_le _
  · exact Nat.zero_le _

theorem base_of_layout {t : Timeline} {lengths : List Nat} {s : Schedule} {k : Nat} {p : Placement}
    (h : t.layout lengths = .ok s) (hp : s.clips[k]? = some p) : p.base = nominal lengths k := by
  obtain ⟨i, kind, _, hbase, _⟩ := clip_of_layout h hp
  exact hbase

theorem overlap_of_layout {t : Timeline} {lengths : List Nat} {s : Schedule} {k : Nat}
    {p : Placement} (h : t.layout lengths = .ok s) (hp : s.clips[k]? = some p) :
    p.slot.overlap = t.overlapBehind k := by
  obtain ⟨i, kind, hclip, _, hslot⟩ := clip_of_layout h hp
  rw [Slot.overlap_eq, hslot, overlapBehind, hclip]

end Timeline

/-! ### The length of the composition -/

theorem sum_map_eq_sum_range {α : Type} {l : List α} {g : α → Nat} {f : Nat → Nat}
    (h : ∀ k x, l[k]? = some x → g x = f k) : (l.map g).sum = ∑ k ∈ range l.length, f k := by
  induction l generalizing f with
  | nil => rfl
  | cons x l ih =>
      rw [List.map_cons, List.sum_cons, List.length_cons, Finset.sum_range_succ', h 0 x rfl,
        ih fun k y hk => h (k + 1) y hk, Nat.add_comm]

namespace Timeline

/-- The nominal lengths less the overlaps of adjacent clips. -/
def exactExtent (t : Timeline) (lengths : List Nat) : Int :=
  ∑ k ∈ range t.clips.length, (nominal lengths k : Int) -
    ∑ k ∈ range (t.clips.length - 1), (t.overlapBehind k : Int)

theorem extent_of_layout {t : Timeline} {lengths : List Nat} {s : Schedule}
    (h : t.layout lengths = .ok s) : Schedule.extent s.clips = t.exactExtent lengths := by
  have bases : Frame.total (s.clips.map (·.base)) = ∑ k ∈ range t.clips.length, nominal lengths k := by
    rw [← length_clips h]
    exact sum_map_eq_sum_range fun k p hp => base_of_layout h hp
  have overlaps : Frame.total (s.clips.dropLast.map (·.slot.overlap)) =
      ∑ k ∈ range (t.clips.length - 1), t.overlapBehind k := by
    rw [← length_clips h, ← List.length_dropLast]
    refine sum_map_eq_sum_range fun k p hp => overlap_of_layout h ?_
    rw [List.getElem?_dropLast] at hp
    split at hp
    · exact hp
    · cases hp
  rw [Schedule.extent, bases, overlaps, exactExtent, Nat.cast_sum, Nat.cast_sum]

/-! ### Starts as partial sums -/

/-- The start of clip `k` where nothing leaves the range. -/
def exactStart (t : Timeline) (lengths : List Nat) (k : Nat) : Int :=
  ∑ j ∈ range k, (nominal lengths j : Int) - ∑ j ∈ range k, (t.overlapBehind j : Int)

theorem exactStart_succ (t : Timeline) (lengths : List Nat) (k : Nat) :
    t.exactStart lengths (k + 1) =
      t.exactStart lengths k + nominal lengths k - t.overlapBehind k := by
  simp only [exactStart, Finset.sum_range_succ]
  omega

/-- What keeps every position in range: the lengths add up to one, and clips are not too many. -/
structure Fits (t : Timeline) (lengths : List Nat) : Prop where
  total_le : ∑ k ∈ range t.clips.length, nominal lengths k ≤ 2 ^ 63 - 1
  count_lt : t.clips.length < 2 ^ 31

variable {t : Timeline} {lengths : List Nat}

theorem Fits.partial_le (h : t.Fits lengths) {k : Nat} (hk : k ≤ t.clips.length) :
    ∑ j ∈ range k, nominal lengths j ≤ 2 ^ 63 - 1 :=
  Nat.le_trans (Finset.sum_le_sum_of_subset (Finset.range_mono hk)) h.total_le

theorem Fits.overlaps_le (h : t.Fits lengths) {k : Nat} (hk : k ≤ t.clips.length) :
    ∑ j ∈ range k, t.overlapBehind j ≤ 2 ^ 63 := by
  have each : ∑ j ∈ range k, t.overlapBehind j ≤ (range k).card • (2 ^ 32 - 1) :=
    Finset.sum_le_card_nsmul _ _ _ fun j _ => t.overlapBehind_le j
  rw [Finset.card_range, smul_eq_mul] at each
  have := h.count_lt
  omega

/-- A start is in range, and so is the position behind the nominal length. -/
theorem Fits.start_bounds (h : t.Fits lengths) {k : Nat} (hk : k ≤ t.clips.length) :
    -2 ^ 63 ≤ t.exactStart lengths k ∧
      (k < t.clips.length → t.exactStart lengths k + nominal lengths k ≤ 2 ^ 63 - 1) := by
  have behind := h.overlaps_le hk
  rw [exactStart, ← Nat.cast_sum, ← Nat.cast_sum]
  refine ⟨by omega, fun hlt => ?_⟩
  have ahead := h.partial_le (Nat.succ_le_of_lt hlt)
  rw [Finset.sum_range_succ] at ahead
  omega

theorem Fits.nominal_le (h : t.Fits lengths) {k : Nat} (hk : k < t.clips.length) :
    nominal lengths k ≤ 2 ^ 63 - 1 := by
  have := h.partial_le (Nat.succ_le_of_lt hk)
  rw [Finset.sum_range_succ] at this
  omega

end Timeline

namespace Placement

/-- The step from one start to the next, where it stays in range. -/
theorem nextStart_eq {p : Placement} (hlow : -2 ^ 63 ≤ p.start)
    (hmiddle : p.start + p.base ≤ 2 ^ 63 - 1) (hbase : p.base ≤ 2 ^ 63 - 1)
    (hoverlap : p.slot.overlap ≤ 2 ^ 63 - 1)
    (hnext : -2 ^ 63 ≤ p.start + p.base - p.slot.overlap) :
    p.nextStart = p.start + p.base - p.slot.overlap := by
  simp only [nextStart, Frame.clamp, Frame.ofLength, Frame.least, Frame.greatest]
  omega

theorem duration_eq {p : Placement} (hpos : 1 ≤ p.base)
    (h : p.base + p.slot.overlap ≤ 2 ^ 64 - 1) : p.duration = p.base + p.slot.overlap := by
  simp only [duration, Frame.clampLength, Frame.greatestLength]
  omega

end Placement

namespace Timeline

variable {t : Timeline} {lengths : List Nat} {s : Schedule}

theorem start_eq_exactStart (h : t.layout lengths = .ok s) (hfits : t.Fits lengths) {k : Nat}
    {p : Placement} (hp : s.clips[k]? = some p) : p.start = t.exactStart lengths k := by
  induction k generalizing p with
  | zero => exact (first_of_layout h hp).1
  | succ k ih =>
      have hlt : k + 1 < t.clips.length := lt_length_of_layout h hp
      have hk : k < s.clips.length := by
        rw [length_clips h]
        omega
      have hq : s.clips[k]? = some s.clips[k] := List.getElem?_eq_getElem hk
      have start := ih hq
      have base := base_of_layout h hq
      have overlap := overlap_of_layout h hq
      have here := hfits.start_bounds (Nat.le_of_lt (Nat.lt_of_succ_lt hlt))
      have there := hfits.start_bounds (Nat.le_of_lt hlt)
      have length_le := hfits.nominal_le (Nat.lt_of_succ_lt hlt)
      have overlap_le := t.overlapBehind_le k
      have middle := here.2 (Nat.lt_of_succ_lt hlt)
      rw [exactStart_succ] at there ⊢
      rw [(next_of_layout h hq hp).1, Placement.nextStart_eq, start, base, overlap]
      · rw [start]
        exact here.1
      · rw [start, base]
        exact middle
      · rw [base]
        exact length_le
      · omega
      · rw [start, base, overlap]
        exact there.1

end Timeline

/-! ### The law of the layout -/

/-- A schedule that is laid out exactly: for nominal lengths `b` and overlaps `o` every quantity is
the one of unbounded integers, since no operation on the way leaves its range. -/
structure Schedule.Exact (s : Schedule) (b o : Nat → Nat) : Prop where
  first : ∀ p : Placement, s.clips[0]? = some p → p.start = 0 ∧ p.shared = 0
  next : ∀ (k : Nat) (p q : Placement), s.clips[k]? = some p →
    s.clips[k + 1]? = some q → q.start = p.start + b k - o k ∧ q.shared = o k
  clip : ∀ (k : Nat) (p : Placement), s.clips[k]? = some p →
    p.base = b k ∧ p.slot.overlap = o k ∧ p.duration = b k + o k
  /-- The operands and results of a step are positions and lengths. -/
  inRange : ∀ (k : Nat) (p : Placement), s.clips[k]? = some p →
    b k ≤ 2 ^ 63 - 1 ∧ o k ≤ 2 ^ 63 - 1 ∧ b k + o k ≤ 2 ^ 64 - 1 ∧ -2 ^ 63 ≤ p.start ∧
      p.start + b k ≤ 2 ^ 63 - 1 ∧ -2 ^ 63 ≤ p.start + b k - o k
  last : ∀ p : Placement, s.clips.getLast? = some p → 1 ≤ p.start + p.base →
    p.start + p.base = s.totalFrames

namespace Timeline

variable {t : Timeline} {lengths : List Nat} {s : Schedule}

theorem totalFrames_eq (h : t.layout lengths = .ok s) :
    (s.totalFrames : Int) = min (2 ^ 64 - 1) (max 1 (t.exactExtent lengths)) := by
  rw [totalFrames_of_layout h, extent_of_layout h]
  simp only [Frame.clampLength, Frame.greatestLength]
  omega

/-- The end of the last clip's nominal length is where the composition ends. -/
theorem exactStart_last (hpos : 0 < t.clips.length) :
    t.exactStart lengths (t.clips.length - 1) + nominal lengths (t.clips.length - 1) =
      t.exactExtent lengths := by
  obtain ⟨n, hn⟩ := Nat.exists_eq_add_of_lt hpos
  rw [Nat.zero_add] at hn
  simp only [exactStart, exactExtent, hn, Nat.add_sub_cancel, Finset.sum_range_succ]
  omega

/-- Where everything fits, no operand and no result of a step leaves its range. -/
theorem inRange_of_fits (h : t.layout lengths = .ok s) (hfits : t.Fits lengths) {k : Nat}
    {p : Placement} (hp : s.clips[k]? = some p) :
    nominal lengths k ≤ 2 ^ 63 - 1 ∧ t.overlapBehind k ≤ 2 ^ 63 - 1 ∧
      nominal lengths k + t.overlapBehind k ≤ 2 ^ 64 - 1 ∧ -2 ^ 63 ≤ p.start ∧
      p.start + nominal lengths k ≤ 2 ^ 63 - 1 ∧
      -2 ^ 63 ≤ p.start + nominal lengths k - t.overlapBehind k := by
  have hk := lt_length_of_layout h hp
  have here := hfits.start_bounds (Nat.le_of_lt hk)
  have there := hfits.start_bounds (Nat.succ_le_of_lt hk)
  have overlap_le := t.overlapBehind_le k
  have length_le := hfits.nominal_le hk
  have middle := here.2 hk
  rw [exactStart_succ] at there
  rw [start_eq_exactStart h hfits hp]
  refine ⟨length_le, ?_, ?_, here.1, middle, there.1⟩ <;> omega

theorem exact_of_fits (h : t.layout lengths = .ok s) (hfits : t.Fits lengths) :
    s.Exact (nominal lengths) t.overlapBehind := by
  refine ⟨fun p hp => first_of_layout h hp, ?_, ?_, fun k p hp => inRange_of_fits h hfits hp, ?_⟩
  · intro k p q hp hq
    rw [start_eq_exactStart h hfits hq, exactStart_succ, ← start_eq_exactStart h hfits hp,
      (next_of_layout h hp hq).2, overlap_of_layout h hp]
    exact ⟨rfl, rfl⟩
  · intro k p hp
    have base := base_of_layout h hp
    have overlap := overlap_of_layout h hp
    have here := inRange_of_fits h hfits hp
    refine ⟨base, overlap, ?_⟩
    rw [Placement.duration_eq, base, overlap]
    · rw [base]
      exact Nat.le_max_left _ _
    · rw [base, overlap]
      exact here.2.2.1
  · intro p hp hpos
    rw [List.getLast?_eq_getElem?, length_clips h] at hp
    have hk := lt_length_of_layout h hp
    have here := inRange_of_fits h hfits hp
    have last : t.exactStart lengths (t.clips.length - 1) + nominal lengths (t.clips.length - 1) =
        t.exactExtent lengths := exactStart_last (Nat.zero_lt_of_lt hk)
    rw [base_of_layout h hp] at hpos ⊢
    rw [totalFrames_eq h, ← last, ← start_eq_exactStart h hfits hp]
    omega

/-- The law of the layout. With one length for each clip it succeeds, its total is the exact extent
brought into range, and where everything fits every position is exact. With any other number of
lengths it is refused. -/
theorem layout_law (t : Timeline) (lengths : List Nat) :
    (lengths.length = t.clips.length →
      ∃ s, t.layout lengths = .ok s ∧ s.clips.length = t.clips.length ∧
        (s.totalFrames : Int) = min (2 ^ 64 - 1) (max 1
          (∑ k ∈ range t.clips.length, (nominal lengths k : Int) -
            ∑ k ∈ range (t.clips.length - 1), (t.overlapBehind k : Int))) ∧
        (∑ k ∈ range t.clips.length, nominal lengths k ≤ 2 ^ 63 - 1 → t.clips.length < 2 ^ 31 →
          s.Exact (nominal lengths) t.overlapBehind)) ∧
    (lengths.length ≠ t.clips.length →
      t.layout lengths = .error (.lengthCount t.name t.clips.length lengths.length) ∧
      (Error.lengthCount t.name t.clips.length lengths.length).kind = .argument) := by
  refine ⟨fun hl => ?_, fun hl => ⟨layout_eq_error hl, rfl⟩⟩
  have h := layout_eq_ok hl
  exact ⟨_, h, length_clips h, totalFrames_eq h,
    fun htotal hcount => exact_of_fits h ⟨htotal, hcount⟩⟩

/-- Two cards of which the second one swipes in. -/
def swiped : Timeline :=
  ⟨"t", [.card ⟨"A", none, .zero, [], []⟩, .transition ⟨.swipe, 15, some .right, none⟩,
    .card ⟨"B", none, .zero, [], []⟩]⟩

theorem layout_law_swiped :
    ∃ s, swiped.layout [60, 90] = .ok s ∧ s.totalFrames = 135 ∧
      s.Exact (nominal [60, 90]) swiped.overlapBehind := by
  obtain ⟨s, hs, _, htotal, hexact⟩ := (layout_law swiped [60, 90]).1 (by decide)
  have hsum : (min (2 ^ 64 - 1) (max 1
      (∑ k ∈ range swiped.clips.length, (nominal [60, 90] k : Int) -
        ∑ k ∈ range (swiped.clips.length - 1), (swiped.overlapBehind k : Int)))) = 135 := by
    decide
  refine ⟨s, hs, ?_, hexact (by decide) (by decide)⟩
  omega

end Timeline

end Storyboard
