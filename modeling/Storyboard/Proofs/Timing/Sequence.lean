import Mathlib
import Storyboard.Proofs.Timing.Transitions

/-!
Clips put one behind the other. A placement keeps its slot and its nominal length, and takes its
start and its shared frames from the placement before it; so a schedule is known clip by clip from
the slots and the lengths.
-/

namespace Storyboard

namespace Placement

@[simp] theorem length_sequence (start : Int) (shared : Nat) (l : List (Slot × Nat)) :
    (sequence start shared l).length = l.length := by
  induction l generalizing start shared with
  | nil => rfl
  | cons x l ih => simp only [sequence, List.length_cons, ih]

theorem sequence_getElem? {start : Int} {shared k : Nat} {l : List (Slot × Nat)} {p : Placement}
    (h : (sequence start shared l)[k]? = some p) :
    ∃ length, l[k]? = some (p.slot, length) ∧ p.base = max 1 length := by
  induction l generalizing start shared k with
  | nil => cases h
  | cons x l ih =>
      cases k with
      | zero =>
          cases h
          exact ⟨x.2, rfl, rfl⟩
      | succ k => exact ih h

theorem sequence_first {start : Int} {shared : Nat} {l : List (Slot × Nat)} {p : Placement}
    (h : (sequence start shared l)[0]? = some p) : p.start = start ∧ p.shared = shared := by
  cases l with
  | nil => cases h
  | cons x l =>
      cases h
      exact ⟨rfl, rfl⟩

theorem sequence_next {start : Int} {shared k : Nat} {l : List (Slot × Nat)} {p q : Placement}
    (hp : (sequence start shared l)[k]? = some p)
    (hq : (sequence start shared l)[k + 1]? = some q) :
    q.start = p.nextStart ∧ q.shared = p.slot.overlap := by
  induction l generalizing start shared k with
  | nil => cases hp
  | cons x l ih =>
      cases k with
      | zero =>
          cases hp
          exact sequence_first hq
      | succ k => exact ih hp hq

/-- Slots that differ in nothing but what the positions do not depend on are placed alike. -/
theorem sequence_map (f : Slot → Slot) (hf : ∀ s, (f s).overlap = s.overlap) (start : Int)
    (shared : Nat) (l : List (Slot × Nat)) :
    sequence start shared (l.map fun x => (f x.1, x.2)) =
      (sequence start shared l).map fun p => { p with slot := f p.slot } := by
  induction l generalizing start shared with
  | nil => rfl
  | cons x l ih => simp only [sequence, List.map_cons, ih, hf, nextStart]

end Placement

namespace Timeline

theorem layout_eq_ok {t : Timeline} {lengths : List Nat} (h : lengths.length = t.clips.length) :
    t.layout lengths = .ok (.ofClips (Placement.sequence 0 0 (t.slots.zip lengths))) := by
  rw [layout, if_pos (by rw [length_slots, h])]

/-- The layout with the slots of one walk, which are read off the items. -/
theorem layout_eq_ofItems {t : Timeline} {lengths : List Nat}
    (h : lengths.length = t.clips.length) : t.layout lengths =
      .ok (.ofClips (Placement.sequence 0 0 ((Slot.ofItems 0 none t.items).zip lengths))) := by
  rw [layout_eq_ok h, slots_eq_ofItems]

theorem layout_eq_error {t : Timeline} {lengths : List Nat} (h : lengths.length ≠ t.clips.length) :
    t.layout lengths = .error (.lengthCount t.name t.clips.length lengths.length) := by
  rw [layout, length_slots, if_neg (Ne.symm h)]

/-- A layout with as many lengths as clips, and the schedule it gives. -/
theorem layout_eq_ok_iff {t : Timeline} {lengths : List Nat} {s : Schedule} :
    t.layout lengths = .ok s ↔ lengths.length = t.clips.length ∧
      s = .ofClips (Placement.sequence 0 0 (t.slots.zip lengths)) := by
  by_cases h : lengths.length = t.clips.length
  · rw [layout_eq_ok h]
    simp only [Except.ok.injEq, h, true_and, eq_comm]
  · rw [layout_eq_error h]
    simp only [reduceCtorEq, h, false_and]

/-- The nominal length of a clip, of which none counts as less than one. -/
def nominal (lengths : List Nat) (k : Nat) : Nat :=
  max 1 (lengths.getD k 0)

theorem length_clips {t : Timeline} {lengths : List Nat} {s : Schedule}
    (h : t.layout lengths = .ok s) : s.clips.length = t.clips.length := by
  obtain ⟨hl, rfl⟩ := layout_eq_ok_iff.mp h
  simp only [Schedule.ofClips, Placement.length_sequence, List.length_zip, length_slots, hl,
    Nat.min_self]

theorem lt_length_of_layout {t : Timeline} {lengths : List Nat} {s : Schedule} {k : Nat}
    {p : Placement} (h : t.layout lengths = .ok s) (hp : s.clips[k]? = some p) :
    k < t.clips.length := by
  rw [← length_clips h]
  exact (List.getElem?_eq_some_iff.mp hp).1

/-- Each clip of a schedule has the slot of its position and its nominal length. -/
theorem clip_of_layout {t : Timeline} {lengths : List Nat} {s : Schedule} {k : Nat} {p : Placement}
    (h : t.layout lengths = .ok s) (hp : s.clips[k]? = some p) :
    ∃ i kind, t.clips[k]? = some (i, kind) ∧ p.base = nominal lengths k ∧
      p.slot = ⟨i, kind, t.latestIn? 0 i, t.latestIn? (i + 1) (t.reach k)⟩ := by
  obtain ⟨hl, rfl⟩ := layout_eq_ok_iff.mp h
  obtain ⟨length, hk, hbase⟩ := Placement.sequence_getElem? hp
  obtain ⟨hslot, hlength⟩ := List.getElem?_zip_eq_some.mp hk
  have hlt : k < t.clips.length := by
    rw [← length_slots]
    exact (List.getElem?_eq_some_iff.mp hslot).1
  have hclip : t.clips[k]? = some (t.clips[k].1, t.clips[k].2) := List.getElem?_eq_getElem hlt
  refine ⟨_, _, hclip, ?_, ?_⟩
  · rw [hbase, nominal, List.getD_eq_getElem?_getD, hlength, Option.getD_some]
  · rw [getElem?_slots hclip] at hslot
    exact (Option.some.inj hslot).symm

theorem first_of_layout {t : Timeline} {lengths : List Nat} {s : Schedule} {p : Placement}
    (h : t.layout lengths = .ok s) (hp : s.clips[0]? = some p) : p.start = 0 ∧ p.shared = 0 := by
  obtain ⟨_, rfl⟩ := layout_eq_ok_iff.mp h
  exact Placement.sequence_first hp

theorem next_of_layout {t : Timeline} {lengths : List Nat} {s : Schedule} {k : Nat}
    {p q : Placement} (h : t.layout lengths = .ok s) (hp : s.clips[k]? = some p)
    (hq : s.clips[k + 1]? = some q) : q.start = p.nextStart ∧ q.shared = p.slot.overlap := by
  obtain ⟨_, rfl⟩ := layout_eq_ok_iff.mp h
  exact Placement.sequence_next hp hq

theorem totalFrames_of_layout {t : Timeline} {lengths : List Nat} {s : Schedule}
    (h : t.layout lengths = .ok s) :
    s.totalFrames = Frame.clampLength (max 1 (Schedule.extent s.clips)).toNat := by
  obtain ⟨_, rfl⟩ := layout_eq_ok_iff.mp h
  rfl

end Timeline

end Storyboard
