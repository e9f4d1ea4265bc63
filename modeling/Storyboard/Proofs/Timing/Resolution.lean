import Mathlib
import Storyboard.Proofs.Timing.Sequence

/-!
Which transitions the clips of a schedule have. What goes out at one clip comes in at the next, a
clip without an outgoing transition hands on what came in, and a transition that another one
follows directly has no say at all.
-/

namespace Storyboard
open Item (IsLatest isLatest_window)

/-! ### Superfluous transitions -/

namespace Slot

/-- The slot at another position among the items. -/
def moveIndex (f : Nat → Nat) (s : Slot) : Slot :=
  { s with index := f s.index }

theorem le_index_of_mem {index : Nat} {incoming : Option Transition} {items : List Item} {s : Slot}
    (h : s ∈ ofItems index incoming items) : index ≤ s.index := by
  induction items generalizing index incoming with
  | nil => cases h
  | cons item items ih =>
      cases item with
      | transition t => exact Nat.le_of_succ_le (ih h)
      | card c | cast c =>
          rcases List.mem_cons.mp h with rfl | later
          · exact Nat.le_refl _
          · exact Nat.le_of_succ_le (ih later)

theorem ofItems_succ (index : Nat) (incoming : Option Transition) (items : List Item) :
    ofItems (index + 1) incoming items = (ofItems index incoming items).map (moveIndex (· + 1)) := by
  induction items generalizing index incoming with
  | nil => rfl
  | cons item items ih =>
      cases item with
      | transition t => exact ih (index + 1) (some t)
      | card c | cast c =>
          rw [ofItems, ofItems, List.map_cons, ih]
          rfl

theorem lastTransition?_superfluous (xs : List Item) (a b : Transition) (ys : List Item) :
    lastTransition? (xs ++ .transition a :: .transition b :: ys) =
      lastTransition? (xs ++ .transition b :: ys) := by
  induction xs with
  | nil =>
      simp only [List.nil_append, lastTransition?]
      cases lastTransition? ys <;> rfl
  | cons item xs ih =>
      cases item with
      | transition t => simp only [List.cons_append, lastTransition?, ih]
      | card c => rfl
      | cast c => rfl

/-- Without a transition that another one follows, the clips behind it move one position back. -/
theorem ofItems_superfluous (index : Nat) (incoming : Option Transition) (xs : List Item)
    (a b : Transition) (ys : List Item) :
    ofItems index incoming (xs ++ .transition b :: ys) =
      (ofItems index incoming (xs ++ .transition a :: .transition b :: ys)).map
        (moveIndex fun i => if i < index + xs.length then i else i - 1) := by
  induction xs generalizing index incoming with
  | nil =>
      simp only [List.nil_append, ofItems, List.length_nil, Nat.add_zero]
      rw [ofItems_succ (index + 1), List.map_map]
      refine (List.map_id _).symm.trans (List.map_congr_left fun s hs => ?_)
      have behind := le_index_of_mem hs
      have here : ¬ s.index + 1 < index := by omega
      simp only [id, Function.comp_apply, moveIndex, if_neg here, Nat.add_sub_cancel]
  | cons item xs ih =>
      have next := ih (index + 1)
      rw [Nat.add_right_comm, Nat.add_assoc index] at next
      cases item with
      | transition t => exact next (some t)
      | card c | cast c =>
          have here : index < index + (xs.length + 1) := by omega
          simp only [List.cons_append, ofItems, List.map_cons, List.length_cons, next, moveIndex,
            if_pos here, lastTransition?_superfluous]

end Slot

namespace Schedule

/-- The schedule with its clips at other positions among the items. -/
def moveIndex (f : Nat → Nat) (s : Schedule) : Schedule :=
  { s with clips := s.clips.map fun p => { p with slot := p.slot.moveIndex f } }

theorem ofClips_moveIndex (f : Nat → Nat) (clips : List Placement) :
    ofClips (clips.map fun p => { p with slot := p.slot.moveIndex f }) =
      (ofClips clips).moveIndex f := by
  simp only [ofClips, moveIndex, extent, List.map_map, ← List.map_dropLast]
  rfl

end Schedule

namespace Timeline

theorem layout_superfluous (name : String) (xs : List Item) (a b : Transition) (ys : List Item)
    (lengths : List Nat) :
    layout ⟨name, xs ++ .transition b :: ys⟩ lengths =
      (layout ⟨name, xs ++ .transition a :: .transition b :: ys⟩ lengths).map
        (Schedule.moveIndex fun i => if i < xs.length then i else i - 1) := by
  have moved := Slot.ofItems_superfluous 0 none xs a b ys
  rw [Nat.zero_add] at moved
  rw [layout, layout, slots_eq_ofItems, slots_eq_ofItems, moved, List.length_map]
  split
  · rw [List.zip_map_left]
    have placed := Placement.sequence_map
      (Slot.moveIndex fun i => if i < xs.length then i else i - 1) (fun _ => rfl) 0 0
      ((Slot.ofItems 0 none (xs ++ .transition a :: .transition b :: ys)).zip lengths)
    exact congrArg Except.ok ((congrArg Schedule.ofClips placed).trans
      (Schedule.ofClips_moveIndex _ _))
  · rfl

end Timeline

/-! ### The transitions of a schedule -/

/-- The clips of a schedule are those of the items, each with the transitions that its position
gives it. -/
structure Schedule.Resolves (s : Schedule) (items : List Item) : Prop where
  increasing : s.clips.Pairwise fun p q => p.slot.index < q.slot.index
  clip : ∀ i kind, (∃ p ∈ s.clips, p.slot.index = i ∧ p.slot.kind = kind) ↔
    items[i]?.bind Item.kind? = some kind
  incoming : ∀ p ∈ s.clips, IsLatest items (· < p.slot.index) p.slot.incoming
  outgoing : ∀ (k : Nat) (p : Placement), s.clips[k]? = some p →
    IsLatest items (fun i => p.slot.index < i ∧ ∀ q ∈ s.clips[k + 1]?, i < q.slot.index)
      p.slot.outgoing
  handedOn : ∀ (k : Nat) (p q : Placement), s.clips[k]? = some p → s.clips[k + 1]? = some q →
    q.slot.incoming = p.slot.outgoing.or p.slot.incoming
  shared : ∀ p ∈ s.clips, p.shared ≠ 0 → ∃ x, p.slot.incoming = some x ∧
    p.shared = x.frames.toNat ∧ (x.effect = .swipe ∨ x.effect = .crossfade)

namespace Timeline

variable {t : Timeline} {lengths : List Nat} {s : Schedule}

/-- The clips of a schedule are the clips of its timeline, in order. -/
theorem clips_of_layout (h : t.layout lengths = .ok s) :
    s.clips.map (fun p => (p.slot.index, p.slot.kind)) = t.clips := by
  refine List.ext_getElem? fun k => ?_
  rw [List.getElem?_map]
  cases hp : s.clips[k]? with
  | none =>
      rw [List.getElem?_eq_none_iff, length_clips h] at hp
      exact (List.getElem?_eq_none hp).symm
  | some p =>
      obtain ⟨i, kind, hclip, _, hslot⟩ := clip_of_layout h hp
      rw [hclip, Option.map_some, hslot]

theorem handedOn_of_layout (h : t.layout lengths = .ok s) {k : Nat} {p q : Placement}
    (hp : s.clips[k]? = some p) (hq : s.clips[k + 1]? = some q) :
    q.slot.incoming = p.slot.outgoing.or p.slot.incoming := by
  obtain ⟨i, a, hi, _, hslot⟩ := clip_of_layout h hp
  obtain ⟨j, b, hj, _, hnext⟩ := clip_of_layout h hq
  rw [hslot, hnext]
  simp only [latestIn?_next hi hj, reach_eq hj]

theorem outgoing_of_layout (h : t.layout lengths = .ok s) {k : Nat} {p : Placement}
    (hp : s.clips[k]? = some p) :
    IsLatest t.items (fun i => p.slot.index < i ∧ ∀ q ∈ s.clips[k + 1]?, i < q.slot.index)
      p.slot.outgoing := by
  obtain ⟨i, kind, hi, _, hslot⟩ := clip_of_layout h hp
  rw [hslot]
  refine (isLatest_window t.items (i + 1) (t.reach k)).congr fun m x hx => ?_
  refine and_congr Iff.rfl ?_
  cases hq : s.clips[k + 1]? with
  | none =>
      rw [List.getElem?_eq_none_iff, length_clips h] at hq
      have hm := (List.getElem?_eq_some_iff.mp hx).1
      rw [reach_last (List.getElem?_eq_none hq)]
      simp only [hm, Option.mem_def, reduceCtorEq, false_imp_iff, implies_true]
  | some q =>
      obtain ⟨j, b, hj, _, hnext⟩ := clip_of_layout h hq
      simp only [reach_eq hj, Option.mem_def, Option.some.injEq, forall_eq', hnext]

/-- Shared frames come from a swipe or a crossfade, and from the one that comes in. -/
theorem shared_of_layout (h : t.layout lengths = .ok s) {k : Nat} {p : Placement}
    (hp : s.clips[k]? = some p) (hpos : p.shared ≠ 0) :
    ∃ x, p.slot.incoming = some x ∧ p.shared = x.frames.toNat ∧
      (x.effect = .swipe ∨ x.effect = .crossfade) := by
  cases k with
  | zero => exact absurd (first_of_layout h hp).2 hpos
  | succ k =>
      have hk : k < s.clips.length := Nat.lt_of_succ_lt (List.getElem?_eq_some_iff.mp hp).1
      have hbefore : s.clips[k]? = some s.clips[k] := List.getElem?_eq_getElem hk
      have shared := (next_of_layout h hbefore hp).2
      have incoming := handedOn_of_layout h hbefore hp
      rw [shared, Slot.overlap] at hpos ⊢
      cases hout : s.clips[k].slot.outgoing with
      | none =>
          rw [hout] at hpos
          exact absurd rfl hpos
      | some x =>
          rw [hout] at hpos incoming
          refine ⟨x, incoming, ?_⟩
          rcases x with ⟨effect, frames, direction, sides⟩
          cases effect <;> simp [Transition.overlap, Effect.overlaps] at hpos ⊢

theorem resolves_of_layout (h : t.layout lengths = .ok s) : s.Resolves t.items := by
  have clips := clips_of_layout h
  have located : ∀ {p}, p ∈ s.clips → ∃ k : Nat, s.clips[k]? = some p :=
    fun hp => List.mem_iff_getElem?.mp hp
  refine ⟨?_, ?_, ?_, fun k p hp => outgoing_of_layout h hp,
    fun k p q hp hq => handedOn_of_layout h hp hq, ?_⟩
  · have sorted := t.pairwise_clips
    rw [← clips, List.pairwise_map] at sorted
    exact sorted
  · intro i kind
    rw [← mem_clips, ← clips, List.mem_map]
    simp only [Prod.mk.injEq]
  · intro p hp
    obtain ⟨k, hk⟩ := located hp
    obtain ⟨i, kind, _, _, hslot⟩ := clip_of_layout h hk
    rw [hslot]
    refine (isLatest_window t.items 0 i).congr fun m x _ => ?_
    simp only [Nat.zero_le, true_and]
  · intro p hp hpos
    obtain ⟨k, hk⟩ := located hp
    exact shared_of_layout h hk hpos

/-- With one length for each clip the layout gives the clips of the items their transitions by
position, and a transition that another one follows directly can be left out: nothing changes but
the positions among the items. -/
theorem layout_resolution (t : Timeline) (lengths : List Nat) :
    (lengths.length = t.clips.length →
      ∃ s, t.layout lengths = .ok s ∧ s.clips.length = t.clips.length ∧ s.Resolves t.items) ∧
    ∀ xs a b ys, t.items = xs ++ .transition a :: .transition b :: ys →
      layout { t with items := xs ++ .transition b :: ys } lengths =
        (t.layout lengths).map
          (Schedule.moveIndex fun i => if i < xs.length then i else i - 1) := by
  refine ⟨fun hl => ?_, fun xs a b ys hitems => ?_⟩
  · have h := layout_eq_ok hl
    exact ⟨_, h, length_clips h, resolves_of_layout h⟩
  · obtain ⟨name, items⟩ := t
    cases hitems
    exact layout_superfluous name xs a b ys lengths

/-- A fade right before a swipe can be left out. -/
theorem layout_resolution_fade :
    (∃ s, layout ⟨"t", [.card ⟨"A", none, .zero, [], []⟩, .transition ⟨.fade, 5, none, none⟩,
        .transition ⟨.swipe, 8, some .left, none⟩, .card ⟨"B", none, .zero, [], []⟩]⟩ [40, 30] =
          .ok s ∧ s.clips.length = 2) ∧
      layout ⟨"t", [.card ⟨"A", none, .zero, [], []⟩, .transition ⟨.swipe, 8, some .left, none⟩,
        .card ⟨"B", none, .zero, [], []⟩]⟩ [40, 30] =
      (layout ⟨"t", [.card ⟨"A", none, .zero, [], []⟩, .transition ⟨.fade, 5, none, none⟩,
        .transition ⟨.swipe, 8, some .left, none⟩, .card ⟨"B", none, .zero, [], []⟩]⟩
          [40, 30]).map (Schedule.moveIndex fun i => if i < 1 then i else i - 1) := by
  have law := layout_resolution ⟨"t", [.card ⟨"A", none, .zero, [], []⟩,
    .transition ⟨.fade, 5, none, none⟩, .transition ⟨.swipe, 8, some .left, none⟩,
    .card ⟨"B", none, .zero, [], []⟩]⟩ [40, 30]
  obtain ⟨s, hs, hlength, _⟩ := law.1 (by decide)
  exact ⟨⟨s, hs, hlength⟩, law.2 [.card ⟨"A", none, .zero, [], []⟩] _ _ _ rfl⟩

end Timeline

end Storyboard
