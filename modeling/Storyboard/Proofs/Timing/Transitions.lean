import Mathlib
import Storyboard.Timing.Layout

/-!
The transitions of a clip. The layout looks them up by halving in the list of all transitions; here
they are told by position: the incoming one is the last before the clip, the outgoing one the last
between the clip and the next. So one walk over the items finds the same.
-/

namespace Storyboard

namespace Item

/-- The last transition among some items. -/
def latest? (items : List Item) : Option Transition :=
  (items.filterMap transition?).getLast?

theorem latest?_append (xs ys : List Item) :
    latest? (xs ++ ys) = (latest? ys).or (latest? xs) := by
  simp only [latest?, List.filterMap_append, List.getLast?_append]

theorem latest?_concat_transition (xs : List Item) (t : Transition) :
    latest? (xs ++ [.transition t]) = some t := by
  rw [latest?_append]
  rfl

theorem latest?_concat_clip {clip : Item} {kind : ClipKind} (h : clip.kind? = some kind)
    (xs : List Item) : latest? (xs ++ [clip]) = latest? xs := by
  rw [latest?_append]
  cases clip with
  | transition t => cases h
  | card c => rfl
  | cast c => rfl

theorem kind?_eq_none {item : Item} : item.kind? = none ↔ ∃ t, item = .transition t := by
  cases item with
  | transition t => exact ⟨fun _ => ⟨t, rfl⟩, fun _ => rfl⟩
  | card c => simp [kind?]
  | cast c => simp [kind?]

/-- The transition at the greatest of the positions in a window, or none where it holds none. -/
def IsLatest (items : List Item) (window : Nat → Prop) : Option Transition → Prop
  | none => ∀ i x, window i → items[i]? ≠ some (.transition x)
  | some x => ∃ i, window i ∧ items[i]? = some (.transition x) ∧
      ∀ j y, window j → items[j]? = some (.transition y) → j ≤ i

theorem IsLatest.congr {items : List Item} {p q : Nat → Prop} {o : Option Transition}
    (h : IsLatest items p o)
    (same : ∀ i x, items[i]? = some (.transition x) → (p i ↔ q i)) : IsLatest items q o := by
  cases o with
  | none => exact fun i x hi hx => h i x ((same i x hx).mpr hi) hx
  | some x =>
      obtain ⟨i, hi, hx, greatest⟩ := h
      exact ⟨i, (same i x hx).mp hi, hx, fun j y hj hy => greatest j y ((same j y hy).mpr hj) hy⟩

theorem isLatest_latest? (items : List Item) : IsLatest items (fun _ => True) (latest? items) := by
  induction items using List.reverseRecOn with
  | nil => exact fun i x _ h => by simp at h
  | append_singleton items item ih =>
      cases hk : item.kind? with
      | none =>
          obtain ⟨t, rfl⟩ := kind?_eq_none.mp hk
          rw [latest?_concat_transition]
          refine ⟨items.length, trivial, by simp, fun j y _ hy => ?_⟩
          have := (List.getElem?_eq_some_iff.mp hy).1
          simp only [List.length_append, List.length_singleton] at this
          omega
      | some kind =>
          have inside : ∀ (i : Nat) x, (items ++ [item])[i]? = some (Item.transition x) →
              items[i]? = some (Item.transition x) := by
            intro i x hx
            rw [List.getElem?_append] at hx
            split at hx
            · exact hx
            · have := List.mem_of_getElem? hx
              rw [List.mem_singleton] at this
              rw [← this] at hk
              cases hk
          rw [latest?_concat_clip hk]
          cases hl : latest? items with
          | none =>
              rw [hl] at ih
              exact fun i x _ hx => ih i x trivial (inside i x hx)
          | some x =>
              rw [hl] at ih
              obtain ⟨i, _, hx, greatest⟩ := ih
              refine ⟨i, trivial, ?_, fun j y _ hy => greatest j y trivial (inside j y hy)⟩
              rw [List.getElem?_append_left (List.getElem?_eq_some_iff.mp hx).1]
              exact hx

/-- The last transition of a part of the items is the latest one in that window. -/
theorem isLatest_window (items : List Item) (low high : Nat) :
    IsLatest items (fun i => low ≤ i ∧ i < high) (latest? ((items.take high).drop low)) := by
  have part : ∀ i, ((items.take high).drop low)[i]? =
      if low + i < high then items[low + i]? else none := by
    intro i
    rw [List.getElem?_drop, List.getElem?_take]
  have whole := isLatest_latest? ((items.take high).drop low)
  cases hl : latest? ((items.take high).drop low) with
  | none =>
      rw [hl] at whole
      rintro i x ⟨hlow, hhigh⟩ hx
      refine whole (i - low) x trivial ?_
      rw [part, Nat.add_sub_cancel' hlow, if_pos hhigh]
      exact hx
  | some x =>
      rw [hl] at whole
      obtain ⟨i, _, hx, greatest⟩ := whole
      rw [part] at hx
      split at hx
      · refine ⟨low + i, by omega, hx, ?_⟩
        rintro j y ⟨hlow, hhigh⟩ hy
        have := greatest (j - low) y trivial (by
          rw [part, Nat.add_sub_cancel' hlow, if_pos hhigh]
          exact hy)
        omega
      · cases hx

end Item

open Item (latest? latest?_append latest?_concat_transition latest?_concat_clip)

/-! ### Positions of the clips -/

namespace Timeline

theorem mem_clips {t : Timeline} {i : Nat} {kind : ClipKind} :
    (i, kind) ∈ t.clips ↔ t.items[i]?.bind Item.kind? = some kind := by
  simp only [clips, List.mem_filterMap, List.mem_zipIdx_iff_getElem?, Option.map_eq_some_iff,
    Prod.exists, Prod.mk.injEq, Option.bind_eq_some_iff]
  constructor
  · rintro ⟨item, j, hj, k, hk, rfl, rfl⟩
    exact ⟨item, hj, hk⟩
  · rintro ⟨item, hi, hk⟩
    exact ⟨item, i, hi, kind, hk, rfl, rfl⟩

theorem pairwise_clips (t : Timeline) : t.clips.Pairwise (fun a b => a.1 < b.1) := by
  have indexed : t.items.zipIdx.Pairwise (fun a b => a.2 < b.2) := by
    rw [← List.pairwise_map (f := Prod.snd) (R := (· < ·)), List.zipIdx_map_snd]
    exact List.pairwise_lt_range'
  refine indexed.filterMap _ ?_
  rintro ⟨x, i⟩ ⟨y, j⟩ hij a ha b hb
  obtain ⟨_, _, rfl⟩ := Option.map_eq_some_iff.mp ha
  obtain ⟨_, _, rfl⟩ := Option.map_eq_some_iff.mp hb
  exact hij

/-- The position behind the items that belong to a clip: that of the next clip, or the end. -/
def reach (t : Timeline) (k : Nat) : Nat :=
  (t.clips[k + 1]?.map (·.1)).getD t.items.length

theorem reach_eq {t : Timeline} {k j : Nat} {kind : ClipKind}
    (h : t.clips[k + 1]? = some (j, kind)) : t.reach k = j := by
  rw [reach, h]
  rfl

theorem reach_last {t : Timeline} {k : Nat} (h : t.clips[k + 1]? = none) :
    t.reach k = t.items.length := by
  rw [reach, h]
  rfl

theorem clip_lt_clip {t : Timeline} {k l i j : Nat} {a b : ClipKind} (hkl : k < l)
    (hi : t.clips[k]? = some (i, a)) (hj : t.clips[l]? = some (j, b)) : i < j := by
  obtain ⟨hk, ek⟩ := List.getElem?_eq_some_iff.mp hi
  obtain ⟨hl, el⟩ := List.getElem?_eq_some_iff.mp hj
  have := List.pairwise_iff_getElem.mp t.pairwise_clips k l hk hl hkl
  rw [ek, el] at this
  exact this

theorem getElem?_of_clip {t : Timeline} {k i : Nat} {kind : ClipKind}
    (h : t.clips[k]? = some (i, kind)) :
    ∃ clip, t.items[i]? = some clip ∧ clip.kind? = some kind :=
  Option.bind_eq_some_iff.mp (mem_clips.mp (List.mem_of_getElem? h))

theorem lt_length_of_clip {t : Timeline} {k i : Nat} {kind : ClipKind}
    (h : t.clips[k]? = some (i, kind)) : i < t.items.length := by
  obtain ⟨clip, hclip, _⟩ := getElem?_of_clip h
  exact (List.getElem?_eq_some_iff.mp hclip).1

theorem lt_reach {t : Timeline} {k i : Nat} {kind : ClipKind}
    (h : t.clips[k]? = some (i, kind)) : i < t.reach k := by
  cases hn : t.clips[k + 1]? with
  | none => exact reach_last hn ▸ lt_length_of_clip h
  | some next => exact reach_eq hn ▸ clip_lt_clip (Nat.lt_succ_self k) h hn

theorem reach_le (t : Timeline) (k : Nat) : t.reach k ≤ t.items.length := by
  cases hn : t.clips[k + 1]? with
  | none => exact Nat.le_of_eq (reach_last hn)
  | some next => exact reach_eq hn ▸ Nat.le_of_lt (lt_length_of_clip hn)

/-- Between a clip and the next one there are only transitions. -/
theorem transition_of_lt_reach {t : Timeline} {k i m : Nat} {kind : ClipKind} {item : Item}
    (h : t.clips[k]? = some (i, kind)) (him : i < m) (hm : m < t.reach k)
    (hitem : t.items[m]? = some item) : item.kind? = none := by
  by_contra hk
  obtain ⟨other, hother⟩ := Option.ne_none_iff_exists'.mp hk
  have hmem : (m, other) ∈ t.clips := mem_clips.mpr (by rw [hitem]; exact hother)
  obtain ⟨l, hl⟩ := List.mem_iff_getElem?.mp hmem
  have hkl : k < l := by
    by_contra hle
    rcases Nat.eq_or_lt_of_le (Nat.not_lt.mp hle) with rfl | hlt
    · rw [h] at hl
      cases hl
      exact Nat.lt_irrefl _ him
    · exact Nat.lt_asymm him (clip_lt_clip hlt hl h)
  cases hn : t.clips[k + 1]? with
  | none =>
      have := List.getElem?_eq_none_iff.mp hn
      have := (List.getElem?_eq_some_iff.mp hl).1
      omega
  | some next =>
      rw [reach_eq hn] at hm
      rcases Nat.eq_or_lt_of_le (Nat.succ_le_of_lt hkl) with rfl | hlater
      · rw [hn] at hl
        cases hl
        exact Nat.lt_irrefl _ hm
      · exact Nat.lt_asymm hm (clip_lt_clip hlater hn hl)

end Timeline

/-! ### Lookups -/

namespace Timeline

/-- The transitions among some items, of which the first stands at a position. -/
def transitionsFrom (position : Nat) (items : List Item) : List (Nat × Transition) :=
  (items.zipIdx position).filterMap fun (item, i) => item.transition?.map (i, ·)

theorem transitionsFrom_append (position : Nat) (xs ys : List Item) :
    transitionsFrom position (xs ++ ys) =
      transitionsFrom position xs ++ transitionsFrom (position + xs.length) ys := by
  simp only [transitionsFrom, List.zipIdx_append, List.filterMap_append]

theorem transitions_eq (t : Timeline) : t.transitions = transitionsFrom 0 t.items :=
  rfl

theorem position_of_mem {position : Nat} {items : List Item} {x : Nat × Transition}
    (h : x ∈ transitionsFrom position items) :
    position ≤ x.1 ∧ x.1 < position + items.length := by
  simp only [transitionsFrom, List.mem_filterMap, Option.map_eq_some_iff] at h
  obtain ⟨⟨item, i⟩, hmem, _, _, rfl⟩ := h
  exact ⟨List.le_snd_of_mem_zipIdx hmem, List.snd_lt_add_of_mem_zipIdx hmem⟩

theorem map_snd_transitionsFrom (position : Nat) (items : List Item) :
    (transitionsFrom position items).map (·.2) = items.filterMap Item.transition? := by
  induction items generalizing position with
  | nil => rfl
  | cons item items ih =>
      have hrest := ih (position + 1)
      cases item with
      | transition x => exact congrArg (x :: ·) hrest
      | card c | cast c => exact hrest

theorem map_getLast?_transitionsFrom (position : Nat) (items : List Item) :
    (transitionsFrom position items).getLast?.map (·.2) = latest? items := by
  rw [← List.getLast?_map, map_snd_transitionsFrom, latest?]

variable (t : Timeline) {position : Nat}

/-- Halving parts the transitions before a position from the later ones. -/
theorem partitionPoint_transitions (position : Nat) :
    partitionPoint t.transitions (·.1 < position) =
      (transitionsFrom 0 (t.items.take position)).length := by
  have hparts := transitionsFrom_append 0 (t.items.take position) (t.items.drop position)
  rw [List.take_append_drop] at hparts
  rw [transitions_eq, hparts]
  refine partitionPoint_append (fun x hx => ?_) fun x hx => ?_
  · have := (position_of_mem hx).2
    rw [List.length_take] at this
    exact decide_eq_true (by omega)
  · have := position_of_mem hx
    rw [List.length_take, List.length_drop] at this
    exact decide_eq_false (by omega)

/-- The last of the transitions before a position. -/
theorem getElem?_transitions {n : Nat}
    (h : (transitionsFrom 0 (t.items.take position)).length = n + 1) :
    t.transitions[n]? = (transitionsFrom 0 (t.items.take position)).getLast? := by
  rw [transitions_eq, ← List.take_append_drop position t.items, transitionsFrom_append,
    List.take_append_drop, List.getElem?_append_left (by omega), List.getLast?_eq_getElem?, h,
    Nat.add_sub_cancel]

/-- The last transition at a position from `low` on and below `high`. -/
def latestIn? (t : Timeline) (low high : Nat) : Option Transition :=
  latest? ((t.items.take high).drop low)

theorem nearestBefore?_eq (position : Nat) :
    Slot.nearestBefore? t.transitions position = t.latestIn? 0 position := by
  have hlast := map_getLast?_transitionsFrom 0 (t.items.take position)
  rw [Slot.nearestBefore?, partitionPoint_transitions, latestIn?, List.drop_zero, ← hlast]
  split
  · next hnone =>
      rw [List.length_eq_zero_iff.mp hnone]
      rfl
  · next n hsome => rw [t.getElem?_transitions hsome]

/-- The last of the transitions before a position, if it stands behind another one. -/
theorem bind_getLast?_transitions (low high : Nat) :
    ((transitionsFrom 0 (t.items.take high)).getLast?.bind fun x =>
      if low < x.1 then some x.2 else none) = t.latestIn? (low + 1) high := by
  have hparts := transitionsFrom_append 0 ((t.items.take high).take (low + 1))
    ((t.items.take high).drop (low + 1))
  rw [List.take_append_drop] at hparts
  have hlater := map_getLast?_transitionsFrom
    (0 + ((t.items.take high).take (low + 1)).length) ((t.items.take high).drop (low + 1))
  rw [latestIn?, ← hlater, hparts, List.getLast?_append]
  cases hlast : (transitionsFrom (0 + ((t.items.take high).take (low + 1)).length)
      ((t.items.take high).drop (low + 1))).getLast? with
  | some x =>
      have := position_of_mem (List.mem_of_getLast? hlast)
      rw [List.length_drop, List.length_take (i := low + 1)] at this
      rw [Option.some_or, Option.bind_some, if_pos (by omega), Option.map_some]
  | none =>
      rw [Option.none_or, Option.map_none]
      refine Option.bind_eq_none_iff.mpr fun x hx => if_neg ?_
      have := (position_of_mem (List.mem_of_getLast? hx)).2
      rw [List.length_take (i := low + 1)] at this
      omega

theorem countBefore_eq (k : Nat) :
    Slot.countBefore t.transitions (t.clips[k + 1]?.map (·.1)) =
      (transitionsFrom 0 (t.items.take (t.reach k))).length := by
  unfold reach
  cases t.clips[k + 1]? with
  | none =>
      rw [Option.map_none, Option.getD_none, List.take_length]
      rfl
  | some next => exact t.partitionPoint_transitions next.1

theorem lastBetween?_eq (k position : Nat) :
    Slot.lastBetween? t.transitions position (t.clips[k + 1]?.map (·.1)) =
      t.latestIn? (position + 1) (t.reach k) := by
  rw [Slot.lastBetween?, countBefore_eq, ← t.bind_getLast?_transitions]
  split
  · next hnone =>
      rw [List.length_eq_zero_iff.mp hnone]
      rfl
  · next n hsome =>
      rw [t.getElem?_transitions hsome]
      rfl

variable {t}

/-- The slot of a clip by position. -/
theorem getElem?_slots {k i : Nat} {kind : ClipKind} (h : t.clips[k]? = some (i, kind)) :
    t.slots[k]? =
      some ⟨i, kind, t.latestIn? 0 i, t.latestIn? (i + 1) (t.reach k)⟩ := by
  rw [slots, List.getElem?_map, List.getElem?_zipIdx, h, Option.map_some, Option.map_some,
    Nat.zero_add]
  dsimp only
  rw [nearestBefore?_eq, lastBetween?_eq]

@[simp] theorem length_slots (t : Timeline) : t.slots.length = t.clips.length := by
  rw [slots, List.length_map, List.length_zipIdx]

/-- What comes in at a clip is what goes out at the clip before, or else what came in there. -/
theorem latestIn?_next {t : Timeline} {k i j : Nat} {a b : ClipKind}
    (hi : t.clips[k]? = some (i, a)) (hj : t.clips[k + 1]? = some (j, b)) :
    t.latestIn? 0 j = (t.latestIn? (i + 1) j).or (t.latestIn? 0 i) := by
  obtain ⟨clip, hclip, hkind⟩ := getElem?_of_clip hi
  have hij := clip_lt_clip (Nat.lt_succ_self k) hi hj
  have front : (t.items.take j).take (i + 1) = t.items.take i ++ [clip] := by
    rw [List.take_take, Nat.min_eq_left hij, List.take_add_one, hclip]
    rfl
  calc latest? ((t.items.take j).drop 0)
      = latest? ((t.items.take j).take (i + 1) ++ (t.items.take j).drop (i + 1)) := by
        rw [List.take_append_drop, List.drop_zero]
    _ = (t.latestIn? (i + 1) j).or (t.latestIn? 0 i) := by
        rw [latest?_append, front, latest?_concat_clip hkind]
        rfl

end Timeline

/-! ### One walk -/

namespace Slot

/-- The last of the transitions before the first clip. -/
def lastTransition? : List Item → Option Transition
  | .transition t :: rest => (lastTransition? rest).or (some t)
  | _ => none

/-- The clips among items that begin at position `index`, where `incoming` is the nearest
transition before them. -/
def ofItems (index : Nat) (incoming : Option Transition) : List Item → List Slot
  | [] => []
  | .transition t :: rest => ofItems (index + 1) (some t) rest
  | .card _ :: rest =>
    ⟨index, .card, incoming, lastTransition? rest⟩ :: ofItems (index + 1) incoming rest
  | .cast _ :: rest =>
    ⟨index, .cast, incoming, lastTransition? rest⟩ :: ofItems (index + 1) incoming rest

/-- The slot of a clip at a position among the items. -/
def atPosition (items : List Item) (clip : Nat × ClipKind) : Slot :=
  ⟨clip.1, clip.2, latest? (items.take clip.1), lastTransition? (items.drop (clip.1 + 1))⟩

/-- The walk from the end of `done` on gives each clip of `rest` its slot among all items. -/
theorem ofItems_eq (done rest : List Item) :
    ofItems done.length (latest? done) rest =
      ((rest.zipIdx done.length).filterMap fun (item, i) => item.kind?.map (i, ·)).map
        (atPosition (done ++ rest)) := by
  induction rest generalizing done with
  | nil => rfl
  | cons item rest ih =>
      have next := ih (done ++ [item])
      rw [List.append_assoc, List.singleton_append, List.length_append, List.length_singleton]
        at next
      cases item with
      | transition t =>
          rw [latest?_concat_transition] at next
          simp only [ofItems, next, List.zipIdx_cons, List.filterMap_cons, Item.kind?,
            Option.map_none]
      | card c =>
          rw [latest?_concat_clip rfl] at next
          simp only [ofItems, next, List.zipIdx_cons, List.filterMap_cons, Item.kind?,
            Option.map_some, List.map_cons, atPosition, List.take_left, List.drop_length_add_append,
            List.drop_succ_cons, List.drop_zero]
      | cast c =>
          rw [latest?_concat_clip rfl] at next
          simp only [ofItems, next, List.zipIdx_cons, List.filterMap_cons, Item.kind?,
            Option.map_some, List.map_cons, atPosition, List.take_left, List.drop_length_add_append,
            List.drop_succ_cons, List.drop_zero]

/-- Transitions up to the next clip or the end are all there is to find. -/
theorem lastTransition?_append {between : List Item} {rest : List Item}
    (hbetween : ∀ item ∈ between, item.kind? = none)
    (hrest : ∀ item ∈ rest.head?, item.kind? ≠ none) :
    lastTransition? (between ++ rest) = latest? between := by
  induction between with
  | nil =>
      cases rest with
      | nil => rfl
      | cons item rest =>
          cases item with
          | transition t => exact absurd rfl (hrest _ rfl)
          | card c => rfl
          | cast c => rfl
  | cons item between ih =>
      obtain ⟨t, rfl⟩ := Item.kind?_eq_none.mp (hbetween item List.mem_cons_self)
      have later := ih fun other h => hbetween other (List.mem_cons_of_mem _ h)
      rw [List.cons_append, lastTransition?, later]
      exact (latest?_append [.transition t] between).symm

end Slot

namespace Timeline

theorem lastTransition?_drop {t : Timeline} {k i : Nat} {kind : ClipKind}
    (h : t.clips[k]? = some (i, kind)) :
    Slot.lastTransition? (t.items.drop (i + 1)) = t.latestIn? (i + 1) (t.reach k) := by
  have split : t.items.drop (i + 1) =
      (t.items.take (t.reach k)).drop (i + 1) ++ t.items.drop (t.reach k) := by
    have hr : i + 1 ≤ (t.items.take (t.reach k)).length := by
      rw [List.length_take_of_le (t.reach_le k)]
      exact lt_reach h
    rw [← List.drop_append_of_le_length hr, List.take_append_drop]
  rw [split, Slot.lastTransition?_append, latestIn?]
  · intro item hitem
    obtain ⟨m, hm⟩ := List.mem_iff_getElem?.mp hitem
    rw [List.getElem?_drop, List.getElem?_take] at hm
    split at hm
    · exact transition_of_lt_reach h (by omega) (by assumption) hm
    · cases hm
  · intro item hitem
    rw [List.head?_drop] at hitem
    cases hn : t.clips[k + 1]? with
    | none =>
        rw [reach_last hn, List.getElem?_eq_none (Nat.le_refl _)] at hitem
        cases hitem
    | some next =>
        obtain ⟨clip, hclip, hkind⟩ := getElem?_of_clip hn
        rw [reach_eq hn, hclip] at hitem
        cases hitem
        simp [hkind]

/-- The lookups find what one walk over the items finds. -/
theorem slots_eq_ofItems (t : Timeline) : t.slots = Slot.ofItems 0 none t.items := by
  have hwalk : Slot.ofItems 0 none t.items = t.clips.map (Slot.atPosition t.items) :=
    Slot.ofItems_eq [] t.items
  rw [hwalk]
  refine List.ext_getElem? fun k => ?_
  rw [List.getElem?_map]
  cases hclip : t.clips[k]? with
  | none =>
      rw [List.getElem?_eq_none_iff] at hclip
      rw [List.getElem?_eq_none (by rwa [length_slots])]
      rfl
  | some clip =>
      rw [getElem?_slots hclip, Option.map_some, Slot.atPosition, lastTransition?_drop hclip]
      rfl

end Timeline

end Storyboard
