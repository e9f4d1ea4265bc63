import Mathlib
import Storyboard.Proofs.Timing.Navigation

/-!
Looking up chapters. The list tells every card of a schedule once, by frame and then by clip,
whatever frames the cards are seen from. So a frame parts the chapters into those that have begun
and those that have not, a search by halving finds where, and every move is told by that place.
-/

namespace Storyboard.Chapters

/-! ### The list of chapters -/

/-- The chapters tell a schedule's cards: each of them once, with the title that the timeline has
for it, in the order of the frames and, where these are equal, of the clips. -/
structure Tells (c : Chapters) (t : Timeline) (s : Schedule) : Prop where
  mem_iff : ∀ x, x ∈ c.list ↔ ∃ p, s.clips[x.clip]? = some p ∧ p.slot.kind = .card ∧
    x.frame = p.visibleStart ∧ x.title = (t.items[p.slot.index]?.map Item.title).getD ""
  nodup : (c.list.map (·.clip)).Nodup
  ordered : c.list.Pairwise fun a b => a.frame < b.frame ∨ a.frame = b.frame ∧ a.clip < b.clip

section List

variable {t : Timeline} {s : Schedule} {p : Placement} {clip : Nat} {x : Chapter}

theorem ofClip?_eq_some : ofClip? t p clip = some x ↔ p.slot.kind = .card ∧ x.clip = clip ∧
    x.frame = p.visibleStart ∧ x.title = (t.items[p.slot.index]?.map Item.title).getD "" := by
  obtain ⟨title, frame, place⟩ := x
  unfold ofClip?
  cases p.slot.kind with
  | card =>
      simp only [Option.some.injEq, Chapter.mk.injEq, true_and]
      constructor
      · rintro ⟨rfl, rfl, rfl⟩
        exact ⟨rfl, rfl, rfl⟩
      · rintro ⟨rfl, rfl, rfl⟩
        exact ⟨rfl, rfl, rfl⟩
  | cast => simp

theorem pairwise_clip_unsorted (t : Timeline) (s : Schedule) :
    (unsorted t s).Pairwise fun a b => a.clip < b.clip := by
  have hplaces : s.clips.zipIdx.Pairwise fun a b => a.2 < b.2 := by
    rw [← List.pairwise_map (f := Prod.snd) (R := (· < ·)), List.zipIdx_map_snd]
    exact List.pairwise_lt_range'
  refine hplaces.filterMap _ ?_
  rintro ⟨p, i⟩ ⟨q, j⟩ hij x hx y hy
  rw [(ofClip?_eq_some.mp hx).2.1, (ofClip?_eq_some.mp hy).2.1]
  exact hij

/-- Chapters at one frame keep the order of their clips. -/
theorem filter_frame_ofSchedule (t : Timeline) (s : Schedule) (frame : Int) :
    (ofSchedule t s).list.filter (·.frame = frame) = (unsorted t s).filter (·.frame = frame) := by
  have hkept : ((unsorted t s).filter (·.frame = frame)).Sublist (ofSchedule t s).list := by
    refine List.sublist_mergeSort ?_ ?_ ?_ List.filter_sublist
    · intro a b c hab hbc
      simp only [decide_eq_true_eq] at *
      omega
    · intro a b
      simp only [Bool.or_eq_true, decide_eq_true_eq]
      omega
    · refine List.pairwise_of_forall_mem_list ?_
      intro a ha b hb
      have hfa := (List.mem_filter.mp ha).2
      have hfb := (List.mem_filter.mp hb).2
      simp only [decide_eq_true_eq] at *
      omega
  have hwithin := hkept.filter (·.frame = frame)
  simp only [List.filter_filter, Bool.and_self] at hwithin
  exact (hwithin.eq_of_length ((perm_ofSchedule t s).filter _).length_eq.symm).symm

theorem tells_ofSchedule (t : Timeline) (s : Schedule) : (ofSchedule t s).Tells t s where
  mem_iff x := by
    rw [(perm_ofSchedule t s).mem_iff, mem_unsorted]
    constructor
    · rintro ⟨p, clip, hclip, hx⟩
      obtain ⟨hkind, rfl, hframe, htitle⟩ := ofClip?_eq_some.mp hx
      exact ⟨p, hclip, hkind, hframe, htitle⟩
    · rintro ⟨p, hclip, hkind, hframe, htitle⟩
      exact ⟨p, x.clip, hclip, ofClip?_eq_some.mpr ⟨hkind, rfl, hframe, htitle⟩⟩
  nodup := by
    rw [((perm_ofSchedule t s).map _).nodup_iff]
    exact (List.pairwise_map.mpr (pairwise_clip_unsorted t s)).imp Nat.ne_of_lt
  ordered := by
    rw [List.pairwise_iff_forall_sublist]
    intro a b hab
    have hle := List.pairwise_iff_forall_sublist.mp (ordered_ofSchedule t s).pairwise hab
    rcases Int.lt_or_eq_of_le hle with hlt | hsame
    · exact .inl hlt
    · have htwo := hab.filter (·.frame = b.frame)
      rw [filter_frame_ofSchedule] at htwo
      simp only [hsame, decide_true, List.filter_cons_of_pos, List.filter_nil] at htwo
      exact .inr ⟨hsame, List.pairwise_iff_forall_sublist.mp (pairwise_clip_unsorted t s)
        (htwo.trans List.filter_sublist)⟩

/-- There are chapters exactly if there are cards. -/
theorem Tells.list_eq_nil_iff {c : Chapters} (h : c.Tells t s) :
    c.list = [] ↔ ∀ p ∈ s.clips, p.slot.kind ≠ .card := by
  rw [List.eq_nil_iff_forall_not_mem]
  constructor
  · intro hnone p hp hkind
    obtain ⟨clip, hclip⟩ := List.mem_iff_getElem?.mp hp
    exact hnone ⟨_, _, clip⟩ ((h.mem_iff _).mpr ⟨p, hclip, hkind, rfl, rfl⟩)
  · intro hnone x hx
    obtain ⟨p, hclip, hkind, _⟩ := (h.mem_iff x).mp hx
    exact hnone p (List.mem_of_getElem? hclip) hkind

end List

/-! ### The search -/

variable {c : Chapters} {frame : Int}

/-- Where the chapters are in order, halving finds how many of them have begun. -/
theorem Ordered.bisect_eq_begun (hc : c.Ordered) (frame : Int) :
    bisect (fun k => c.list[k]?.any (·.frame ≤ frame)) 0 c.list.length = c.begun frame := by
  refine bisect_eq (Nat.zero_le _) (by simpa using c.begun_le_length frame) ?_
  intro k _ hk
  rw [Nat.zero_add] at hk
  have hx := List.getElem?_eq_getElem hk
  rw [hc.lt_begun_iff hx, hx, Option.any_some, decide_eq_true_eq]

theorem atOrBefore?_eq_some {k : Nat} : c.atOrBefore? frame = some k ↔ c.begun frame = k + 1 := by
  unfold atOrBefore?
  cases c.begun frame with
  | zero => simp
  | succ n => simp

theorem Ordered.atOrBefore?_eq_some_iff (hc : c.Ordered) {k : Nat} :
    c.atOrBefore? frame = some k ↔
      IsGreatest {k | ∃ x, c.list[k]? = some x ∧ x.frame ≤ frame} k := by
  rw [atOrBefore?_eq_some]
  constructor
  · intro hbegun
    have hk : k < c.list.length := by
      have := c.begun_le_length frame
      omega
    have hx := List.getElem?_eq_getElem hk
    refine ⟨⟨_, hx, frame_le_of_lt_begun (by omega) hx⟩, ?_⟩
    rintro l ⟨y, hy, hframe⟩
    have := (hc.lt_begun_iff hy).mpr hframe
    omega
  · rintro ⟨⟨x, hx, hframe⟩, hgreatest⟩
    have hk := (hc.lt_begun_iff hx).mpr hframe
    have hlast : c.begun frame - 1 < c.list.length := by
      have := c.begun_le_length frame
      omega
    have hy := List.getElem?_eq_getElem hlast
    have hle := hgreatest ⟨_, hy, frame_le_of_lt_begun (by omega) hy⟩
    omega

theorem Ordered.atOrBefore?_eq_none_iff (hc : c.Ordered) :
    c.atOrBefore? frame = none ↔ ∀ x ∈ c.list, frame < x.frame := by
  constructor
  · intro hnone x hx
    obtain ⟨k, hk⟩ := List.mem_iff_getElem?.mp hx
    by_contra hframe
    have hbegun := (hc.lt_begun_iff hk).mpr (not_lt.mp hframe)
    have hsome := atOrBefore?_eq_some.mpr (Nat.sub_add_cancel (Nat.one_le_of_lt hbegun)).symm
    rw [hnone] at hsome
    cases hsome
  · intro hall
    rw [Option.eq_none_iff_forall_ne_some]
    intro k hk
    obtain ⟨x, hx, hframe⟩ := (hc.atOrBefore?_eq_some_iff.mp hk).1
    have := hall x (List.mem_of_getElem? hx)
    omega

/-! ### Moves -/

theorem next?_eq_none_iff : c.next? frame = none ↔ c.list = [] := by
  unfold next?
  split
  · next h => simpa using h
  · next h => simpa using h

theorem previous?_eq_none_iff : c.previous? frame = none ↔ c.list = [] := by
  constructor
  · intro hnone
    by_contra hne
    have hplace (last : Chapter) : c.previousIndex last frame < c.list.length := by
      have hpos := List.length_pos_iff.mpr hne
      unfold previousIndex
      split
      · exact hpos
      · next k hk =>
          have := atOrBefore?_eq_some.mp hk
          have := c.begun_le_length frame
          split <;> omega
    simp [previous?, List.getLast?_eq_getLast_of_ne_nil hne, hplace] at hnone
  · intro hnil
    simp [previous?, hnil]

/-- "Next" leads to the least frame behind the present one at which a chapter begins. -/
theorem Ordered.next?_of_later (hc : c.Ordered) {x : Chapter} (hx : x ∈ c.list)
    (hframe : frame < x.frame) :
    ∃ target, c.next? frame = some target ∧
      IsLeast {f | frame < f ∧ ∃ y ∈ c.list, y.frame = f} target := by
  obtain ⟨y, hy, hnext⟩ | ⟨hbegun, _⟩ := c.next?_cases frame (List.ne_nil_of_mem hx)
  · refine ⟨y.frame, hnext, ⟨lt_frame_of_begun hy, y, List.mem_of_getElem? hy, rfl⟩, ?_⟩
    rintro _ ⟨hlater, z, hz, rfl⟩
    obtain ⟨k, hk⟩ := List.mem_iff_getElem?.mp hz
    have hplace : c.begun frame ≤ k :=
      not_lt.mp fun hlt => not_le.mpr hlater (frame_le_of_lt_begun hlt hk)
    exact hc.frame_le hplace hy hk
  · have := begun_eq_length_iff.mp hbegun x hx
    omega

theorem next?_of_none_later (hne : c.list ≠ []) (hall : ∀ x ∈ c.list, x.frame ≤ frame) :
    c.next? frame = some c.endFrame := by
  obtain ⟨x, hx, _⟩ | ⟨_, hnext⟩ := c.next?_cases frame hne
  · have := hall x (List.mem_of_getElem? hx)
    have := lt_frame_of_begun hx
    omega
  · exact hnext

/-- What is found from a frame on: the search by halving counts the chapters that have begun, the
present chapter is the last of them, and "next" leads to the first frame behind at which a chapter
begins, or else to the end. -/
structure Finds (c : Chapters) (frame : Int) : Prop where
  bisect : Storyboard.bisect (fun k => c.list[k]?.any (·.frame ≤ frame)) 0 c.list.length =
    c.begun frame
  present : ∀ k, c.atOrBefore? frame = some k ↔
    IsGreatest {k | ∃ x, c.list[k]? = some x ∧ x.frame ≤ frame} k
  absent : c.atOrBefore? frame = none ↔ ∀ x ∈ c.list, frame < x.frame
  next : (∃ x ∈ c.list, frame < x.frame) → ∃ target, c.next? frame = some target ∧
    IsLeast {f | frame < f ∧ ∃ x ∈ c.list, x.frame = f} target
  last : c.list ≠ [] → (∀ x ∈ c.list, x.frame ≤ frame) → c.next? frame = some c.endFrame

theorem Ordered.finds (hc : c.Ordered) (frame : Int) : c.Finds frame where
  bisect := hc.bisect_eq_begun frame
  present _ := hc.atOrBefore?_eq_some_iff
  absent := hc.atOrBefore?_eq_none_iff
  next := by
    rintro ⟨x, hx, hframe⟩
    exact hc.next?_of_later hx hframe
  last := next?_of_none_later

/-- Whatever schedule the chapters are taken from, they tell its cards, lookups find what a scan of
all chapters would, and there is nowhere to move exactly if there is no card. -/
theorem lookup_ofSchedule (t : Timeline) (s : Schedule) :
    (ofSchedule t s).Tells t s ∧ ∀ frame, (ofSchedule t s).Finds frame ∧
      ((ofSchedule t s).previous? frame = none ↔ ∀ p ∈ s.clips, p.slot.kind ≠ .card) ∧
      ((ofSchedule t s).next? frame = none ↔ ∀ p ∈ s.clips, p.slot.kind ≠ .card) := by
  have htells := tells_ofSchedule t s
  refine ⟨htells, ?_⟩
  intro frame
  rw [previous?_eq_none_iff, next?_eq_none_iff, htells.list_eq_nil_iff]
  exact ⟨(ordered_ofSchedule t s).finds frame, Iff.rfl, Iff.rfl⟩

end Storyboard.Chapters
