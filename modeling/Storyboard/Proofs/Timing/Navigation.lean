import Mathlib
import Storyboard.Proofs.Timing.Chapters

/-!
Moving among chapters. "Next" goes from chapter to chapter and then to the end of the composition;
it rests there unless a chapter begins behind the end, as one whose transition is longer than its
card does. "Previous" goes back to the first chapter, unless it comes to a frame at which two
chapters begin: it steps from the second of them to the first one, and so leads nowhere.
-/

namespace Storyboard.Chapters

/-- Where a move leads that is made so many times. -/
def follow (move : Int → Option Int) : Nat → Int → Option Int
  | 0, frame => some frame
  | n + 1, frame => (move frame).bind (follow move n)

theorem follow_succ {move : Int → Option Int} {frame target : Int} (h : move frame = some target)
    (n : Nat) : follow move (n + 1) frame = follow move n target := by
  rw [follow, h, Option.bind_some]

theorem follow_of_fixed {move : Int → Option Int} {frame : Int} (h : move frame = some frame)
    (n : Nat) : follow move n frame = some frame := by
  induction n with
  | zero => rfl
  | succ n ih => rw [follow_succ h, ih]

variable {c : Chapters} {frame : Int}

/-! ### Next -/

theorem next?_cases (c : Chapters) (frame : Int) (hne : c.list ≠ []) :
    (∃ x, c.list[c.begun frame]? = some x ∧ c.next? frame = some x.frame) ∨
      c.begun frame = c.list.length ∧ c.next? frame = some c.endFrame := by
  unfold next?
  rw [if_neg (by simpa using hne)]
  cases hx : c.list[c.begun frame]? with
  | some x => exact .inl ⟨x, rfl, rfl⟩
  | none =>
      refine .inr ⟨?_, rfl⟩
      exact Nat.le_antisymm (c.begun_le_length frame) (List.getElem?_eq_none_iff.mp hx)

theorem next?_endFrame_iff (hne : c.list ≠ []) :
    c.next? c.endFrame = some c.endFrame ↔ ∀ x ∈ c.list, x.frame ≤ c.endFrame := by
  rw [← begun_eq_length_iff]
  obtain ⟨x, hx, hnext⟩ | ⟨hbegun, hnext⟩ := c.next?_cases c.endFrame hne
  · have hlater := lt_frame_of_begun hx
    have hthere := (List.getElem?_eq_some_iff.mp hx).1
    rw [hnext, Option.some.injEq]
    omega
  · simp only [hbegun, hnext]

theorem exists_next? (hne : c.list ≠ []) (hframe : frame ≤ c.endFrame) :
    ∃ target, c.next? frame = some target ∧
      (frame < target ∨ frame = c.endFrame ∧ target = c.endFrame) ∧
      (target ≤ c.endFrame ∨ ∃ x ∈ c.list, c.endFrame < x.frame ∧ x.frame = target) := by
  obtain ⟨x, hx, hnext⟩ | ⟨_, hnext⟩ := c.next?_cases frame hne
  · refine ⟨x.frame, hnext, .inl (lt_frame_of_begun hx), ?_⟩
    rcases le_or_gt x.frame c.endFrame with hbefore | hbehind
    · exact .inl hbefore
    · exact .inr ⟨x, List.mem_of_getElem? hx, hbehind, rfl⟩
  · exact ⟨c.endFrame, hnext, (Int.lt_or_eq_of_le hframe).imp_right fun h => ⟨h, rfl⟩,
      .inl (Int.le_refl _)⟩

theorem Ordered.exists_follow_next? (hc : c.Ordered) (hne : c.list ≠ []) (frame : Int) :
    ∃ n ≤ c.list.length - c.begun frame + 1, follow c.next? n frame = some c.endFrame := by
  -- Every step to a chapter leaves fewer of them that have not begun; the last one is to the end.
  induction hleft : c.list.length - c.begun frame using Nat.strong_induction_on
    generalizing frame with
  | _ left ih =>
      obtain ⟨x, hx, hnext⟩ | ⟨_, hnext⟩ := c.next?_cases frame hne
      · have hthere := (List.getElem?_eq_some_iff.mp hx).1
        have hmore : c.begun frame < c.begun x.frame := (hc.lt_begun_iff hx).mpr (Int.le_refl _)
        obtain ⟨n, hn, hfollow⟩ := ih _ (by omega) x.frame rfl
        exact ⟨n + 1, by omega, (follow_succ hnext n).trans hfollow⟩
      · exact ⟨1, by omega, follow_succ hnext 0⟩

/-- Where there is a card, "next" leads on from every frame of the composition but the last one, and
to the last one in the end. It leaves the composition only for a chapter that begins behind it; if
there is none, it stays in the composition and rests at its last frame. -/
theorem next?_of_layout {t : Timeline} {lengths : List Nat} {s : Schedule} {c : Chapters} {i : Nat}
    {frame : Int} (h : t.layout lengths = .ok s) (hcard : (i, .card) ∈ t.clips)
    (hc : c = ofSchedule t s) (hzero : 0 ≤ frame) (hend : frame ≤ c.endFrame) :
    (∃ target, c.next? frame = some target ∧ 0 ≤ target ∧
      (frame < target ∨ frame = c.endFrame ∧ target = c.endFrame) ∧
      (target ≤ c.endFrame ∨ ∃ x ∈ c.list, c.endFrame < x.frame ∧ x.frame = target)) ∧
    (∃ n ≤ c.list.length + 1, follow c.next? n frame = some c.endFrame) ∧
    ((∀ x ∈ c.list, x.frame ≤ c.endFrame) ↔
      ∀ n, follow c.next? n c.endFrame = some c.endFrame) := by
  subst hc
  have hne := list_ne_nil h hcard
  have hordered := ordered_ofSchedule t s
  refine ⟨?_, ?_, ?_⟩
  · obtain ⟨target, hnext, hon, hwhere⟩ := exists_next? hne hend
    exact ⟨target, hnext, by omega, hon, hwhere⟩
  · obtain ⟨n, hn, hfollow⟩ := hordered.exists_follow_next? hne frame
    exact ⟨n, by omega, hfollow⟩
  · rw [← next?_endFrame_iff hne]
    refine ⟨follow_of_fixed, fun hrests => ?_⟩
    obtain ⟨target, hnext, _⟩ := exists_next? hne (Int.le_refl _)
    rw [hnext, ← hrests 1, follow_succ hnext 0]
    rfl

/-- Two cards of which the second one is fully seen only behind the end. -/
def lingering : Timeline :=
  ⟨"t", [.card ⟨"A", none, .zero, [], []⟩, .transition ⟨.fade, 100, none, none⟩,
    .card ⟨"B", none, .zero, [], []⟩]⟩

theorem layout_lingering : ∃ s, lingering.layout [30, 30] = .ok s ∧
    ofSchedule lingering s = ⟨[⟨"A", 0, 0⟩, ⟨"B", 130, 1⟩], 59⟩ :=
  ⟨_, Timeline.layout_eq_ofItems (by decide), ofSchedule_of_pairwise (by decide +kernel)⟩

theorem next?_of_layout_lingering :
    ∃ s, lingering.layout [30, 30] = .ok s ∧
      (∃ target, (ofSchedule lingering s).next? 0 = some target ∧ 0 < target) ∧
      (∃ n ≤ 3, follow (ofSchedule lingering s).next? n 0 = some 59) ∧
      ∃ n, follow (ofSchedule lingering s).next? n 59 ≠ some 59 := by
  obtain ⟨s, hs, hchapters⟩ := layout_lingering
  obtain ⟨⟨target, hnext, _, hon, _⟩, hreached, hrests⟩ :=
    next?_of_layout hs (by decide : (0, .card) ∈ lingering.clips) hchapters.symm
      (Int.le_refl 0) (by decide)
  refine ⟨s, hs, ⟨target, hchapters ▸ hnext, ?_⟩, hchapters ▸ hreached, ?_⟩
  · simpa using hon
  · rw [hchapters]
    exact not_forall.mp fun h => absurd (hrests.mpr h) (by decide)

/-- "Next" leads behind the end from within the composition, also from its last frame. -/
theorem next?_lingering : ∃ s, lingering.layout [30, 30] = .ok s ∧
    (ofSchedule lingering s).endFrame = 59 ∧ (ofSchedule lingering s).next? 0 = some 130 ∧
    (ofSchedule lingering s).next? 59 = some 130 := by
  obtain ⟨s, hs, hchapters⟩ := layout_lingering
  refine ⟨s, hs, ?_⟩
  rw [hchapters]
  exact ⟨rfl, by decide, by decide⟩

/-! ### Previous -/

/-- Two chapters begin at a frame. -/
def Coincide (c : Chapters) (frame : Int) : Prop :=
  ∃ (k l : Nat) (x y : Chapter), k < l ∧ c.list[k]? = some x ∧ c.list[l]? = some y ∧
    x.frame = frame ∧ y.frame = frame

theorem not_coincide_of_nodup (h : (c.list.map (·.frame)).Nodup) : ¬ c.Coincide frame := by
  rintro ⟨k, l, x, y, hkl, hx, hy, rfl, hsame⟩
  have hk : (c.list.map (·.frame))[k]? = some x.frame := by rw [List.getElem?_map, hx]; rfl
  have hl : (c.list.map (·.frame))[l]? = some x.frame := by
    rw [List.getElem?_map, hy, ← hsame]
    rfl
  have := (List.getElem?_inj (List.getElem?_eq_some_iff.mp hk).1 h).mp (hk.trans hl.symm)
  omega

theorem previousIndex_of_begun (last : Chapter) {k : Nat} (h : c.begun frame = k + 1) :
    c.previousIndex last frame =
      if k + 1 = c.list.length ∧ Frame.clamp (last.frame + tolerance) < frame then k
      else k - 1 := by
  rw [previousIndex, atOrBefore?, h]

namespace Ordered

variable (hc : c.Ordered)
include hc

/-- Behind the start of the last chapter, "previous" leads there; from any other frame at which a
chapter has begun it leads to the chapter before, if there is one. -/
theorem previous?_cases {k : Nat} {x : Chapter} (hbegun : c.begun frame = k + 1)
    (hx : c.list[k]? = some x) :
    (x.frame < frame ∧ c.previous? frame = some x.frame) ∨
      ∃ y, c.list[k - 1]? = some y ∧ c.previous? frame = some y.frame := by
  have hk := (List.getElem?_eq_some_iff.mp hx).1
  have hlast : c.list.getLast? = some (c.list.getLast (List.ne_nil_of_length_pos (by omega))) :=
    List.getLast?_eq_getLast_of_ne_nil _
  have hpositive := hc.position _ (List.getLast_mem (List.ne_nil_of_length_pos (by omega)))
  generalize c.list.getLast _ = last at hlast hpositive
  have hindex := previousIndex_of_begun last hbegun
  have hmoves {y : Chapter} (hy : c.list[c.previousIndex last frame]? = some y) :
      c.previous? frame = some y.frame := by
    simp only [previous?, hlast, hy, Option.bind_eq_bind, Option.bind_some, pure]
  split at hindex
  · next hbehind =>
      obtain ⟨hend, hclamp⟩ := hbehind
      rw [hindex] at hmoves
      have hsame : last = x := by
        rw [List.getLast?_eq_getElem?, ← hend, Nat.add_sub_cancel, hx] at hlast
        exact (Option.some.inj hlast).symm
      subst hsame
      refine .inl ⟨?_, hmoves hx⟩
      simp only [Frame.clamp, Frame.least, Frame.greatest, tolerance] at hclamp hpositive
      omega
  · rw [hindex] at hmoves
    have hthere : k - 1 < c.list.length := by omega
    exact .inr ⟨_, List.getElem?_eq_getElem hthere, hmoves (List.getElem?_eq_getElem hthere)⟩

theorem frame_le_of_coincide {k : Nat} {x : Chapter} (hbegun : c.begun frame = k + 1)
    (htwo : c.Coincide frame) (hx : c.list[k - 1]? = some x) : frame ≤ x.frame := by
  obtain ⟨l, m, y, z, hlm, hy, hz, rfl, hsame⟩ := htwo
  -- The later one of the two has begun, so the earlier one is not behind the last but one.
  have hlast : m < c.begun y.frame := (hc.lt_begun_iff hz).mpr (Int.le_of_eq hsame)
  exact hc.frame_le (by omega) hy hx

/-- Behind the first chapter, "previous" leads to the frame of a chapter. This is one before the
present frame, unless two chapters begin there. -/
theorem exists_previous? {first : Chapter} (hfirst : c.list[0]? = some first)
    (hframe : first.frame < frame) :
    ∃ (k : Nat) (y : Chapter), c.list[k]? = some y ∧ c.previous? frame = some y.frame ∧
      y.frame ≤ frame ∧ (y.frame = frame ↔ c.Coincide frame) := by
  have hsome : 0 < c.begun frame := (hc.lt_begun_iff hfirst).mpr (Int.le_of_lt hframe)
  obtain ⟨k, hbegun⟩ := Nat.exists_eq_add_of_lt hsome
  rw [Nat.zero_add] at hbegun
  have hk : k < c.list.length := by
    have := c.begun_le_length frame
    omega
  have hx := List.getElem?_eq_getElem hk
  have hpresent : c.list[k].frame ≤ frame := frame_le_of_lt_begun (by omega) hx
  obtain ⟨hbehind, hmoves⟩ | ⟨y, hy, hmoves⟩ := hc.previous?_cases hbegun hx
  · refine ⟨k, _, hx, hmoves, hpresent, fun hsame => by omega, fun htwo => ?_⟩
    obtain ⟨before, hbefore⟩ : ∃ y, c.list[k - 1]? = some y :=
      ⟨_, List.getElem?_eq_getElem (by omega)⟩
    have hlow := hc.frame_le_of_coincide hbegun htwo hbefore
    have hhigh := hc.frame_le (Nat.sub_le k 1) hbefore hx
    omega
  · have hhigh := hc.frame_le (Nat.sub_le k 1) hy hx
    refine ⟨k - 1, y, hy, hmoves, hhigh.trans hpresent, fun hsame => ?_, fun htwo => ?_⟩
    · have hlater : k ≠ 0 := by
        rintro rfl
        rw [hfirst] at hy
        cases hy
        omega
      exact ⟨k - 1, k, y, _, by omega, hy, hx, hsame, by omega⟩
    · have hlow := hc.frame_le_of_coincide hbegun htwo hy
      omega

theorem exists_follow_previous? {first : Chapter} (hfirst : c.list[0]? = some first)
    (hapart : ∀ f, first.frame < f → f ≤ frame → ¬ c.Coincide f) {k : Nat} {x : Chapter}
    (hx : c.list[k]? = some x) (hframe : x.frame ≤ frame) :
    ∃ n ≤ k, follow c.previous? n x.frame = some first.frame := by
  induction k using Nat.strong_induction_on generalizing x with
  | _ k ih =>
      rcases Int.lt_or_eq_of_le (hc.frame_le (Nat.zero_le k) hfirst hx) with hbehind | hsame
      · obtain ⟨l, y, hy, hmoves, hback, hstuck⟩ := hc.exists_previous? hfirst hbehind
        have hearlier : y.frame < x.frame :=
          lt_of_le_of_ne hback fun h => hapart _ hbehind hframe (hstuck.mp h)
        have hl : l < k := by
          by_contra hkl
          exact not_le.mpr hearlier (hc.frame_le (not_lt.mp hkl) hx hy)
        obtain ⟨n, hn, hfollow⟩ := ih l hl hy (hback.trans hframe)
        exact ⟨n + 1, by omega, (follow_succ hmoves n).trans hfollow⟩
      · exact ⟨0, Nat.zero_le k, by rw [hsame]; rfl⟩

end Ordered

/-- Behind the first chapter, "previous" leads back, though not before that chapter, from every
frame at which no two chapters begin, and from no other. If no two begin at one frame on the way, it
leads to the first chapter, within as many steps as there are chapters. -/
theorem previous?_of_ofSchedule {t : Timeline} {s : Schedule} {c : Chapters} {first : Chapter}
    {frame : Int} (hc : c = ofSchedule t s) (hfirst : c.list.head? = some first)
    (hframe : first.frame < frame) :
    (∃ target, c.previous? frame = some target ∧ first.frame ≤ target ∧ target ≤ frame ∧
      (target = frame ↔ c.Coincide frame)) ∧
    ((∀ f, first.frame < f → f ≤ frame → ¬ c.Coincide f) →
      ∃ n ≤ c.list.length, follow c.previous? n frame = some first.frame) := by
  subst hc
  have hordered := ordered_ofSchedule t s
  rw [List.head?_eq_getElem?] at hfirst
  obtain ⟨k, y, hy, hmoves, hback, hstuck⟩ := hordered.exists_previous? hfirst hframe
  refine ⟨⟨y.frame, hmoves, hordered.frame_le (Nat.zero_le k) hfirst hy, hback, hstuck⟩, ?_⟩
  intro hapart
  obtain ⟨n, hn, hfollow⟩ := hordered.exists_follow_previous? hfirst hapart hy hback
  have hk := (List.getElem?_eq_some_iff.mp hy).1
  exact ⟨n + 1, by omega, (follow_succ hmoves n).trans hfollow⟩

theorem previous?_of_ofSchedule_lingering :
    ∃ s, lingering.layout [30, 30] = .ok s ∧
      (∃ target, (ofSchedule lingering s).previous? 132 = some target ∧ target < 132) ∧
      ∃ n ≤ 2, follow (ofSchedule lingering s).previous? n 132 = some 0 := by
  obtain ⟨s, hs, hchapters⟩ := layout_lingering
  have hapart {f : Int} : ¬ Coincide ⟨[⟨"A", 0, 0⟩, ⟨"B", 130, 1⟩], 59⟩ f :=
    not_coincide_of_nodup (by decide)
  obtain ⟨⟨target, hmoves, _, hback, hstuck⟩, hreached⟩ :=
    previous?_of_ofSchedule hchapters.symm rfl (by decide : (0 : Int) < 132)
  refine ⟨s, hs, ?_⟩
  rw [hchapters]
  exact ⟨⟨target, hmoves, lt_of_le_of_ne hback fun h => hapart (hstuck.mp h)⟩,
    hreached fun _ _ _ => hapart⟩

/-- Three cards of which the last two are fully seen from one frame on. -/
def meeting : Timeline :=
  ⟨"t", [.card ⟨"A", none, .zero, [], []⟩, .transition ⟨.fade, 30, none, none⟩,
    .card ⟨"B", none, .zero, [], []⟩, .transition ⟨.fade, 10, none, none⟩,
    .card ⟨"C", none, .zero, [], []⟩]⟩

/-- "Previous" is stuck where two chapters begin, though there is one before them. -/
theorem previous?_meeting : ∃ s, meeting.layout [10, 20, 100] = .ok s ∧
    ofSchedule meeting s = ⟨[⟨"A", 0, 0⟩, ⟨"B", 40, 1⟩, ⟨"C", 40, 2⟩], 129⟩ ∧
    ∀ n, follow (ofSchedule meeting s).previous? n 40 = some 40 := by
  have hchapters : ∃ s, meeting.layout [10, 20, 100] = .ok s ∧
      ofSchedule meeting s = ⟨[⟨"A", 0, 0⟩, ⟨"B", 40, 1⟩, ⟨"C", 40, 2⟩], 129⟩ :=
    ⟨_, Timeline.layout_eq_ofItems (by decide), ofSchedule_of_pairwise (by decide +kernel)⟩
  obtain ⟨s, hs, hchapters⟩ := hchapters
  refine ⟨s, hs, hchapters, ?_⟩
  rw [hchapters]
  exact follow_of_fixed (by decide)

end Storyboard.Chapters
