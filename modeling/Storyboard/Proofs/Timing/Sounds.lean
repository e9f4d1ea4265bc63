import Mathlib
import Storyboard.Proofs.Timing.Sources
import Storyboard.Timing.Sound

/-!
Where sounds begin in their clips. Going from the start of a clip to an anchor, on by an offset and
back to the start takes a few operations, each of which may stop at the end of its range; if none
does, the start cancels. Whatever they do, a sound that is heard begins in its clip and ends with it.
-/

namespace Storyboard

/-! ### Positions in a clip -/

def Frame.InRange (x : Int) : Prop :=
  least ≤ x ∧ x ≤ greatest

instance (x : Int) : Decidable (Frame.InRange x) :=
  inferInstanceAs (Decidable (_ ∧ _))

theorem Frame.InRange.clamp_eq {x : Int} (h : InRange x) : clamp x = x :=
  Frame.clamp_eq h.1 h.2

namespace Placement

/-- The frames from the start of a clip to an anchor. -/
def distance (p : Placement) : Anchor → Int
  | .inBegin => 0
  | .inEnd => p.incomingFrames
  | .outBegin => p.base
  | .outEnd => p.duration
  | .absolute => -p.start

/-- Nothing stops at the end of a range on the way to the cue `shift` frames after an anchor and
from there back to the start of the clip. -/
structure Unclipped (p : Placement) (anchor : Anchor) (shift : Int) : Prop where
  length : anchor ≠ .absolute → p.distance anchor ≤ Frame.greatest
  middle : Frame.InRange (p.start + p.distance anchor)
  cue : Frame.InRange (p.start + p.distance anchor + shift)
  position : Frame.InRange (p.distance anchor + shift)

variable {p q : Placement} {anchor : Anchor} {shift : Int}

namespace Unclipped

theorem anchorFrame_eq (h : p.Unclipped anchor shift) :
    p.geometry.anchorFrame anchor = p.start + p.distance anchor := by
  obtain ⟨hlength, hmiddle, -, -⟩ := h
  cases anchor with
  | inBegin => exact (Int.add_zero p.start).symm
  | absolute => exact (Int.add_right_neg p.start).symm
  | inEnd | outBegin | outEnd =>
      have hfits := Frame.ofLength_eq (hlength nofun)
      dsimp only [geometry, Geometry.anchorFrame]
      rw [hfits]
      exact hmiddle.clamp_eq

theorem skip_eq (h : p.Unclipped anchor shift) :
    (Sound.skip p (p.geometry.shiftedFrame anchor shift) : Int) =
      max 0 (p.distance anchor + shift) := by
  have hback : p.start + p.distance anchor + shift - p.start = p.distance anchor + shift := by
    omega
  rw [Sound.skip, Geometry.shiftedFrame, h.anchorFrame_eq, h.cue.clamp_eq, hback,
    h.position.clamp_eq, Int.toNat_eq_max, max_comm]

end Unclipped

/-- But for the start, two clips that are placed alike have their anchors at the same distances. -/
theorem distance_congr (hslot : q.slot = p.slot) (hbase : q.base = p.base)
    (h : anchor ≠ .absolute) : q.distance anchor = p.distance anchor := by
  cases anchor with
  | inBegin => rfl
  | inEnd => rw [distance, distance, incomingFrames, incomingFrames, hslot]
  | outBegin => rw [distance, distance, hbase]
  | outEnd => rw [distance, distance, duration, duration, hslot, hbase]
  | absolute => exact absurd rfl h

/-- The anchor of an attachment: its own, or else where sounds begin in clips of the kind. -/
def anchorOf (p : Placement) (a : Attachment) : Anchor :=
  a.anchor.getD (match p.slot.kind with
    | .card => .inEnd
    | .cast => .inBegin)

/-- The position of an attachment in its clip. -/
def position (p : Placement) (rate : FrameRate) (a : Attachment) : Nat :=
  Sound.skip p (p.geometry.cueFrame (p.anchorOf a) a.offset rate)

theorem position_eq {rate : FrameRate} {a : Attachment}
    (h : p.Unclipped (p.anchorOf a) (rate.roundFrames a.offset)) :
    (p.position rate a : Int) =
      max 0 (p.distance (p.anchorOf a) + rate.roundFrames a.offset) :=
  h.skip_eq

end Placement

/-! ### Sounds one by one -/

/-- The attachments of all items, each with the position of its clip. -/
def Timeline.attachments (t : Timeline) : List (Nat × Attachment) :=
  t.clipItems.zipIdx.flatMap fun (item, clip) => item.audio.map (clip, ·)

/-- An attachment is heard that begins in its clip. -/
def Schedule.hears (s : Schedule) (rate : FrameRate) (entry : Nat × Attachment) : Bool :=
  s.clips[entry.1]?.any fun p => p.position rate entry.2 < p.duration

namespace Sound

/-- A sound is that of an attachment, and is heard from its position to the end of the clip. -/
structure Carries (s : Schedule) (rate : FrameRate) (entry : Nat × Attachment) (x : Sound) :
    Prop where
  clip : x.clip = entry.1
  source : x.source = entry.2.source
  label : x.label = entry.2.label
  looped : x.looped = entry.2.looped.getD false
  placed : ∃ p, s.clips[entry.1]? = some p ∧ x.anchor = p.anchorOf entry.2 ∧
    x.skipped = p.position rate entry.2 ∧ x.skipped < p.duration ∧ 1 ≤ x.window ∧
    x.skipped + x.window = p.duration

variable {s : Schedule} {rate : FrameRate} {clip : Nat} {p : Placement} {a : Attachment}

theorem place?_eq_none (h : p.duration ≤ p.position rate a) : place? rate clip p a = none :=
  if_neg (Nat.not_lt.mpr h)

theorem carries_place? (hp : s.clips[clip]? = some p) (h : p.position rate a < p.duration) :
    ∃ x, place? rate clip p a = some x ∧ Carries s rate (clip, a) x := by
  refine ⟨_, if_pos h, rfl, rfl, rfl, rfl, p, hp, rfl, rfl, h, Nat.sub_pos_of_lt h, ?_⟩
  exact Nat.add_sub_of_le (Nat.le_of_lt h)

end Sound

theorem Schedule.hears_eq {s : Schedule} {rate : FrameRate} {entry : Nat × Attachment}
    {p : Placement} (hp : s.clips[entry.1]? = some p) :
    s.hears rate entry = decide (p.position rate entry.2 < p.duration) := by
  rw [hears, hp]
  rfl

theorem forall₂_filter_filterMap {α β : Type} {R : α → β → Prop} {keeps : α → Bool}
    {f : α → Option β} {l : List α}
    (h : ∀ a ∈ l, (keeps a = false ∧ f a = none) ∨ keeps a = true ∧ ∃ b, f a = some b ∧ R a b) :
    List.Forall₂ R (l.filter keeps) (l.filterMap f) := by
  induction l with
  | nil => exact .nil
  | cons a l ih =>
      have hrest := ih fun b hb => h b (List.mem_cons_of_mem _ hb)
      rcases h a List.mem_cons_self with ⟨hdrop, hnone⟩ | ⟨hkeep, b, hsome, hb⟩
      · rw [List.filter_cons_of_neg (Bool.eq_false_iff.mp hdrop), List.filterMap_cons_none hnone]
        exact hrest
      · rw [List.filter_cons_of_pos hkeep, List.filterMap_cons_some hsome]
        exact .cons hb hrest

namespace Timeline

variable {t : Timeline} {lengths : List Nat} {s : Schedule}

theorem mem_attachments {clip : Nat} {a : Attachment} :
    (clip, a) ∈ t.attachments ↔ ∃ item, t.clipItems[clip]? = some item ∧ a ∈ item.audio := by
  simp only [attachments, List.mem_flatMap, Prod.exists, List.mem_zipIdx_iff_getElem?,
    List.mem_map, Prod.mk.injEq]
  constructor
  · rintro ⟨item, k, hitem, b, hb, rfl, rfl⟩
    exact ⟨item, hitem, hb⟩
  · rintro ⟨item, hitem, ha⟩
    exact ⟨item, clip, hitem, a, ha, rfl, rfl⟩

/-- The walk over clips is one over attachments. -/
theorem sounds_eq_filterMap (h : t.layout lengths = .ok s) (rate : FrameRate) :
    Sound.ofSchedule t s rate = t.attachments.filterMap fun (clip, a) =>
      s.clips[clip]?.bind fun p => Sound.place? rate clip p a := by
  rw [Sound.ofSchedule, attachments, List.filterMap_flatMap, List.flatMap_def, List.flatMap_def]
  congr 1
  -- Clips and the items they were placed from are gone through in step.
  apply List.ext_getElem?
  intro k
  rw [List.getElem?_map, List.getElem?_map, List.getElem?_zipIdx, List.getElem?_zipIdx]
  cases hp : s.clips[k]? with
  | none =>
      cases hitem : t.clipItems[k]? with
      | none => rfl
      | some item =>
          obtain ⟨p, hsome, _⟩ := placed_of_layout h hitem
          rw [hp] at hsome
          cases hsome
  | some p =>
      obtain ⟨item, hsource, hitem, _⟩ := source_of_layout h hp
      have hplace : (fun a => s.clips[k]?.bind fun p => Sound.place? rate k p a) =
          Sound.place? rate k p := by
        funext a
        rw [hp]
        rfl
      simp only [hitem, Option.map_some, Nat.zero_add, List.filterMap_map, Function.comp_def,
        hplace, Sound.attachments, hsource, Option.getD_some]

theorem carries_of_layout (h : t.layout lengths = .ok s) (rate : FrameRate) :
    List.Forall₂ (Sound.Carries s rate) (t.attachments.filter (s.hears rate))
      (Sound.ofSchedule t s rate) := by
  rw [sounds_eq_filterMap h]
  apply forall₂_filter_filterMap
  rintro ⟨clip, a⟩ hmem
  obtain ⟨item, hitem, -⟩ := mem_attachments.mp hmem
  obtain ⟨p, hp, -⟩ := placed_of_layout h hitem
  rw [Schedule.hears_eq hp]
  dsimp only
  rw [hp]
  by_cases hheard : p.position rate a < p.duration
  · exact .inr ⟨decide_eq_true hheard, Sound.carries_place? hp hheard⟩
  · exact .inl ⟨decide_eq_false hheard, Sound.place?_eq_none (Nat.not_lt.mp hheard)⟩

/-- The sounds are the attachments that are heard, in their order. Unless something stops at the end
of its range, an attachment is dropped just if its anchor and its offset lead to the end of its clip
or behind it, and but for absolute ones it does not matter where the clip starts. -/
theorem sounds_of_layout (h : t.layout lengths = .ok s) (rate : FrameRate) :
    List.Forall₂ (Sound.Carries s rate) (t.attachments.filter (s.hears rate))
      (Sound.ofSchedule t s rate) ∧
    (∀ clip a, (clip, a) ∈ t.attachments → ∃ p item, s.clips[clip]? = some p ∧
      t.items[p.slot.index]? = some item ∧ item.kind? = some p.slot.kind ∧ a ∈ item.audio ∧
      (p.Unclipped (p.anchorOf a) (rate.roundFrames a.offset) →
        (p.position rate a : Int) =
          max 0 (p.distance (p.anchorOf a) + rate.roundFrames a.offset) ∧
        (s.hears rate (clip, a) = false ↔
          p.duration ≤ max 0 (p.distance (p.anchorOf a) + rate.roundFrames a.offset)))) ∧
    ∀ (p q : Placement) (anchor : Anchor) (shift : Int), p.Unclipped anchor shift →
      (Sound.skip p (p.geometry.shiftedFrame anchor shift) : Int) =
        max 0 (p.distance anchor + shift) ∧
      (anchor ≠ .absolute → q.slot = p.slot → q.base = p.base → q.Unclipped anchor shift →
        Sound.skip q (q.geometry.shiftedFrame anchor shift) =
          Sound.skip p (p.geometry.shiftedFrame anchor shift)) := by
  refine ⟨carries_of_layout h rate, ?_, ?_⟩
  · intro clip a hmem
    obtain ⟨item, hitem, ha⟩ := mem_attachments.mp hmem
    obtain ⟨p, hp, hsource⟩ := placed_of_layout h hitem
    obtain ⟨other, hother, -, hkind⟩ := source_of_layout h hp
    obtain rfl : item = other := Option.some.inj (hsource.symm.trans hother)
    refine ⟨p, item, hp, hsource, hkind, ha, ?_⟩
    intro hunclipped
    have hposition := Placement.position_eq hunclipped
    refine ⟨hposition, ?_⟩
    rw [Schedule.hears_eq hp, decide_eq_false_iff_not, ← hposition, Nat.not_lt, Int.ofNat_le]
  · intro p q anchor shift hp
    refine ⟨hp.skip_eq, ?_⟩
    intro hanchor hslot hbase hq
    apply Int.ofNat_inj.mp
    rw [hq.skip_eq, hp.skip_eq, Placement.distance_congr hslot hbase hanchor]

/-- A card with a sound that begins ahead of it, one that begins as it is fully seen and one that
begins as it is over. -/
def scored : Timeline :=
  ⟨"t", [.card ⟨"A", none, .zero, [], [.plain "a.ogg" .absolute .zero,
    ⟨"b.ogg", none, .zero, none, none, none, none, none⟩, .plain "c.ogg" .outEnd .zero]⟩]⟩

/-- The card is on for sixty frames, and its last sound would begin behind them. -/
theorem sounds_of_layout_scored :
    ∃ s, scored.layout [60] = .ok s ∧
      List.Forall₂ (Sound.Carries s .standard) (scored.attachments.take 2)
        (Sound.ofSchedule scored s .standard) ∧
      s.hears .standard (0, .plain "c.ogg" .outEnd .zero) = false := by
  let p : Placement := ⟨⟨0, .card, none, none⟩, 60, 0, 0⟩
  have hs : scored.layout [60] = .ok (.ofClips [p]) := layout_eq_ofItems (by decide)
  obtain ⟨hcarries, hplaced, -⟩ := sounds_of_layout hs .standard
  refine ⟨_, hs, ?_, ?_⟩
  · have hheard : scored.attachments.filter ((Schedule.ofClips [p]).hears .standard) =
        scored.attachments.take 2 := by decide +kernel
    rw [← hheard]
    exact hcarries
  · have hzero : FrameRate.standard.roundFrames .zero = 0 := by decide +kernel
    have hlast : (0, .plain "c.ogg" .outEnd .zero) ∈ scored.attachments := by decide
    obtain ⟨q, _, hq, -, -, -, hdrop⟩ := hplaced _ _ hlast
    obtain rfl : p = q := Option.some.inj hq
    have hunclipped : p.Unclipped .outEnd (FrameRate.standard.roundFrames .zero) := by
      rw [hzero]
      constructor <;> decide
    refine (hdrop hunclipped).2.mpr ?_
    change (60 : Int) ≤ max 0 (60 + FrameRate.standard.roundFrames .zero)
    rw [hzero]
    decide

end Timeline

end Storyboard
