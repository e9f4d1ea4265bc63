import Mathlib
import Storyboard.Proofs.Number.Rounding
import Storyboard.Proofs.Timing.Chapters
import Storyboard.Proofs.Timing.Sources
import Storyboard.Timing.Plan

/-!
When there is a plan. Only a recording that cannot be asked is in the way of one, and the first of
them decides; the lengths that are found are always as many as the layout wants. In a plan, chapters
and sounds belong to clips that were placed from items of the timeline, and no item is passed over.
-/

namespace Storyboard

/-! ### Lengths -/

/-- Of the recordings among some items, the first one that cannot be asked fails with an error. -/
def Probe.Fails (probe : Probe) (items : List Item) (e : Error) : Prop :=
  ∃ before c behind, items = before ++ .cast c :: behind ∧
    (∀ d, .cast d ∈ before → ∃ secs, probe d.path = .ok secs) ∧ probe c.path = .error e

namespace Probe

variable {probe : Probe} {i : Item} {items : List Item} {e e' : Error}

theorem fails_cons (h : ∀ c, i = .cast c → ∃ secs, probe c.path = .ok secs) :
    probe.Fails (i :: items) e ↔ probe.Fails items e := by
  constructor
  · rintro ⟨before, c, behind, hsplit, hbefore, hc⟩
    cases before with
    | nil =>
        obtain ⟨secs, hsecs⟩ := h c (List.cons.inj hsplit).1
        rw [hsecs] at hc
        cases hc
    | cons j before =>
        obtain ⟨rfl, rfl⟩ := List.cons.inj hsplit
        refine ⟨before, c, behind, rfl, ?_, hc⟩
        intro d hd
        exact hbefore d (List.mem_cons_of_mem _ hd)
  · rintro ⟨before, c, behind, rfl, hbefore, hc⟩
    refine ⟨i :: before, c, behind, rfl, ?_, hc⟩
    intro d hd
    rcases List.mem_cons.mp hd with hhead | htail
    · exact h d hhead.symm
    · exact hbefore d htail

theorem fails_cast {c : Cast} (h : probe c.path = .error e') :
    probe.Fails (.cast c :: items) e ↔ e' = e := by
  constructor
  · rintro ⟨before, d, behind, hsplit, hbefore, hd⟩
    cases before with
    | nil =>
        obtain ⟨hsame, _⟩ := List.cons.inj hsplit
        cases hsame
        rw [h] at hd
        exact Except.error.inj hd
    | cons j before =>
        obtain ⟨rfl, _⟩ := List.cons.inj hsplit
        obtain ⟨secs, hsecs⟩ := hbefore c List.mem_cons_self
        rw [h] at hsecs
        cases hsecs
  · rintro rfl
    exact ⟨[], c, items, rfl, fun d hd => absurd hd List.not_mem_nil, h⟩

theorem exists_fails_iff :
    (∃ e, probe.Fails items e) ↔ ∃ c e, .cast c ∈ items ∧ probe c.path = .error e := by
  constructor
  · rintro ⟨e, before, c, behind, rfl, _, hc⟩
    exact ⟨c, e, List.mem_append_right _ List.mem_cons_self, hc⟩
  · rintro ⟨c, e, hmem, hc⟩
    induction items with
    | nil => cases hmem
    | cons i items ih =>
        -- The first item is the one, or the one is among the others.
        by_cases hfirst : ∃ d e, i = .cast d ∧ probe d.path = .error e
        · obtain ⟨d, e, rfl, hd⟩ := hfirst
          exact ⟨e, (fails_cast hd).mpr rfl⟩
        · have hasked : ∀ d, i = .cast d → ∃ secs, probe d.path = .ok secs := by
            intro d hd
            cases hsecs : probe d.path with
            | ok secs => exact ⟨secs, rfl⟩
            | error e => exact absurd ⟨d, e, hd, hsecs⟩ hfirst
          have hrest : .cast c ∈ items := by
            rcases List.mem_cons.mp hmem with rfl | hrest
            · exact absurd ⟨c, e, rfl, hc⟩ hfirst
            · exact hrest
          obtain ⟨e, he⟩ := ih hrest
          exact ⟨e, (fails_cons hasked).mpr he⟩

end Probe

namespace FrameRate

/-- A clip is given the frames that cover its length in seconds. -/
def Covers (rate : FrameRate) (probe : Probe) (i : Item) (frames : Nat) : Prop :=
  ∃ secs, i.seconds? probe = some (.ok secs) ∧ frames = rate.coverFrames secs

theorem one_le_coverFrames (rate : FrameRate) (secs : Binary64) : 1 ≤ rate.coverFrames secs := by
  unfold coverFrames
  dsimp only
  split
  · exact Nat.le_refl 1
  · next hle =>
      split
      · next n hn =>
          have hone := Binary64.one_le_of_ceil? (Bool.eq_false_iff.mpr hle) hn
          have hlength : 1 ≤ n.toNat := by omega
          exact le_min hlength (by decide)
      · exact Nat.le_refl 1

end FrameRate

namespace Timeline

section Lengths

variable {name : String} {i : Item} {items : List Item} {rate : FrameRate} {probe : Probe}

theorem clipLengths_cons_none (h : i.seconds? probe = none) :
    clipLengths ⟨name, i :: items⟩ rate probe = clipLengths ⟨name, items⟩ rate probe := by
  rw [clipLengths, List.filterMap_cons_none h, clipLengths]

theorem clipLengths_cons_ok {secs : Binary64} (h : i.seconds? probe = some (.ok secs)) :
    clipLengths ⟨name, i :: items⟩ rate probe =
      (clipLengths ⟨name, items⟩ rate probe).map (rate.coverFrames secs :: ·) := by
  rw [clipLengths, List.filterMap_cons_some h, List.mapM_cons, clipLengths]
  rfl

theorem clipLengths_cons_error {e : Error} (h : i.seconds? probe = some (.error e)) :
    clipLengths ⟨name, i :: items⟩ rate probe = .error e := by
  rw [clipLengths, List.filterMap_cons_some h, List.mapM_cons]
  rfl

end Lengths

variable {t : Timeline} {rate : FrameRate} {probe : Probe} {lengths : List Nat} {e : Error}

theorem clipLengths_eq_error_iff :
    t.clipLengths rate probe = .error e ↔ probe.Fails t.items e := by
  obtain ⟨name, items⟩ := t
  induction items with
  | nil =>
      constructor
      · intro h
        cases h
      · rintro ⟨before, c, behind, hsplit, _⟩
        simp at hsplit
  | cons i items ih =>
      have hmap {n : Nat} {x : Except Error (List Nat)} :
          x.map (n :: ·) = .error e ↔ x = .error e := by
        cases x <;> simp [Except.map]
      cases i with
      | transition x =>
          rw [clipLengths_cons_none rfl, ih, Probe.fails_cons (fun d hd => by cases hd)]
      | card c =>
          rw [clipLengths_cons_ok rfl, hmap, ih, Probe.fails_cons (fun d hd => by cases hd)]
      | cast c =>
          cases hc : probe c.path with
          | ok secs =>
              have hasked : (Item.cast c).seconds? probe = some (.ok secs) := congrArg some hc
              rw [clipLengths_cons_ok hasked, hmap, ih, Probe.fails_cons]
              rintro _ ⟨⟩
              exact ⟨secs, hc⟩
          | error e' =>
              have hasked : (Item.cast c).seconds? probe = some (.error e') := congrArg some hc
              rw [clipLengths_cons_error hasked, Probe.fails_cast hc, Except.error.injEq]

/-- The lengths are those of the clips, one by one. -/
theorem covers_of_clipLengths (h : t.clipLengths rate probe = .ok lengths) :
    List.Forall₂ (rate.Covers probe) t.clipItems lengths := by
  obtain ⟨name, items⟩ := t
  induction items generalizing lengths with
  | nil =>
      cases h
      exact .nil
  | cons i items ih =>
      have hclip {secs : Binary64} (hsecs : i.seconds? probe = some (.ok secs))
          (hi : i.isClip = true) :
          List.Forall₂ (rate.Covers probe) (clipItems ⟨name, i :: items⟩) lengths := by
        rw [clipLengths_cons_ok hsecs] at h
        cases hrest : clipLengths ⟨name, items⟩ rate probe with
        | error e =>
            rw [hrest] at h
            cases h
        | ok rest =>
            rw [hrest] at h
            cases h
            rw [clipItems, List.filter_cons_of_pos hi]
            exact .cons ⟨secs, hsecs, rfl⟩ (ih hrest)
      cases i with
      | transition x =>
          rw [clipLengths_cons_none rfl] at h
          exact ih h
      | card c => exact hclip rfl rfl
      | cast c =>
          cases hc : probe c.path with
          | ok secs =>
              have hasked : (Item.cast c).seconds? probe = some (.ok secs) := congrArg some hc
              exact hclip hasked rfl
          | error e =>
              have hasked : (Item.cast c).seconds? probe = some (.error e) := congrArg some hc
              rw [clipLengths_cons_error hasked] at h
              cases h

theorem length_of_clipLengths (h : t.clipLengths rate probe = .ok lengths) :
    lengths.length = t.clips.length := by
  rw [← (covers_of_clipLengths h).length_eq, length_clipItems]

theorem one_le_of_clipLengths (h : t.clipLengths rate probe = .ok lengths) :
    ∀ n ∈ lengths, 1 ≤ n := by
  intro n hn
  obtain ⟨k, hk, rfl⟩ := List.mem_iff_getElem.mp hn
  have hcovers := covers_of_clipLengths h
  have hi : k < t.clipItems.length := by
    rw [hcovers.length_eq]
    exact hk
  obtain ⟨secs, _, hframes⟩ := hcovers.get hi hk
  rw [List.get_eq_getElem] at hframes
  rw [hframes]
  exact rate.one_le_coverFrames secs

/-- No clip is longer or shorter in the layout than it was found to be. -/
theorem bases_of_layout {s : Schedule} (hlengths : t.clipLengths rate probe = .ok lengths)
    (h : t.layout lengths = .ok s) : s.clips.map (·.base) = lengths := by
  have hsame : s.clips.length = lengths.length := by
    rw [length_clips h, length_of_clipLengths hlengths]
  apply List.ext_getElem
  · rw [List.length_map, hsame]
  · intro k hk hk'
    rw [List.length_map] at hk
    obtain ⟨_, _, _, hbase, _⟩ := clip_of_layout h (List.getElem?_eq_getElem hk)
    have hone := one_le_of_clipLengths hlengths _ (List.getElem_mem hk')
    rw [List.getElem_map, hbase, nominal, List.getD_eq_getElem _ _ hk']
    omega

/-! ### Plans -/

theorem plan_eq_ok {plan : Plan} (h : t.plan rate probe = .ok plan) :
    ∃ lengths s, t.clipLengths rate probe = .ok lengths ∧ t.layout lengths = .ok s ∧
      plan = ⟨t.name, rate, s, .ofSchedule t s, Sound.ofSchedule t s rate⟩ := by
  unfold Timeline.plan at h
  cases hlengths : t.clipLengths rate probe with
  | error e =>
      rw [hlengths] at h
      cases h
  | ok lengths =>
      have hs := layout_eq_ok (length_of_clipLengths hlengths)
      rw [hlengths] at h
      change (t.layout lengths).bind _ = _ at h
      rw [hs] at h
      cases h
      exact ⟨lengths, _, rfl, hs, rfl⟩

theorem plan_eq_error_iff : t.plan rate probe = .error e ↔ t.clipLengths rate probe = .error e := by
  unfold Timeline.plan
  cases hlengths : t.clipLengths rate probe with
  | error e' =>
      constructor
      · intro h
        cases h
        rfl
      · intro h
        cases h
        rfl
  | ok lengths =>
      change (t.layout lengths).bind _ = _ ↔ _
      rw [layout_eq_ok (length_of_clipLengths hlengths)]
      constructor
      · intro h
        cases h
      · intro h
        cases h

end Timeline

/-- A plan from which nothing is missing: one length for each clip, for each clip its item, and for
each chapter and each sound its clip; and every card has its chapter, and every attachment of every
item has been placed, whether it is heard or not. -/
structure Plan.Complete (t : Timeline) (rate : FrameRate) (probe : Probe) (plan : Plan) : Prop where
  lengths : ∃ lengths, t.clipLengths rate probe = .ok lengths ∧
    List.Forall₂ (rate.Covers probe) t.clipItems lengths ∧ (∀ n ∈ lengths, 1 ≤ n) ∧
    plan.schedule.clips.map (·.base) = lengths
  source : ∀ (k : Nat) (p : Placement), plan.schedule.clips[k]? = some p →
    ∃ item, t.items[p.slot.index]? = some item ∧ t.clipItems[k]? = some item ∧
      item.kind? = some p.slot.kind
  chapter : ∀ x ∈ plan.chapters.list, ∃ p c, plan.schedule.clips[x.clip]? = some p ∧
    p.slot.kind = .card ∧ t.items[p.slot.index]? = some (.card c) ∧ x.title = c.title
  card : ∀ (i : Nat) (c : Card), t.items[i]? = some (.card c) →
    ∃ x ∈ plan.chapters.list, ∃ p, plan.schedule.clips[x.clip]? = some p ∧ p.slot.index = i ∧
      x.title = c.title
  sound : ∀ x ∈ plan.sounds, ∃ p item a, plan.schedule.clips[x.clip]? = some p ∧
    t.items[p.slot.index]? = some item ∧ a ∈ item.audio ∧ Sound.place? rate x.clip p a = some x
  attachment : ∀ (i : Nat) (item : Item), t.items[i]? = some item → ∀ a ∈ item.audio,
    ∃ (k : Nat) (p : Placement), plan.schedule.clips[k]? = some p ∧ p.slot.index = i ∧
      ∀ x, Sound.place? rate k p a = some x → x ∈ plan.sounds

namespace Sound

theorem clip_of_place? {rate : FrameRate} {clip : Nat} {p : Placement} {a : Attachment} {x : Sound}
    (h : place? rate clip p a = some x) : x.clip = clip := by
  unfold place? at h
  dsimp only at h
  split at h
  · cases h
    rfl
  · cases h

theorem mem_ofSchedule {t : Timeline} {s : Schedule} {rate : FrameRate} {x : Sound} :
    x ∈ ofSchedule t s rate ↔ ∃ (k : Nat) (p : Placement), s.clips[k]? = some p ∧
      ∃ a ∈ attachments t p, place? rate k p a = some x := by
  simp only [ofSchedule, List.mem_flatMap, List.mem_filterMap, Prod.exists,
    List.mem_zipIdx_iff_getElem?]
  exact exists_comm

end Sound

namespace Timeline

variable {t : Timeline} {lengths : List Nat} {s : Schedule}

/-- The chapters are cards of the timeline, under their titles. -/
theorem card_of_chapter (h : t.layout lengths = .ok s) {x : Chapter}
    (hx : x ∈ (Chapters.ofSchedule t s).list) :
    ∃ p c, s.clips[x.clip]? = some p ∧ p.slot.kind = .card ∧
      t.items[p.slot.index]? = some (.card c) ∧ x.title = c.title := by
  have hunsorted := (Chapters.perm_ofSchedule t s).mem_iff.mp hx
  obtain ⟨p, clip, hp, hclip⟩ := Chapters.mem_unsorted.mp hunsorted
  obtain ⟨item, hitem, _, hkind⟩ := source_of_layout h hp
  unfold Chapters.ofClip? at hclip
  split at hclip
  · next hcard =>
      cases hclip
      rw [hcard] at hkind
      cases item with
      | card c => exact ⟨p, c, hp, hcard, hitem, by rw [hitem]; rfl⟩
      | transition y | cast y => cases hkind
  · cases hclip

theorem placed_of_item (h : t.layout lengths = .ok s) {i : Nat} {item : Item} {kind : ClipKind}
    (hitem : t.items[i]? = some item) (hkind : item.kind? = some kind) :
    ∃ (k : Nat) (p : Placement), s.clips[k]? = some p ∧ p.slot.index = i ∧ p.slot.kind = kind := by
  have hclip : t.items[i]?.bind Item.kind? = some kind := by
    rw [hitem]
    exact hkind
  obtain ⟨p, hp, hslot⟩ := ((resolves_of_layout h).clip i kind).mpr hclip
  obtain ⟨k, hk⟩ := List.mem_iff_getElem?.mp hp
  exact ⟨k, p, hk, hslot⟩

theorem chapter_of_card (h : t.layout lengths = .ok s) {i : Nat} {c : Card}
    (hcard : t.items[i]? = some (.card c)) :
    ∃ x ∈ (Chapters.ofSchedule t s).list, ∃ p, s.clips[x.clip]? = some p ∧ p.slot.index = i ∧
      x.title = c.title := by
  obtain ⟨k, p, hp, rfl, hkind⟩ := placed_of_item h hcard rfl
  refine ⟨⟨c.title, p.visibleStart, k⟩, ?_, p, hp, rfl, rfl⟩
  rw [(Chapters.perm_ofSchedule t s).mem_iff, Chapters.mem_unsorted]
  refine ⟨p, k, hp, ?_⟩
  rw [Chapters.ofClip?, hkind, hcard]
  rfl

theorem complete_of_layout {rate : FrameRate} {probe : Probe}
    (hlengths : t.clipLengths rate probe = .ok lengths) (h : t.layout lengths = .ok s) :
    Plan.Complete t rate probe
      ⟨t.name, rate, s, .ofSchedule t s, Sound.ofSchedule t s rate⟩ := by
  constructor
  case lengths =>
    exact ⟨lengths, hlengths, covers_of_clipLengths hlengths, one_le_of_clipLengths hlengths,
      bases_of_layout hlengths h⟩
  case source =>
    intro k p hp
    exact source_of_layout h hp
  case chapter =>
    intro x hx
    exact card_of_chapter h hx
  case card =>
    intro i c hcard
    exact chapter_of_card h hcard
  case sound =>
    intro x hx
    obtain ⟨k, p, hp, a, ha, hplace⟩ := Sound.mem_ofSchedule.mp hx
    obtain ⟨item, hitem, _⟩ := source_of_layout h hp
    rw [Sound.attachments, hitem] at ha
    obtain rfl := Sound.clip_of_place? hplace
    exact ⟨p, item, a, hp, hitem, ha, hplace⟩
  case attachment =>
    intro i item hitem a ha
    have hkind : ∃ kind, item.kind? = some kind := by
      cases item with
      | transition x => cases ha
      | card c => exact ⟨.card, rfl⟩
      | cast c => exact ⟨.cast, rfl⟩
    obtain ⟨kind, hkind⟩ := hkind
    obtain ⟨k, p, hk, rfl, -⟩ := placed_of_item h hitem hkind
    refine ⟨k, p, hk, rfl, ?_⟩
    intro x hx
    refine Sound.mem_ofSchedule.mpr ⟨k, p, hk, a, ?_, hx⟩
    rw [Sound.attachments, hitem]
    exact ha

/-- There is a plan unless a recording cannot be asked, and then the first such recording decides
how planning fails. The lengths never disagree with the layout in their number, and from a plan
nothing is missing. -/
theorem plan_complete (t : Timeline) (rate : FrameRate) (probe : Probe) :
    (∀ e, t.plan rate probe = .error e ↔ probe.Fails t.items e) ∧
    ((∃ e, t.plan rate probe = .error e) ↔
      ∃ c e, .cast c ∈ t.items ∧ probe c.path = .error e) ∧
    (∀ lengths, t.clipLengths rate probe = .ok lengths →
      lengths.length = t.clips.length ∧ ∃ s, t.layout lengths = .ok s) ∧
    ∀ plan, t.plan rate probe = .ok plan → plan.Complete t rate probe := by
  have hfails : ∀ e, t.plan rate probe = .error e ↔ probe.Fails t.items e := by
    intro e
    rw [plan_eq_error_iff, clipLengths_eq_error_iff]
  refine ⟨hfails, ?_, ?_, ?_⟩
  · rw [← Probe.exists_fails_iff]
    exact exists_congr hfails
  · intro lengths hlengths
    have hsame := length_of_clipLengths hlengths
    exact ⟨hsame, _, layout_eq_ok hsame⟩
  · intro plan hplan
    obtain ⟨lengths, s, hlengths, hs, rfl⟩ := plan_eq_ok hplan
    exact complete_of_layout hlengths hs

/-- A card with a sound between two recordings. -/
def recorded : Timeline :=
  ⟨"t", [.cast ⟨"a", none, none, [], []⟩, .transition ⟨.swipe, 8, some .left, none⟩,
    .card ⟨"B", none, .zero, [], [.plain "b.ogg" .inEnd .zero]⟩, .cast ⟨"c", none, none, [], []⟩]⟩

/-- Tells one second for every recording but one. -/
def missing (path : String) : Probe := fun asked =>
  if asked = path then .error (.refused path) else .ok .one

/-- The recordings are planned if each can be asked; of those that cannot, the first one decides. -/
theorem plan_complete_recorded :
    (∃ plan, recorded.plan .standard (missing "d") = .ok plan ∧
      plan.Complete recorded .standard (missing "d") ∧ ∃ x ∈ plan.chapters.list, x.title = "B") ∧
    recorded.plan .standard (missing "c") = .error (.refused "c") := by
  obtain ⟨-, hasked, -, hcomplete⟩ := plan_complete recorded .standard (missing "d")
  obtain ⟨hfails, -, -, -⟩ := plan_complete recorded .standard (missing "c")
  constructor
  · cases hplan : recorded.plan .standard (missing "d") with
    | ok plan =>
        have hfull := hcomplete plan hplan
        obtain ⟨x, hx, _, _, _, htitle⟩ := hfull.card 2 _ rfl
        exact ⟨plan, rfl, hfull, x, hx, htitle⟩
    | error e =>
        obtain ⟨c, e', hc, he'⟩ := hasked.mp ⟨e, hplan⟩
        simp only [recorded, List.mem_cons, List.not_mem_nil, or_false, Item.cast.injEq,
          reduceCtorEq, false_or] at hc
        rcases hc with rfl | rfl <;> cases he'
  · refine (hfails _).mpr ⟨[_, _, _], _, [], rfl, ?_, rfl⟩
    intro d hd
    simp only [List.mem_cons, List.not_mem_nil, or_false, Item.cast.injEq, reduceCtorEq] at hd
    rw [hd]
    exact ⟨.one, rfl⟩

end Timeline

end Storyboard
