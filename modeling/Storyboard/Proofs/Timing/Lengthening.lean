import Mathlib
import Storyboard.Proofs.Number.Order
import Storyboard.Proofs.Timing.Planning
import Storyboard.Proofs.Timing.Sequence

/-!
Longer cards. A length that is greater covers at least as many frames, as long as the product with
the rate is finite; and where the frames of some clips grow, no clip of the plan is shorter than it
was, and neither is the whole.
-/

namespace Storyboard

theorem Frame.clampLength_mono {m n : Nat} (h : m ≤ n) : clampLength m ≤ clampLength n :=
  min_le_min_right greatestLength h

/-! ### Rates -/

namespace Binary64
open Magnitude

theorem holds_round {num den : Nat} (h : Magnitude.round num den < limit) :
    Holds (Magnitude.round num den) :=
  ⟨h, spacing_dvd_round num den⟩

theorem ofUnits_eq_finite {s : Bool} {num den : Nat} (h : Magnitude.round num den < limit) :
    ofUnits s num den = .finite s (Magnitude.round num den) (holds_round h) :=
  ofUnits_of_lt h

theorem exists_ofNat_eq {n k : Nat} (hk : k < 1024) (h : n ≤ 2 ^ k) :
    ∃ u hu, ofNat n = .finite false u hu ∧ u ≤ 2 ^ k * Magnitude.one ∧
      (0 < n → Magnitude.one ≤ u) := by
  obtain ⟨e, hle, he⟩ := exists_one_eq
  have hbound : Holds (2 ^ k * Magnitude.one) := by
    rw [he, ← Nat.pow_add]
    exact holds_two_pow (by omega)
  have hround : Magnitude.round (n * Magnitude.one) 1 ≤ 2 ^ k * Magnitude.one := by
    refine round_le Nat.one_pos hbound.2 ?_
    rw [Nat.mul_one]
    exact Nat.mul_le_mul_right _ h
  have hlimit := Nat.lt_of_le_of_lt hround hbound.1
  refine ⟨_, holds_round hlimit, ?_, hround, one_le_round⟩
  rw [ofNat, ofRatio, ofUnits_eq_finite hlimit]

theorem finite_mul_finite {s t : Bool} {u v : Nat} (hu : Holds u) (hv : Holds v) :
    Binary64.finite s u hu * .finite t v hv = ofUnits (s != t) (u * v) Magnitude.one := by
  change mul (.finite s u hu) (.finite t v hv) = _
  rw [mul]

theorem not_isFinite_infinite_mul {s : Bool} (x : Binary64) : ¬ (infinite s * x).isFinite := by
  change ¬ (mul (infinite s) x).isFinite
  cases x with
  | nan | infinite t => exact Bool.false_ne_true
  | finite t v hv =>
      rw [mul]
      split <;> exact Bool.false_ne_true

theorem lt_limit_of_ofUnits {s : Bool} {num den : Nat} (h : (ofUnits s num den).isFinite) :
    Magnitude.round num den < limit := by
  by_contra hlimit
  rw [ofUnits, dif_neg hlimit] at h
  cases h

/-- What is divided by one or more does not grow. -/
theorem exists_div_eq {u v : Nat} (hu : Holds u) (hv : Holds v) (hone : Magnitude.one ≤ v) :
    ∃ w hw, div (.finite false u hu) (.finite false v hv) = .finite false w hw ∧ w ≤ u := by
  have hpos := Nat.lt_of_lt_of_le Magnitude.one_pos hone
  have hround : Magnitude.round (u * Magnitude.one) v ≤ u :=
    round_le hpos hu.2 (Nat.mul_le_mul_left u hone)
  have hlimit := Nat.lt_of_le_of_lt hround hu.1
  refine ⟨_, holds_round hlimit, ?_, hround⟩
  rw [div.eq_def]
  simp only [hpos.ne', if_false]
  exact ofUnits_eq_finite hlimit

end Binary64

namespace FrameRate
open Magnitude Binary64

/-- A rate is a finite number, no greater than the greatest count of frames. -/
theorem exists_perSecond_eq (rate : FrameRate) :
    ∃ w hw, rate.perSecond = .finite false w hw ∧ w ≤ 2 ^ 32 * Magnitude.one := by
  have hseconds : 0 < rate.seconds.toNat := by
    refine Nat.pos_of_ne_zero fun hzero => rate.seconds_ne_zero ?_
    rw [← UInt32.toNat_inj, hzero]
    rfl
  obtain ⟨u, hu, hframes, hle, _⟩ := exists_ofNat_eq (by decide) rate.frames.toNat_lt.le
  obtain ⟨v, hv, hlength, _, hone⟩ := exists_ofNat_eq (by decide) rate.seconds.toNat_lt.le
  obtain ⟨w, hw, hquotient, hwu⟩ := exists_div_eq hu hv (hone hseconds)
  refine ⟨w, hw, ?_, hwu.trans hle⟩
  rw [← hquotient, ← hframes, ← hlength]
  rfl

/-! ### Frames of a length -/

variable {rate : FrameRate} {a b c d : Nat}

/-- A length of a finite number of frames covers these, rounded up, and one at least. -/
theorem coverFrames_of_eq {secs : Binary64} {p : Nat} {hp : Holds p}
    (h : secs * rate.perSecond = .finite false p hp) :
    rate.coverFrames secs =
      max 1 (Frame.clampLength ((p + (Magnitude.one - 1)) / Magnitude.one)) := by
  have hceil : (Binary64.finite false p hp).ceil? =
      some (((p + (Magnitude.one - 1)) / Magnitude.one : Nat) : Int) := by
    rw [ceil?]
  have hle : (Binary64.finite false p hp).le .one = decide ((p : Int) ≤ Magnitude.one) := by
    rw [one_eq, le, signed, signed, if_neg Bool.false_ne_true, if_neg Bool.false_ne_true]
  have hpos := Magnitude.one_pos
  rw [coverFrames, h, hceil, hle]
  -- One has more than a thousand digits, which no step may look at.
  generalize Magnitude.one = m at hpos
  dsimp only
  rw [Int.toNat_natCast]
  split
  · next hsmall =>
      have hle := of_decide_eq_true hsmall
      have hquotient : (p + (m - 1)) / m < 2 := Nat.div_lt_of_lt_mul (by omega)
      exact (max_eq_left ((Nat.min_le_left _ _).trans (Nat.le_of_lt_succ hquotient))).symm
  · next hgreat =>
      have hlt := of_decide_eq_false (Bool.eq_false_iff.mpr hgreat)
      have hquotient : 1 ≤ (p + (m - 1)) / m := Nat.div_pos (by omega) hpos
      exact (max_eq_right (le_min hquotient (by decide))).symm

/-- The units of the product of a quotient with a number. -/
def product (num den w : Nat) : Nat :=
  Magnitude.round (Magnitude.round (num * Magnitude.one) den * w) Magnitude.one

theorem product_mono {num den num' den' : Nat} (hden : 0 < den) (hden' : 0 < den')
    (h : num * den' ≤ num' * den) (w : Nat) : product num den w ≤ product num' den' w := by
  have hscaled : num * Magnitude.one * den' ≤ num' * Magnitude.one * den := by
    rw [Nat.mul_right_comm, Nat.mul_right_comm num']
    exact Nat.mul_le_mul_right _ h
  refine round_mono Magnitude.one_pos Magnitude.one_pos (Nat.mul_le_mul_right _ ?_)
  exact Nat.mul_le_mul_right _ (round_mono hden hden' hscaled)

theorem ofRatio_mul_eq {num den w : Nat} (hw : Holds w)
    (hratio : Magnitude.round (num * Magnitude.one) den < limit)
    (hproduct : product num den w < limit) :
    ∃ hp, ofRatio num den * .finite false w hw = .finite false (product num den w) hp := by
  unfold product at hproduct ⊢
  refine ⟨holds_round hproduct, ?_⟩
  rw [ofRatio, ofUnits_eq_finite hratio, finite_mul_finite, Bool.false_bne,
    ofUnits_eq_finite hproduct]

theorem lt_limit_of_isFinite {num den w : Nat} {hw : Holds w}
    (h : (ofRatio num den * .finite false w hw).isFinite) :
    Magnitude.round (num * Magnitude.one) den < limit ∧ product num den w < limit := by
  by_cases hratio : Magnitude.round (num * Magnitude.one) den < limit
  · rw [ofRatio, ofUnits_eq_finite hratio, finite_mul_finite] at h
    exact ⟨hratio, lt_limit_of_ofUnits h⟩
  · rw [ofRatio, ofUnits, dif_neg hratio] at h
    exact absurd h (not_isFinite_infinite_mul _)

/-- A greater length covers at least as many frames, if these are finitely many. -/
theorem coverFrames_mono (hb : 0 < b) (hd : 0 < d) (h : a * d ≤ c * b)
    (hfinite : (ofRatio c d * rate.perSecond).isFinite) :
    rate.coverFrames (ofRatio a b) ≤ rate.coverFrames (ofRatio c d) := by
  obtain ⟨w, hw, hrate, _⟩ := rate.exists_perSecond_eq
  rw [hrate] at hfinite
  obtain ⟨hratio, hproduct⟩ := lt_limit_of_isFinite hfinite
  have hscaled : a * Magnitude.one * d ≤ c * Magnitude.one * b := by
    rw [Nat.mul_right_comm, Nat.mul_right_comm c]
    exact Nat.mul_le_mul_right _ h
  have hmono := product_mono hb hd h w
  obtain ⟨_, hgreat⟩ := ofRatio_mul_eq hw hratio hproduct
  obtain ⟨_, hsmall⟩ := ofRatio_mul_eq hw (Nat.lt_of_le_of_lt (round_mono hb hd hscaled) hratio)
    (Nat.lt_of_le_of_lt hmono hproduct)
  rw [← hrate] at hgreat hsmall
  rw [coverFrames_of_eq hgreat, coverFrames_of_eq hsmall]
  generalize product a b w = small at hmono
  generalize product c d w = great at hmono
  generalize Magnitude.one = m
  have hquotient : (small + (m - 1)) / m ≤ (great + (m - 1)) / m :=
    Nat.div_le_div_right (Nat.add_le_add_right hmono _)
  exact max_le_max_left 1 (Frame.clampLength_mono hquotient)

/-- A length of no more than `2 ^ 991` seconds has finitely many frames at any rate. -/
theorem isFinite_mul_perSecond {k : Nat} (hk : k ≤ 991) (hb : 0 < b) (h : a ≤ 2 ^ k * b) :
    (ofRatio a b * rate.perSecond).isFinite := by
  obtain ⟨w, hw, hrate, hle⟩ := rate.exists_perSecond_eq
  obtain ⟨e, he, hone⟩ := exists_one_eq
  have hholds : ∀ j ≤ 1023, Holds (2 ^ j * Magnitude.one) := by
    intro j hj
    rw [hone, ← Nat.pow_add]
    exact holds_two_pow (by omega)
  have hratio : Magnitude.round (a * Magnitude.one) b ≤ 2 ^ k * Magnitude.one := by
    refine round_le hb (hholds k (by omega)).2 ?_
    rw [Nat.mul_right_comm]
    exact Nat.mul_le_mul_right _ h
  have hproduct : product a b w ≤ 2 ^ (k + 32) * Magnitude.one := by
    refine round_le Magnitude.one_pos (hholds _ (by omega)).2 ?_
    refine (Nat.mul_le_mul hratio hle).trans (le_of_eq ?_)
    rw [Nat.pow_add, Nat.mul_mul_mul_comm, ← Nat.mul_assoc]
  obtain ⟨_, hfinite⟩ := ofRatio_mul_eq hw (Nat.lt_of_le_of_lt hratio (hholds k (by omega)).1)
    (Nat.lt_of_le_of_lt hproduct (hholds _ (by omega)).1)
  rw [hrate, hfinite]
  rfl

end FrameRate

/-! ### Items that are as long or longer -/

/-- An item, or the same card with a length that covers as many frames or more. -/
def Item.Grows (rate : FrameRate) (i j : Item) : Prop :=
  i = j ∨ ∃ c secs, i = .card c ∧ j = .card { c with seconds := secs } ∧
    rate.coverFrames c.seconds ≤ rate.coverFrames secs

/-- Lists of the same items, but for cards that have grown. -/
abbrev Item.AllGrow (rate : FrameRate) : List Item → List Item → Prop :=
  List.Forall₂ (Item.Grows rate)

namespace Item

variable {rate : FrameRate} {probe : Probe} {i j : Item} {items items' : List Item}

protected theorem Grows.refl (rate : FrameRate) (i : Item) : i.Grows rate i :=
  .inl rfl

theorem AllGrow.refl (rate : FrameRate) (items : List Item) : AllGrow rate items items :=
  List.forall₂_same.mpr fun i _ => .refl rate i

theorem Grows.withSound (h : i.Grows rate j) (cue : Cue) :
    (i.withSound (i.speech ++ [cue]) i.audio).Grows rate
      (j.withSound (j.speech ++ [cue]) j.audio) := by
  rcases h with rfl | ⟨c, secs, rfl, rfl, hle⟩
  · exact .refl rate _
  · exact .inr ⟨_, secs, rfl, rfl, hle⟩

theorem AllGrow.lastTransition?_eq (h : AllGrow rate items items') :
    Slot.lastTransition? items = Slot.lastTransition? items' := by
  induction h with
  | nil => rfl
  | cons hij _ ih =>
      rcases hij with rfl | ⟨c, secs, rfl, rfl, _⟩
      · rename_i i _ _ _
        cases i with
        | transition t => rw [Slot.lastTransition?, Slot.lastTransition?, ih]
        | card c | cast c => rfl
      · rfl

theorem AllGrow.ofItems_eq (h : AllGrow rate items items') (index : Nat)
    (incoming : Option Transition) :
    Slot.ofItems index incoming items = Slot.ofItems index incoming items' := by
  induction h generalizing index incoming with
  | nil => rfl
  | cons hij hrest ih =>
      have hlast := AllGrow.lastTransition?_eq hrest
      rcases hij with rfl | ⟨c, secs, rfl, rfl, _⟩
      · rename_i i _ _
        cases i with
        | transition t => exact ih (index + 1) (some t)
        | card c | cast c => rw [Slot.ofItems, Slot.ofItems, ih, hlast]
      · rw [Slot.ofItems, Slot.ofItems, ih, hlast]

end Item

namespace Timeline

variable {rate : FrameRate} {probe : Probe} {name name' : String} {items items' : List Item}
  {lengths : List Nat}

theorem clipLengths_cons_eq_ok {i : Item} {secs : Binary64}
    (hi : i.seconds? probe = some (.ok secs))
    (h : clipLengths ⟨name, i :: items⟩ rate probe = .ok lengths) :
    ∃ others, clipLengths ⟨name, items⟩ rate probe = .ok others ∧
      lengths = rate.coverFrames secs :: others := by
  rw [clipLengths_cons_ok hi] at h
  cases hothers : clipLengths ⟨name, items⟩ rate probe with
  | error e =>
      rw [hothers] at h
      cases h
  | ok others =>
      rw [hothers] at h
      cases h
      exact ⟨others, rfl, rfl⟩

/-- Where cards grow, every clip is given as many frames or more. -/
theorem exists_clipLengths_of_grow (h : Item.AllGrow rate items items')
    (hlengths : clipLengths ⟨name, items⟩ rate probe = .ok lengths) :
    ∃ lengths', clipLengths ⟨name', items'⟩ rate probe = .ok lengths' ∧
      List.Forall₂ (· ≤ ·) lengths lengths' := by
  induction h generalizing lengths with
  | nil =>
      cases hlengths
      exact ⟨[], rfl, .nil⟩
  | @cons i j items items' hij _ ih =>
      have hclip : ∀ {secs secs'}, i.seconds? probe = some (.ok secs) →
          j.seconds? probe = some (.ok secs') → rate.coverFrames secs ≤ rate.coverFrames secs' →
          ∃ lengths', clipLengths ⟨name', j :: items'⟩ rate probe = .ok lengths' ∧
            List.Forall₂ (· ≤ ·) lengths lengths' := by
        intro secs secs' hi hj hle
        obtain ⟨others, hothers, rfl⟩ := clipLengths_cons_eq_ok hi hlengths
        obtain ⟨others', hothers', hall⟩ := ih hothers
        refine ⟨_ :: others', ?_, .cons hle hall⟩
        rw [clipLengths_cons_ok hj, hothers']
        rfl
      rcases hij with rfl | ⟨c, secs, rfl, rfl, hle⟩
      · cases hi : i.seconds? probe with
        | none =>
            rw [clipLengths_cons_none hi] at hlengths ⊢
            exact ih hlengths
        | some told =>
            cases told with
            | error e =>
                rw [clipLengths_cons_error hi] at hlengths
                cases hlengths
            | ok secs => exact hclip hi hi le_rfl
      · exact hclip rfl rfl hle

end Timeline

/-! ### Plans that are as long or longer -/

theorem Frame.total_mono {lengths lengths' : List Nat} (h : List.Forall₂ (· ≤ ·) lengths lengths') :
    total lengths ≤ total lengths' := by
  induction h with
  | nil => exact le_rfl
  | cons hle _ ih => exact Nat.add_le_add hle ih

theorem Placement.map_slot_sequence (start : Int) (shared : Nat) (l : List (Slot × Nat)) :
    (sequence start shared l).map (·.slot) = l.map (·.1) := by
  induction l generalizing start shared with
  | nil => rfl
  | cons x l ih => simp only [sequence, List.map_cons, ih]

/-- The frames that adjacent clips share do not depend on their lengths. -/
theorem Schedule.extent_sequence {slots : List Slot} {lengths : List Nat}
    (h : slots.length = lengths.length) :
    extent (Placement.sequence 0 0 (slots.zip lengths)) =
      (Frame.total ((Placement.sequence 0 0 (slots.zip lengths)).map (·.base)) : Int) -
        (Frame.total (slots.dropLast.map (·.overlap)) : Int) := by
  have hslots : (Placement.sequence 0 0 (slots.zip lengths)).dropLast.map (·.slot.overlap) =
      slots.dropLast.map (·.overlap) := by
    have hsequence := Placement.map_slot_sequence 0 0 (slots.zip lengths)
    rw [List.map_fst_zip h.le] at hsequence
    conv_rhs => rw [← hsequence, ← List.map_dropLast, List.map_map]
    rfl
  rw [extent, hslots]

namespace Timeline

variable {rate : FrameRate} {probe : Probe} {t t' : Timeline} {p : Plan}

theorem exists_plan_of_clipLengths {lengths : List Nat}
    (h : t.clipLengths rate probe = .ok lengths) : ∃ p, t.plan rate probe = .ok p := by
  cases hplan : t.plan rate probe with
  | ok p => exact ⟨p, rfl⟩
  | error e =>
      rw [plan_eq_error_iff, h] at hplan
      cases hplan

/-- Where cards grow there still is a plan, in which no clip has fewer frames and neither has the
whole. -/
theorem exists_plan_of_grow (h : Item.AllGrow rate t.items t'.items)
    (hp : t.plan rate probe = .ok p) :
    ∃ p', t'.plan rate probe = .ok p' ∧
      List.Forall₂ (· ≤ ·) (p.schedule.clips.map (·.base)) (p'.schedule.clips.map (·.base)) ∧
      p.schedule.totalFrames ≤ p'.schedule.totalFrames := by
  obtain ⟨lengths, s, hlengths, hs, rfl⟩ := plan_eq_ok hp
  obtain ⟨lengths', hlengths', hall⟩ := exists_clipLengths_of_grow h hlengths
  obtain ⟨p', hp'⟩ := exists_plan_of_clipLengths hlengths'
  obtain ⟨found, s', hfound, hs', rfl⟩ := plan_eq_ok hp'
  rw [hlengths'] at hfound
  cases hfound
  have hbases := bases_of_layout hlengths hs
  have hbases' := bases_of_layout hlengths' hs'
  refine ⟨_, hp', by rwa [hbases, hbases'], ?_⟩
  have hslots : t.slots = t'.slots := by
    rw [slots_eq_ofItems, slots_eq_ofItems]
    exact h.ofItems_eq 0 none
  have hcount : t.slots.length = lengths.length := by
    rw [length_slots, length_of_clipLengths hlengths]
  obtain ⟨_, rfl⟩ := layout_eq_ok_iff.mp hs
  obtain ⟨_, rfl⟩ := layout_eq_ok_iff.mp hs'
  rw [← hslots] at hbases' hs' ⊢
  have hextent : Schedule.extent (Placement.sequence 0 0 (t.slots.zip lengths)) ≤
      Schedule.extent (Placement.sequence 0 0 (t.slots.zip lengths')) := by
    rw [Schedule.extent_sequence hcount, Schedule.extent_sequence (hcount.trans hall.length_eq)]
    have htotal := Frame.total_mono hall
    rw [← hbases, ← hbases'] at htotal
    exact Int.sub_le_sub_right (Int.ofNat_le.mpr htotal) _
  exact Frame.clampLength_mono (Int.toNat_le_toNat (max_le_max_left 1 hextent))

end Timeline

end Storyboard
