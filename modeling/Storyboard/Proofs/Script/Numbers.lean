import Mathlib
import Storyboard.Proofs.Script.Reading

/-!
Numbers of scripts. Digits are read from the left, and a point only changes the place of those
behind it; so a text of digits and points denotes the number of all its digits, divided by a power
of ten, and it denotes none if it has no digit or a second point.
-/

namespace Storyboard
open Text (Stops stops_nil stops_cons stops_append)
open Grammar (numeral places)

/-! ### Digits -/

theorem Digit.ofChar?_eq_none {c : Char} (h : Text.isAsciiDigit c = false) : ofChar? c = none := by
  unfold Text.isAsciiDigit at h
  rw [ofChar?, dif_neg]
  simpa using h

theorem Digit.exists_ofChar? {c : Char} (h : Text.isAsciiDigit c = true) :
    ∃ d, ofChar? c = some d ∧ d.val = c.toNat - '0'.toNat := by
  unfold Text.isAsciiDigit at h
  rw [ofChar?, dif_pos (by simpa using h)]
  exact ⟨_, rfl, rfl⟩

namespace Digits

variable {w rest : List Char}

theorem span_of_stops (hw : ∀ c ∈ w, Text.isAsciiDigit c = true)
    (hrest : Stops Text.isAsciiDigit rest) :
    span (w ++ rest) = (w.filterMap Digit.ofChar?, rest) := by
  induction w with
  | nil =>
      cases rest with
      | nil => rfl
      | cons c rest => simp [span, Digit.ofChar?_eq_none (stops_cons.mp hrest)]
  | cons c w ih =>
      obtain ⟨hc, hw⟩ := List.forall_mem_cons.mp hw
      obtain ⟨d, hd, _⟩ := Digit.exists_ofChar? hc
      simp [span, hd, ih hw]

theorem span_of_digits (hw : ∀ c ∈ w, Text.isAsciiDigit c = true) :
    span w = (w.filterMap Digit.ofChar?, []) := by
  have hspan := span_of_stops hw (stops_nil _)
  rwa [List.append_nil] at hspan

theorem toNat_filterMap (hw : ∀ c ∈ w, Text.isAsciiDigit c = true) :
    toNat (w.filterMap Digit.ofChar?) = numeral w := by
  unfold toNat numeral
  generalize (0 : Nat) = n
  induction w generalizing n with
  | nil => rfl
  | cons c w ih =>
      obtain ⟨hc, hw⟩ := List.forall_mem_cons.mp hw
      obtain ⟨d, hd, hvalue⟩ := Digit.exists_ofChar? hc
      rw [List.filterMap_cons_some hd, List.foldl_cons, List.foldl_cons, ih hw, hvalue]

theorem length_filterMap (hw : ∀ c ∈ w, Text.isAsciiDigit c = true) :
    (w.filterMap Digit.ofChar?).length = w.length := by
  rw [List.filterMap_length_eq_length]
  intro c hc
  obtain ⟨d, hd, _⟩ := Digit.exists_ofChar? (hw c hc)
  rw [hd]
  rfl

end Digits

theorem Decimal.toBinary64_fraction (n k : Nat) :
    (Decimal.mk n (-(k : Int))).toBinary64 = Binary64.ofRatio n (10 ^ k) := by
  have hratio : (Decimal.mk n (-(k : Int))).ratio = (n, 10 ^ k) := by
    unfold ratio
    dsimp only
    rcases Nat.eq_zero_or_pos k with rfl | hk
    · simp
    · rw [if_neg (by omega), Int.neg_neg, Int.toNat_natCast]
      rfl
  rw [toBinary64, hratio]

namespace Scanner

variable {s whole fraction rest : List Char}

theorem stops_point (rest : List Char) : Stops Text.isAsciiDigit ('.' :: rest) :=
  stops_cons.mpr (by decide)

theorem isEmpty_filterMap (hs : ∀ c ∈ s, Text.isAsciiDigit c = true) :
    (s.filterMap Digit.ofChar?).isEmpty = s.isEmpty := by
  rw [Bool.eq_iff_iff, List.isEmpty_iff_length_eq_zero, List.isEmpty_iff_length_eq_zero,
    Digits.length_filterMap hs]

/-- Digits denote a decimal, of which so many stand behind the point. -/
def ofDigits? (digits : List Char) (places : Nat) : Option Decimal :=
  if digits.isEmpty then none else some ⟨numeral digits, -(places : Int)⟩

theorem decimal?_whole (hwhole : ∀ c ∈ whole, Text.isAsciiDigit c = true) :
    decimal? whole = ofDigits? whole 0 := by
  simp only [decimal?, Digits.span_of_digits hwhole, List.append_nil, isEmpty_filterMap hwhole,
    Digits.toNat_filterMap hwhole]
  cases whole <;> rfl

theorem decimal?_point (hwhole : ∀ c ∈ whole, Text.isAsciiDigit c = true)
    (hfraction : ∀ c ∈ fraction, Text.isAsciiDigit c = true) :
    decimal? (whole ++ '.' :: fraction) = ofDigits? (whole ++ fraction) fraction.length := by
  have hboth := List.forall_mem_append.mpr ⟨hwhole, hfraction⟩
  simp only [decimal?, Digits.span_of_stops hwhole (stops_point _),
    Digits.span_of_digits hfraction, ← List.filterMap_append, isEmpty_filterMap hboth,
    Digits.toNat_filterMap hboth, Digits.length_filterMap hfraction, ofDigits?]
  cases (whole ++ fraction).isEmpty <;> rfl

theorem decimal?_point_point (hwhole : ∀ c ∈ whole, Text.isAsciiDigit c = true)
    (hfraction : ∀ c ∈ fraction, Text.isAsciiDigit c = true) :
    decimal? (whole ++ '.' :: (fraction ++ '.' :: rest)) = none := by
  simp only [decimal?, Digits.span_of_stops hwhole (stops_point _),
    Digits.span_of_stops hfraction (stops_point _)]
  rfl

theorem places_of_not_mem (hs : '.' ∉ s) : places s = 0 := by
  rw [places, List.dropWhile_eq_nil_iff.mpr]
  · rfl
  · intro c hc
    simpa using ne_of_mem_of_not_mem hc hs

theorem places_point (hwhole : '.' ∉ whole) :
    places (whole ++ '.' :: fraction) = fraction.length := by
  have hfront : ∀ c ∈ whole, decide (c ≠ '.') = true := by
    intro c hc
    simpa using ne_of_mem_of_not_mem hc hwhole
  rw [places, Text.dropWhile_of_stops hfront (stops_cons.mpr (by decide))]
  rfl

theorem digits_of_not_mem (hs : ∀ c ∈ s, Text.isAsciiDigit c = true ∨ c = '.')
    (hpoint : '.' ∉ s) : ∀ c ∈ s, Text.isAsciiDigit c = true := by
  intro c hc
  exact (hs c hc).resolve_right (ne_of_mem_of_not_mem hc hpoint)

/-- Digits and points denote a decimal if there is at most one point. -/
theorem decimal?_eq (hs : ∀ c ∈ s, Text.isAsciiDigit c = true ∨ c = '.') :
    decimal? s =
      if s.count '.' ≤ 1 then ofDigits? (s.filter Text.isAsciiDigit) (places s) else none := by
  by_cases hpoint : '.' ∈ s
  · obtain ⟨whole, behind, rfl, hfirst⟩ := List.eq_append_cons_of_mem hpoint
    obtain ⟨hwhole, hbehind⟩ := List.forall_mem_append.mp hs
    replace hwhole := digits_of_not_mem hwhole hfirst
    replace hbehind := (List.forall_mem_cons.mp hbehind).2
    have hcount : (whole ++ '.' :: behind).count '.' = behind.count '.' + 1 := by
      rw [List.count_append, List.count_cons_self, List.count_eq_zero.mpr hfirst, Nat.zero_add]
    rw [hcount]
    by_cases hsecond : '.' ∈ behind
    · obtain ⟨fraction, rest, rfl, hnext⟩ := List.eq_append_cons_of_mem hsecond
      have hfraction := digits_of_not_mem (List.forall_mem_append.mp hbehind).1 hnext
      have hmore := List.count_pos_iff.mpr hsecond
      rw [decimal?_point_point hwhole hfraction, if_neg (by omega)]
    · have hfraction := digits_of_not_mem hbehind hsecond
      have hdigits : (whole ++ '.' :: behind).filter Text.isAsciiDigit = whole ++ behind := by
        rw [List.filter_append, List.filter_cons_of_neg (by decide),
          List.filter_eq_self.mpr hwhole, List.filter_eq_self.mpr hfraction]
      rw [decimal?_point hwhole hfraction, hdigits, places_point hfirst,
        List.count_eq_zero.mpr hsecond, if_pos (Nat.le_refl 1)]
  · have hwhole := digits_of_not_mem hs hpoint
    rw [decimal?_whole hwhole, List.filter_eq_self.mpr hwhole, places_of_not_mem hpoint,
      List.count_eq_zero.mpr hpoint, if_pos (Nat.zero_le 1)]

theorem number_eq (s : List Char) : number s =
    (run isNumberChar s).bind fun x => (decimal? x.1).map fun d => (d.toBinary64, x.2) := by
  change (run isNumberChar s).bind _ = _
  congr 1
  funext x
  dsimp only
  cases decimal? x.1 <;> rfl

theorem toBinary64_of_decimal? {d : Decimal}
    (hs : ∀ c ∈ s, Text.isAsciiDigit c = true ∨ c = '.') (h : decimal? s = some d) :
    ((∃ c ∈ s, Text.isAsciiDigit c = true) ∧ s.count '.' ≤ 1) ∧ d.toBinary64 =
      Binary64.ofRatio (numeral (s.filter Text.isAsciiDigit)) (10 ^ places s) := by
  rw [decimal?_eq hs] at h
  split at h
  · next hone =>
      unfold ofDigits? at h
      split at h
      · cases h
      · next hdigits =>
          cases h
          obtain ⟨c, hc⟩ := List.exists_mem_of_ne_nil _ (mt List.isEmpty_iff.mpr hdigits)
          exact ⟨⟨⟨c, List.mem_filter.mp hc⟩, hone⟩, Decimal.toBinary64_fraction _ _⟩
  · cases h

theorem exists_decimal? (s : Grammar.Number) : ∃ d, decimal? s.1 = some d := by
  obtain ⟨s, hs, ⟨c, hmem, hc⟩, hone⟩ := s
  have hdigits := List.ne_nil_of_mem (List.mem_filter.mpr ⟨hmem, hc⟩)
  refine ⟨⟨numeral (s.filter Text.isAsciiDigit), -(places s : Int)⟩, ?_⟩
  rw [decimal?_eq hs, if_pos hone, ofDigits?, if_neg (mt List.isEmpty_iff.mp hdigits)]

theorem reads_number :
    number.Reads (Subtype.val : Grammar.Number → _) Grammar.Number.value fun _ =>
      Stops isNumberChar := by
  refine .of_injective Subtype.val_injective ?_ ?_
  · rintro s rest hrest
    obtain ⟨d, hd⟩ := exists_decimal? s
    obtain ⟨s, hs, ⟨c, hmem, hc⟩, hone⟩ := s
    have hrun := (reads_run isNumberChar).complete
      (d := ⟨s, List.ne_nil_of_mem hmem, by simpa [isNumberChar] using hs⟩) hrest
    have hvalue : d.toBinary64 = Grammar.Number.value ⟨s, hs, ⟨c, hmem, hc⟩, hone⟩ :=
      (toBinary64_of_decimal? hs hd).2
    rw [number_eq, hrun, Option.bind_some, hd, Option.map_some, hvalue]
  · intro s a rest h
    rw [number_eq] at h
    obtain ⟨⟨w, middle⟩, hrun, hmap⟩ := Option.bind_eq_some_iff.mp h
    obtain ⟨d, hd, heq⟩ := Option.map_eq_some_iff.mp hmap
    obtain ⟨rfl, rfl⟩ := Prod.mk.inj heq
    obtain ⟨⟨w, hne, hw⟩, rfl, rfl, hrest⟩ := (reads_run isNumberChar).sound hrun
    have hs : ∀ c ∈ w, Text.isAsciiDigit c = true ∨ c = '.' := by simpa [isNumberChar] using hw
    obtain ⟨hnumber, hvalue⟩ := toBinary64_of_decimal? hs hd
    exact ⟨⟨w, hs, hnumber⟩, rfl, hvalue, hrest⟩

/-- A count stands for the number that its digits denote, if thirty-two bits can hold it. -/
theorem reads_count :
    count.Reads (Subtype.val : Grammar.Count → _) Grammar.Count.value fun _ =>
      Stops Text.isAsciiDigit := by
  refine ((reads_run Text.isAsciiDigit).map _).equiv (.refl _) (fun _ => rfl) ?_ fun _ _ => Iff.rfl
  rintro ⟨s, hne, hs⟩
  change _ = UInt32.ofNat (min (Digits.toNat (Digits.span s).1) (UInt32.size - 1))
  rw [Digits.span_of_digits hs, Digits.toNat_filterMap hs]
  rfl

end Scanner
end Storyboard
