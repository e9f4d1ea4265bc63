import Mathlib
import Storyboard.Text.Blank
import Storyboard.Text.Case

/-!
Where a run of characters stops, and how a text begins and ends. Blanks are neither letters, digits
nor marks, so that a blank stops a word and a word stops blanks; what trimming drops is blank, and
nothing else is.
-/

namespace Storyboard.Text

variable {c : Char} {p : Char → Bool} {s rest : List Char}

/-! ### Runs of characters -/

/-- The text does not go on with a character of a class. -/
def Stops (p : Char → Bool) (rest : List Char) : Prop :=
  ∀ c ∈ rest.head?, p c = false

theorem stops_nil (p : Char → Bool) : Stops p [] :=
  fun _ h => nomatch h

theorem stops_cons {p : Char → Bool} {c : Char} {rest : List Char} :
    Stops p (c :: rest) ↔ p c = false := by
  simp [Stops]

theorem stops_append {p : Char → Bool} {s rest : List Char} (h : s ≠ []) :
    Stops p (s ++ rest) ↔ Stops p s := by
  obtain ⟨c, s, rfl⟩ := List.exists_cons_of_ne_nil h
  rw [List.cons_append, stops_cons, stops_cons]

theorem stops_dropWhile (p : Char → Bool) (s : List Char) : Stops p (s.dropWhile p) := by
  intro c hc
  have hstop := List.head?_dropWhile_not p s
  rw [Option.mem_def.mp hc] at hstop
  simpa using hstop

theorem takeWhile_of_stops (hs : ∀ c ∈ s, p c = true) (hrest : Stops p rest) :
    (s ++ rest).takeWhile p = s := by
  rw [List.takeWhile_append_of_pos hs]
  cases rest with
  | nil => simp
  | cons c rest => simp [stops_cons.mp hrest]

theorem dropWhile_of_stops (hs : ∀ c ∈ s, p c = true) (hrest : Stops p rest) :
    (s ++ rest).dropWhile p = rest := by
  rw [List.dropWhile_append_of_pos hs]
  cases rest with
  | nil => rfl
  | cons c rest => simp [stops_cons.mp hrest]

/-! ### Letters and blanks -/

theorem of_isBlank (hp : blanks.any p = false) (h : isBlank c = true) : p c = false := by
  simpa using List.any_eq_false.mp hp c (List.contains_iff_mem.mp h)

theorem isBlank_eq_false (hp : blanks.any p = false) (h : p c = true) : isBlank c = false := by
  by_contra hblank
  rw [of_isBlank hp (Bool.not_eq_false _ ▸ hblank)] at h
  cases h

theorem isAlpha_of_sameLetter {want : Char} (h : sameLetter c want = true) :
    c.isAlpha = want.isAlpha := by
  rw [sameLetter, beq_iff_eq] at h
  rw [← Char.isAlpha_toLower_eq_isAlpha, h, Char.isAlpha_toLower_eq_isAlpha]

theorem toLower_eq_of_sameLetter {a b : Char} (ha : sameLetter c a = true)
    (hb : sameLetter c b = true) : a.toLower = b.toLower := by
  rw [sameLetter, beq_iff_eq] at ha hb
  exact ha.symm.trans hb

theorem isBlank_of_isAlpha (h : c.isAlpha = true) : isBlank c = false :=
  isBlank_eq_false (p := Char.isAlpha) (by decide) h

theorem isAsciiDigit_of_isAlpha (h : c.isAlpha = true) : isAsciiDigit c = false := by
  simp [Char.isAlpha, Char.isUpper, Char.isLower, UInt32.le_iff_toNat_le] at h
  simp [isAsciiDigit, Char.le_def, UInt32.le_iff_toNat_le]
  omega

theorem isWordChar_of_isAlpha (h : c.isAlpha = true) : isWordChar c = true := by
  have hletter : isAsciiLetter c = true := by
    rw [Char.isAlpha, Bool.or_comm] at h
    simpa [isAsciiLetter, Char.isUpper, Char.isLower, Char.le_def] using h
  simp [isWordChar, hletter]

/-! ### How a text begins -/

/-- The first character that is not blank. -/
def lead (s : List Char) : Option Char :=
  (trimStart s).head?

theorem lead_append (hs : ∀ c ∈ s, isBlank c = true) (rest : List Char) :
    lead (s ++ rest) = lead rest := by
  rw [lead, trimStart, List.dropWhile_append_of_pos hs]
  rfl

theorem lead_cons (hc : isBlank c = false) (rest : List Char) : lead (c :: rest) = some c := by
  rw [lead, trimStart, List.dropWhile_cons_of_neg (by simp [hc])]
  rfl

theorem lead_of_blank (hs : ∀ c ∈ s, isBlank c = true) : lead s = none := by
  rw [lead, trimStart, List.dropWhile_eq_nil_iff.mpr hs]
  rfl

/-- The text is over or goes on with a blank. -/
def Ends (rest : List Char) : Prop :=
  ∀ c ∈ rest.head?, isBlank c = true

theorem Ends.stops (h : Ends rest) (hp : blanks.any p = false) : Stops p rest :=
  fun c hc => of_isBlank hp (h c hc)

theorem ends_of_blank (hs : ∀ c ∈ s, isBlank c = true) : Ends s :=
  fun c hc => hs c (List.mem_of_head? hc)

theorem ends_append (hne : s ≠ []) (hs : ∀ c ∈ s, isBlank c = true) (rest : List Char) :
    Ends (s ++ rest) := by
  intro c hc
  rw [List.head?_append_of_ne_nil s hne] at hc
  exact hs c (List.mem_of_head? hc)

/-! ### Trimming -/

theorem trimEnd_append (hs : ∀ c ∈ s.getLast?, isBlank c = false)
    (hrest : ∀ c ∈ rest, isBlank c = true) : trimEnd (s ++ rest) = s := by
  have hstop : Stops isBlank s.reverse := by
    rwa [Stops, List.head?_reverse]
  rw [trimEnd, List.reverse_append, dropWhile_of_stops (by simpa using hrest) hstop,
    List.reverse_reverse]

theorem trimEnd_append_of_blank (hrest : ∀ c ∈ rest, isBlank c = true) :
    trimEnd (s ++ rest) = trimEnd s := by
  rw [trimEnd, List.reverse_append, List.dropWhile_append_of_pos (by simpa using hrest)]
  rfl

theorem trimEnd_cons (hc : isBlank c = false) (s : List Char) :
    trimEnd (c :: s) = c :: trimEnd s := by
  rw [trimEnd, List.reverse_cons, List.dropWhile_append]
  split
  · next hs =>
      rw [List.dropWhile_cons_of_neg (by simp [hc]), trimEnd, List.isEmpty_iff.mp hs]
      rfl
  · rw [List.reverse_append]
    rfl

theorem trimEnd_of_blank (hs : ∀ c ∈ s, isBlank c = true) : trimEnd s = [] := by
  rw [trimEnd, List.dropWhile_eq_nil_iff.mpr (by simpa using hs), List.reverse_nil]

/-- A text that is not blank keeps what stands before it. -/
theorem trimEnd_append_of_ne_nil (hs : trimEnd s ≠ []) (before : List Char) :
    trimEnd (before ++ s) = before ++ trimEnd s := by
  have hne : s.reverse.dropWhile isBlank ≠ [] := mt List.reverse_eq_nil_iff.mpr hs
  rw [trimEnd, List.reverse_append, List.dropWhile_append,
    if_neg (by simpa using hne), List.reverse_append, List.reverse_reverse]
  rfl

theorem trimEnd_of_nonblank (hs : ∀ c ∈ s, isBlank c = false) : trimEnd s = s := by
  have htrim : trimEnd (s ++ []) = s :=
    trimEnd_append (fun c hc => hs c (List.mem_of_getLast? hc)) (by simp)
  rwa [List.append_nil] at htrim

/-- Where nothing can be dropped from the end, nothing can be with something before it. -/
theorem trimEnd_append_eq (hs : trimEnd s = s) (hne : s ≠ []) (before : List Char) :
    trimEnd (before ++ s) = before ++ s := by
  rw [trimEnd_append_of_ne_nil (by rwa [hs]), hs]

/-- Only blanks are dropped from the end. -/
theorem exists_trimEnd (s : List Char) :
    ∃ tail, (∀ c ∈ tail, isBlank c = true) ∧ s = trimEnd s ++ tail := by
  refine ⟨(s.reverse.takeWhile isBlank).reverse, fun c hc => ?_, ?_⟩
  · exact List.mem_takeWhile_imp (List.mem_reverse.mp hc)
  · rw [trimEnd, ← List.reverse_append, List.takeWhile_append_dropWhile, List.reverse_reverse]

theorem getLast?_trimEnd : ∀ c ∈ (trimEnd s).getLast?, isBlank c = false := by
  rw [trimEnd, List.getLast?_reverse]
  exact stops_dropWhile isBlank s.reverse

theorem head?_trim : ∀ c ∈ (trim s).head?, isBlank c = false := by
  obtain ⟨tail, -, htail⟩ := exists_trimEnd (trimStart s)
  intro c hc
  have hstop : Stops isBlank (trimStart s) := stops_dropWhile isBlank s
  rw [htail] at hstop
  exact (stops_append (List.ne_nil_of_mem (List.mem_of_head? hc))).mp hstop c hc

/-- Only blanks are dropped from the ends. -/
theorem exists_trim (s : List Char) :
    ∃ before tail, (∀ c ∈ before, isBlank c = true) ∧ (∀ c ∈ tail, isBlank c = true) ∧
      s = before ++ trim s ++ tail := by
  obtain ⟨tail, hblank, htail⟩ := exists_trimEnd (trimStart s)
  refine ⟨indent s, tail, fun _ => List.mem_takeWhile_imp, hblank, ?_⟩
  change s = indent s ++ trimEnd (trimStart s) ++ tail
  rw [List.append_assoc, ← htail, indent_append_trimStart]

end Storyboard.Text
