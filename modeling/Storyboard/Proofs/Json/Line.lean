import Mathlib
import Storyboard.Json.Reader
import Storyboard.Proofs.Json.RoundTrip
import Storyboard.Proofs.Text.Blank
import Storyboard.Proofs.Text.Line

/-!
Tokens keep to their lines. No token goes on behind the end of a line, so the tokens of a text are
those of its lines, one line after the other; a blank line has none.
-/

namespace Storyboard

/-- A character that ends a line, alone or together with the other one. -/
def Text.IsBreak (c : Char) : Prop :=
  c = '\n' ∨ c = '\r'

/-- A word without ends of lines that opens a text opens what stands in front of a mark. -/
theorem Text.IsBreak.exists_word {mark : Char} (hmark : IsBreak mark) {s rest left : List Char}
    (word : List Char) (hword : '\n' ∉ word ∧ '\r' ∉ word) (h : s ++ mark :: rest = word ++ left) :
    ∃ tail, s = word ++ tail := by
  have hfree : mark ∉ word := by
    rcases hmark with rfl | rfl
    exacts [hword.1, hword.2]
  rcases List.append_eq_append_iff.mp h with ⟨front, hfront, hrest⟩ | ⟨tail, hs, _⟩
  · cases front with
    | nil => exact ⟨[], by simpa using hfront.symm⟩
    | cons c front =>
        have hc : mark = c := (List.cons.inj hrest).1
        exact absurd (by simp [hfront, hc]) hfree
  · exact ⟨tail, hs⟩

/-- A reader does in front of a mark what it does at the end of a text. -/
def Json.Halts {α : Type} (mark : Char) (read : List Char → Option (α × List Char)) : Prop :=
  ∀ s rest, read (s ++ mark :: rest) = (read s).map fun (a, left) => (a, left ++ mark :: rest)

namespace Json.Halts

variable {α β : Type} {mark : Char} {read : List Char → Option (α × List Char)}

theorem map (h : Halts mark read) (f : α → β) :
    Halts mark fun s => (read s).map fun (a, left) => (f a, left) := by
  intro s rest
  dsimp only
  rw [h, Option.map_map, Option.map_map]
  rfl

theorem bind {next : α → List Char → Option (β × List Char)} (h : Halts mark read)
    (hnext : ∀ a, Halts mark (next a)) :
    Halts mark fun s => (read s).bind fun (a, left) => next a left := by
  intro s rest
  dsimp only
  rw [h]
  cases read s with
  | none => rfl
  | some found => exact hnext found.1 found.2 rest

protected theorem pure (a : α) : Halts mark fun s => some (a, s) :=
  fun _ _ => rfl

end Json.Halts

variable {mark : Char}

/-! ### Literals -/

namespace Literal
open Json (Halts)

theorem readCode?_of_break (hmark : Text.IsBreak mark) (a b c d : Char) :
    readCode? mark b c d = none ∧ readCode? a mark c d = none ∧ readCode? a b mark d = none ∧
      readCode? a b c mark = none := by
  have hvalue : Text.hexValue? mark = none := by
    rcases hmark with rfl | rfl <;> decide
  simp [readCode?, hvalue]

/-- An escape by code needs four digits. -/
theorem readPieces?_eq_none {s : List Char}
    (h : ∀ a b c d tail, s = a :: b :: c :: d :: tail → readCode? a b c d = none) :
    readPieces? ('\\' :: 'u' :: s) = none := by
  have hletter : escaped? 'u' = none := rfl
  match s with
  | a :: b :: c :: d :: tail =>
      rw [readPieces?, h a b c d tail rfl]
      rfl
  | [] => simp [readPieces?, hletter]
  | [_] => simp [readPieces?, hletter]
  | [_, _] => simp [readPieces?, hletter]
  | [_, _, _] => simp [readPieces?, hletter]

/-- An escape by code does not go on behind a mark. -/
theorem readPieces?_of_short_code (hmark : Text.IsBreak mark) {s : List Char}
    (hshort : ∀ a b c d tail, s ≠ a :: b :: c :: d :: tail) (rest : List Char) :
    readPieces? ('\\' :: 'u' :: (s ++ mark :: rest)) = none := by
  refine readPieces?_eq_none fun a b c d left hs => ?_
  obtain ⟨h1, h2, h3, h4⟩ := readCode?_of_break hmark a b c d
  -- Of the four characters one is the mark, because the text in front of it is too short.
  obtain _ | ⟨_, _ | ⟨_, _ | ⟨_, _ | ⟨_, tail⟩⟩⟩⟩ := s
  · cases hs; exact h1
  · cases hs; exact h2
  · cases hs; exact h3
  · cases hs; exact h4
  · exact absurd rfl (hshort _ _ _ _ tail)

/-- A mark is no letter that a backslash escapes. -/
theorem readPieces?_of_escaped_break (hmark : Text.IsBreak mark) (rest : List Char) :
    readPieces? ('\\' :: mark :: rest) = none := by
  have hnone : escaped? mark = none := by
    rcases hmark with rfl | rfl <;> rfl
  have hu : mark ≠ 'u' := by
    rcases hmark with rfl | rfl <;> decide
  rw [readPieces?, hnone]
  · rfl
  · intro _ _ _ _ _ h _
    exact hu h

theorem halts_readPieces? (hmark : Text.IsBreak mark) : Halts mark readPieces? := by
  intro s rest
  fun_induction readPieces? s with
  | case1 => rcases hmark with rfl | rfl <;> rfl
  | case2 tail => rfl
  | case3 a b c d tail ih =>
      simp only [List.cons_append, readPieces?, ih]
      cases readCode? a b c d with
      | none => rfl
      | some code => cases readPieces? tail <;> rfl
  | case4 letter tail hshort ih =>
      by_cases hu : letter = 'u'
      · subst hu
        exact readPieces?_of_short_code hmark
          (fun a b c d left hs => hshort a b c d left rfl hs) rest
      · rw [List.cons_append, List.cons_append, readPieces?, ih]
        · cases escaped? letter with
          | none => rfl
          | some c => cases readPieces? tail <;> rfl
        · intro _ _ _ _ _ h _
          exact hu h
  | case5 c tail hquote hcode hletter hc =>
      by_cases hslash : c = '\\'
      · -- The backslash stands at the end of the text.
        subst hslash
        obtain rfl : tail = [] := by
          cases tail with
          | nil => rfl
          | cons letter tail => exact (hletter letter tail rfl rfl).elim
        exact readPieces?_of_escaped_break hmark rest
      · rw [List.cons_append, readPieces?_of_plain hquote hslash, if_pos (hc.resolve_left hslash)]
        rfl
  | case6 c tail hquote hcode hletter hc ih =>
      rw [not_or] at hc
      rw [List.cons_append, readPieces?_of_plain hquote hc.1, if_neg hc.2, ih]
      cases readPieces? tail <;> rfl

theorem halts_read? (hmark : Text.IsBreak mark) : Halts mark read? :=
  (halts_readPieces? hmark).map fun pieces => (join? pieces).map String.ofList

end Literal

/-! ### Numerals -/

namespace Numeral
open Json (Halts)

theorem ends_of_break (hmark : Text.IsBreak mark) (rest : List Char) : Ends (mark :: rest) :=
  .cons (by rcases hmark with rfl | rfl <;> decide) rest

theorem span_append (s : List Char) {rest : List Char} (h : NoDigit rest) :
    Digits.span (s ++ rest) = ((Digits.span s).1, (Digits.span s).2 ++ rest) := by
  induction s with
  | nil =>
      cases rest with
      | nil => rfl
      | cons c rest =>
          have hc : Digit.ofChar? c = none := h c rfl
          simp [Digits.span, hc]
  | cons c s ih =>
      rw [List.cons_append, Digits.span, Digits.span]
      cases Digit.ofChar? c with
      | none => rfl
      | some d => simp only [ih]

theorem halts_readDigits? (hmark : Text.IsBreak mark) : Halts mark readDigits? := by
  intro s rest
  rw [readDigits?, readDigits?, span_append s (ends_of_break hmark rest).digit]
  obtain ⟨ds, left⟩ := Digits.span s
  cases ds <;> rfl

theorem halts_readWhole? (hmark : Text.IsBreak mark) : Halts mark readWhole? := by
  intro s rest
  rw [readWhole?, readWhole?, halts_readDigits? hmark s rest]
  cases readDigits? s with
  | none => rfl
  | some found =>
      obtain ⟨ds, left⟩ := found
      cases ds with
      | nil => rfl
      | cons d ds =>
          simp only [Option.map_some]
          split <;> rfl

theorem halts_readFraction? (hmark : Text.IsBreak mark) : Halts mark readFraction? := by
  intro s rest
  fun_cases readFraction? s with
  | case1 tail => exact halts_readDigits? hmark tail rest
  | case2 _ hpoint =>
      rw [readFraction?]
      · rfl
      · intro left h
        obtain ⟨tail, hs⟩ := hmark.exists_word ['.'] (by decide) h
        exact hpoint tail hs

theorem readSign_append (hmark : Text.IsBreak mark) (s rest : List Char) :
    readSign (s ++ mark :: rest) = ((readSign s).1, (readSign s).2 ++ mark :: rest) := by
  fun_cases readSign s with
  | case1 tail => rfl
  | case2 tail => rfl
  | case3 _ hminus hplus =>
      rw [readSign]
      · intro left h
        obtain ⟨tail, hs⟩ := hmark.exists_word ['-'] (by decide) h
        exact hminus tail hs
      · intro left h
        obtain ⟨tail, hs⟩ := hmark.exists_word ['+'] (by decide) h
        exact hplus tail hs

theorem halts_readPower? (hmark : Text.IsBreak mark) : Halts mark readPower? := by
  intro s rest
  rw [readPower?, readPower?, readSign_append hmark, halts_readDigits? hmark, Option.map_map,
    Option.map_map]
  rfl

theorem halts_readExponent? (hmark : Text.IsBreak mark) : Halts mark readExponent? := by
  intro s rest
  have hpower := (halts_readPower? hmark).map some
  fun_cases readExponent? s with
  | case1 tail => exact hpower tail rest
  | case2 tail => exact hpower tail rest
  | case3 _ hsmall hlarge =>
      rw [readExponent?]
      · rfl
      · intro left h
        obtain ⟨tail, hs⟩ := hmark.exists_word ['e'] (by decide) h
        exact hsmall tail hs
      · intro left h
        obtain ⟨tail, hs⟩ := hmark.exists_word ['E'] (by decide) h
        exact hlarge tail hs

theorem halts_readUnsigned? (hmark : Text.IsBreak mark) (negative : Bool) :
    Halts mark (readUnsigned? negative) :=
  (halts_readWhole? hmark).bind fun whole =>
    (halts_readFraction? hmark).bind fun fraction =>
      (halts_readExponent? hmark).bind fun exponent =>
        .pure (⟨negative, whole, fraction, exponent⟩ : Numeral)

theorem halts_read? (hmark : Text.IsBreak mark) : Halts mark read? := by
  intro s rest
  fun_cases read? s with
  | case1 tail => exact halts_readUnsigned? hmark true tail rest
  | case2 _ hminus =>
      rw [read?]
      · exact halts_readUnsigned? hmark false s rest
      · intro left h
        obtain ⟨tail, hs⟩ := hmark.exists_word ['-'] (by decide) h
        exact hminus tail hs

end Numeral

/-! ### Tokens -/

namespace Json.Token

theorem halts_read? (hmark : Text.IsBreak mark) : Halts mark read? := by
  intro s rest
  fun_cases read? s with
  | case10 tail =>
      exact (Literal.halts_read? hmark).map Token.text tail rest
  | case11 _ h1 h2 h3 h4 h5 h6 h7 h8 h9 h10 =>
      have opens (word : List Char) (hword : '\n' ∉ word ∧ '\r' ∉ word)
          (hs : ∀ tail, s = word ++ tail → False) (left : List Char)
          (h : s ++ mark :: rest = word ++ left) : False := by
        obtain ⟨tail, htail⟩ := hmark.exists_word word hword h
        exact hs tail htail
      rw [read?]
      · exact (Numeral.halts_read? hmark).map Token.number s rest
      · exact opens ['['] (by decide) h1
      · exact opens [']'] (by decide) h2
      · exact opens ['\x7b'] (by decide) h3
      · exact opens ['\x7d'] (by decide) h4
      · exact opens [','] (by decide) h5
      · exact opens [':'] (by decide) h6
      · exact opens ['n', 'u', 'l', 'l'] (by decide) h7
      · exact opens ['t', 'r', 'u', 'e'] (by decide) h8
      · exact opens ['f', 'a', 'l', 's', 'e'] (by decide) h9
      · exact opens ['"'] (by decide) h10
  | _ => rfl

theorem all?_nil : all? [] = some [] := by
  rw [all?]

theorem all?_eq_none {c : Char} {s : List Char} (hc : isSpace c = false)
    (h : read? (c :: s) = none) : all? (c :: s) = none := by
  rw [all?, if_neg (by rw [hc]; decide)]
  split
  · rfl
  · next hsome =>
      rw [h] at hsome
      cases hsome

/-- The tokens of two pieces of a text, where a line ends between them. -/
theorem all?_append (hmark : Text.IsBreak mark) (s rest : List Char) :
    all? (s ++ mark :: rest) = (all? s).bind fun ts => (all? rest).map (ts ++ ·) := by
  fun_induction all? s with
  | case1 =>
      have hspace : isSpace mark := by
        rcases hmark with rfl | rfl <;> rfl
      rw [List.nil_append, all?_space hspace]
      cases all? rest <;> rfl
  | case2 c s hspace ih => rw [List.cons_append, all?_space hspace, ih]
  | case3 c s hspace hread =>
      have hnone : read? (c :: s ++ mark :: rest) = none := by
        rw [halts_read? hmark, hread]
        rfl
      rw [List.cons_append] at hnone ⊢
      exact all?_eq_none (Bool.eq_false_of_not_eq_true hspace) hnone
  | case4 c s hspace t left hread ih =>
      have hsome : read? (c :: s ++ mark :: rest) = some (t, left ++ mark :: rest) := by
        rw [halts_read? hmark, hread]
        rfl
      rw [List.cons_append] at hsome ⊢
      rw [all?_read? (Bool.eq_false_of_not_eq_true hspace) hsome, ih]
      cases all? left <;> cases all? rest <;> rfl

theorem all?_dropReturn (line : List Char) : all? (Text.dropReturn line) = all? line := by
  unfold Text.dropReturn
  split
  · next hlast =>
      obtain ⟨front, rfl⟩ := List.getLast?_eq_some_iff.mp hlast
      rw [List.dropLast_concat, all?_append (.inr rfl)]
      cases all? front <;> simp [all?]
  · rfl

/-- The tokens of a text are those of its lines. -/
theorem all?_eq_lines (s : List Char) :
    all? s = ((Text.lines s).mapM all?).map List.flatten := by
  obtain ⟨ls, last, hls, hlast, rfl⟩ := Text.exists_ended s
  induction ls with
  | nil =>
      change all? last = ((Text.lines last).mapM all?).map List.flatten
      cases last with
      | nil => exact all?_nil
      | cons c last =>
          rw [Text.lines_of_not_mem hlast (List.cons_ne_nil c last), List.mapM_cons]
          cases all? (c :: last) <;> simp
  | cons l ls ih =>
      rw [List.forall_mem_cons] at hls
      have htext : Text.ended (l :: ls) ++ last = l ++ '\n' :: (Text.ended ls ++ last) := by
        simp [Text.ended]
      rw [htext, all?_append (.inl rfl), Text.lines_append_newline hls.1, ih hls.2,
        List.mapM_cons, all?_dropReturn]
      cases all? l with
      | none => rfl
      | some ts => cases (Text.lines (Text.ended ls ++ last)).mapM all? <;> simp

/-! ### Blank lines -/

theorem read?_of_isBlank {c : Char} (hc : Text.isBlank c) (s : List Char) :
    read? (c :: s) = none := by
  have hblanks : ∀ c ∈ Text.blanks, read? (c :: s) = none := by
    simp only [Text.blanks, List.forall_mem_cons, List.not_mem_nil, false_implies, implies_true,
      and_true]
    and_intros <;> rfl
  exact hblanks c (List.contains_iff_mem.mp hc)

/-- What is blank has no tokens. -/
theorem all?_of_blank {s : List Char} {ts : List Token} (hs : ∀ c ∈ s, Text.isBlank c)
    (h : all? s = some ts) : ts = [] := by
  induction s with
  | nil =>
      rw [all?_nil] at h
      exact (Option.some.inj h).symm
  | cons c s ih =>
      rw [List.forall_mem_cons] at hs
      by_cases hspace : isSpace c
      · rw [all?_space hspace] at h
        exact ih hs.2 h
      · rw [all?_eq_none (Bool.eq_false_of_not_eq_true hspace) (read?_of_isBlank hs.1 s)] at h
        cases h

/-- What has no tokens is blank. -/
theorem blank_of_all? {s : List Char} (h : all? s = some []) : ∀ c ∈ s, Text.isBlank c := by
  induction s with
  | nil => exact List.forall_mem_nil _
  | cons c s ih =>
      by_cases hspace : isSpace c
      · rw [all?_space hspace] at h
        refine List.forall_mem_cons.mpr ⟨?_, ih h⟩
        simp only [isSpace, Bool.or_eq_true, decide_eq_true_eq] at hspace
        rcases hspace with ((rfl | rfl) | rfl) | rfl <;> decide
      · have hc := Bool.eq_false_of_not_eq_true hspace
        cases hread : read? (c :: s) with
        | none =>
            rw [all?_eq_none hc hread] at h
            cases h
        | some found =>
            rw [all?_read? hc hread] at h
            obtain ⟨ts, -, hts⟩ := Option.map_eq_some_iff.mp h
            cases hts

end Json.Token

end Storyboard
