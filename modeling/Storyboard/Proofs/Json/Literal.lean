import Mathlib
import Storyboard.Json.Literal

/-!
Laws of string literals: what is written for a text is read as that text, up to the quotation mark
that closes it.
-/

namespace Storyboard.Literal
open Text (hexChar hexValue? hexValue?_hexChar)

/-- What the escape of a character is read as. -/
def piece (c : Char) : Piece :=
  if escapeLetter? c = none ∧ isControl c then .code c.toNat else .char c

theorem readCode?_control {n : Nat} (h : n < 32) :
    readCode? '0' '0' (hexChar (n / 16)) (hexChar (n % 16)) = some n := by
  have hzero : hexValue? '0' = some 0 := by decide
  have hhigh := hexValue?_hexChar ⟨n / 16, by omega⟩
  have hlow := hexValue?_hexChar ⟨n % 16, Nat.mod_lt _ (by decide)⟩
  simp only [readCode?, hzero, hhigh, hlow, Option.bind_eq_bind, Option.bind_some, Option.pure_def,
    Option.some.injEq]
  omega

/-- An escape is read as one piece. -/
theorem readPieces?_of_plain {c : Char} (hquote : c ≠ '"') (hslash : c ≠ '\\') (s : List Char) :
    readPieces? (c :: s) = if isControl c then none
      else (readPieces? s).map fun (pieces, rest) => (.char c :: pieces, rest) := by
  rw [readPieces?]
  · simp only [hslash, false_or]
    cases readPieces? s <;> rfl
  · exact hquote
  · intro _ _ _ _ _ h
    exact absurd h hslash
  · intro _ _ h
    exact absurd h hslash

theorem readPieces?_escape (c : Char) (rest : List Char) :
    readPieces? (escape c ++ rest) = (readPieces? rest).map fun (ps, r) => (piece c :: ps, r) := by
  cases hletter : escapeLetter? c with
  | some letter =>
      have hpiece : piece c = .char c := by simp [piece, hletter]
      have hread := escaped?_of_escapeLetter? hletter
      have hu : letter ≠ 'u' := by
        rintro rfl
        cases hread
      rw [hpiece]
      simp only [escape, hletter, List.cons_append, List.nil_append]
      rw [readPieces?]
      · simp only [hread, Option.bind_eq_bind, Option.bind_some, Option.pure_def,
          Option.map_eq_bind]
        rfl
      · intro a b c d tail hcons _
        exact hu hcons
  | none =>
      by_cases hcontrol : isControl c
      · have hpiece : piece c = .code c.toNat := by simp [piece, hletter, hcontrol]
        have hcode := readCode?_control (n := c.toNat) (by simpa [isControl] using hcontrol)
        rw [hpiece]
        simp only [escape, hletter, hcontrol, if_true, List.cons_append, List.nil_append,
          readPieces?, hcode, Option.bind_eq_bind, Option.bind_some, Option.pure_def,
          Option.map_eq_bind]
        rfl
      · have hpiece : piece c = .char c := by simp [piece, hcontrol]
        have hquote : c ≠ '"' := by
          rintro rfl
          cases hletter
        have hslash : c ≠ '\\' := by
          rintro rfl
          cases hletter
        rw [hpiece]
        simp only [escape, hletter, hcontrol, Bool.false_eq_true, if_false, List.cons_append,
          List.nil_append]
        rw [readPieces?_of_plain hquote hslash, if_neg hcontrol]

/-- The pieces of a text. -/
theorem readPieces?_write (s : List Char) (rest : List Char) :
    readPieces? (s.flatMap escape ++ '"' :: rest) = some (s.map piece, rest) := by
  induction s with
  | nil => rfl
  | cons c s ih =>
      rw [List.flatMap_cons, List.append_assoc, readPieces?_escape, ih]
      rfl

theorem join?_code {n : Nat} (hlead : isLeadingSurrogate n = false)
    (htrail : isTrailingSurrogate n = false) (rest : List Piece) :
    join? (.code n :: rest) = (join? rest).map (Char.ofNat n :: ·) := by
  cases rest with
  | nil => simp [join?, hlead, htrail]
  | cons p rest =>
      cases p with
      | char c => simp [join?, hlead, htrail]
      | code m => simp [join?, hlead, htrail]

theorem join?_piece (c : Char) (rest : List Piece) :
    join? (piece c :: rest) = (join? rest).map (c :: ·) := by
  unfold piece
  split
  · next h =>
      have hcontrol : c.toNat < 32 := by simpa [isControl] using h.2
      have hlead : isLeadingSurrogate c.toNat = false := by
        simp only [isLeadingSurrogate, Bool.and_eq_false_iff, decide_eq_false_iff_not]
        omega
      have htrail : isTrailingSurrogate c.toNat = false := by
        simp only [isTrailingSurrogate, Bool.and_eq_false_iff, decide_eq_false_iff_not]
        omega
      rw [join?_code hlead htrail, Char.ofNat_toNat]
  · rfl

theorem join?_pieces (s : List Char) : join? (s.map piece) = some s := by
  induction s with
  | nil => rfl
  | cons c s ih =>
      rw [List.map_cons, join?_piece, ih]
      rfl

/-- What is written behind the opening quotation mark is read as the text. -/
theorem read?_write (s : List Char) (rest : List Char) :
    read? (s.flatMap escape ++ '"' :: rest) = some (some (String.ofList s), rest) := by
  rw [read?, readPieces?_write]
  simp only [Option.map_some, join?_pieces]

end Storyboard.Literal
