import Mathlib
import Storyboard.Json.Printer
import Storyboard.Proofs.Text.Line

/-!
The lines of printed JSON. Literals and numerals keep to one line, so a line feed stands only where
pretty text begins a new one, and each line but the first begins with a blank or with the bracket
that closes the outermost container.
-/

namespace Storyboard

/-! ### Literals and numerals -/

namespace Literal
open Text (hexChar)

/-- A mark, a digit or a letter of ASCII. -/
def isGraphic (c : Char) : Bool :=
  32 < c.toNat && c.toNat < 127

theorem isGraphic_hexChar (n : Fin 16) : isGraphic (hexChar n) := by
  revert n
  decide

/-- An escape is the character itself or has nothing but graphic characters. -/
theorem escape_cases (c : Char) :
    (escape c = [c] ∧ isControl c = false) ∨
      (∀ d ∈ escape c, isGraphic d) ∧ (isGraphic c ∨ isControl c) := by
  unfold escape
  cases hletter : escapeLetter? c with
  | some letter =>
      right
      unfold escapeLetter? at hletter
      split at hletter <;> cases hletter <;>
        exact ⟨by simp [isGraphic], by decide⟩
  | none =>
      cases hcontrol : isControl c with
      | false => exact .inl ⟨rfl, rfl⟩
      | true =>
          have hc : c.toNat < 32 := by simpa [isControl] using hcontrol
          have hhigh := isGraphic_hexChar ⟨c.toNat / 16, by omega⟩
          have hlow := isGraphic_hexChar ⟨c.toNat % 16, Nat.mod_lt _ (by decide)⟩
          right
          simp only [if_true, List.forall_mem_cons, or_true, and_true]
          exact ⟨by decide, by decide, by decide, by decide, hhigh, hlow, List.forall_mem_nil _⟩

variable {p : Char → Bool}

theorem filter_escape (hp : ∀ c, isGraphic c → p c = false) (c : Char) :
    (escape c).filter p = [c].filter fun c => p c && !isControl c := by
  rcases escape_cases c with ⟨hescape, hcontrol⟩ | ⟨hgraphic, hc⟩
  · rw [hescape, List.filter_singleton, List.filter_singleton, hcontrol]
    simp
  · have hnone : (escape c).filter p = [] := by
      rw [List.filter_eq_nil_iff]
      intro d hd
      simp [hp d (hgraphic d hd)]
    have hlost : (p c && !isControl c) = false := by
      rcases hc with hc | hc
      · rw [hp c hc, Bool.false_and]
      · rw [hc, Bool.not_true, Bool.and_false]
    rw [hnone, List.filter_singleton, hlost]
    rfl

theorem filter_flatMap_escape (hp : ∀ c, isGraphic c → p c = false) (s : List Char) :
    (s.flatMap escape).filter p = s.filter fun c => p c && !isControl c := by
  induction s with
  | nil => rfl
  | cons c s ih =>
      rw [List.flatMap_cons, List.filter_append, filter_escape hp, ih, ← List.filter_append]
      rfl

/-- Of the characters that are not graphic, a literal has those of its text that are no control
characters. -/
theorem filter_write (hp : ∀ c, isGraphic c → p c = false) (s : List Char) :
    (write s).filter p = s.filter fun c => p c && !isControl c := by
  have hquote : p '"' = false := hp _ (by decide)
  rw [write, List.filter_cons, List.filter_append, filter_flatMap_escape hp, List.filter_singleton,
    hquote]
  simp

theorem newline_not_mem_write (s : List Char) : '\n' ∉ write s := by
  have hgraphic (c : Char) (hc : isGraphic c) : (c == '\n') = false := by
    have hne : c ≠ '\n' := fun h => absurd (h ▸ hc) (by decide)
    simpa using hne
  have hnone : (write s).filter (· == '\n') = [] := by
    rw [filter_write hgraphic, List.filter_eq_nil_iff]
    intro c _
    by_cases hc : c = '\n'
    · subst hc
      decide
    · simp [hc]
  intro h
  exact List.filter_eq_nil_iff.mp hnone _ h (by decide)

end Literal

namespace Numeral

theorem newline_not_mem_toText (ds : List Digit) : '\n' ∉ Digits.toText ds := by
  have hdigit : ∀ d : Digit, d.toChar ≠ '\n' := by decide
  intro h
  obtain ⟨d, _, hd⟩ := List.mem_map.mp h
  exact hdigit d hd

theorem newline_not_mem_write (n : Numeral) : '\n' ∉ n.write := by
  have hfraction : '\n' ∉ writeFraction n.fraction := by
    unfold writeFraction
    split
    · exact List.not_mem_nil
    · simp [newline_not_mem_toText]
  have hexponent : '\n' ∉ writeExponent n.exponent := by
    unfold writeExponent
    split
    · exact List.not_mem_nil
    · have hwhole := newline_not_mem_toText
      split <;> simp [Digits.write, hwhole]
  have hsign : '\n' ∉ (if n.negative then ['-'] else []) := by
    split <;> simp
  have hwhole : '\n' ∉ Digits.write n.whole := newline_not_mem_toText _
  simp [write, hsign, hwhole, hfraction, hexponent]

end Numeral

/-! ### Values -/

namespace Json
open Text (Hangs)

/-- What a line of pretty text other than the first begins with. -/
def IsMargin (c : Char) : Prop :=
  c = ' ' ∨ c = ']' ∨ c = '}'

theorem newline_not_mem_printText (s : Option String) : '\n' ∉ printText s := by
  cases s with
  | none => decide
  | some s => exact Literal.newline_not_mem_write _

theorem hangs_gap (m : Margin) {s : List Char} (hs : Hangs IsMargin s) :
    Hangs IsMargin (m.deeper.gap ++ s) := by
  cases m with
  | compact => exact hs
  | pretty depth =>
      have hblanks : Hangs IsMargin (List.replicate (2 * (depth + 1)) ' ') :=
        .of_not_mem (by simp)
      exact .append (.feed (.inl rfl) hblanks) hs

theorem hangs_close (m : Margin) {c : Char} (hc : IsMargin c) : Hangs IsMargin (m.gap ++ [c]) := by
  have hclose : Hangs IsMargin [c] := .of_not_mem (by
    rcases hc with rfl | rfl | rfl <;> decide)
  cases m with
  | compact => exact hclose
  | pretty depth =>
      cases depth with
      | zero => exact .feed hc hclose
      | succ depth => exact hangs_gap (.pretty depth) hclose

theorem hangs_colon (m : Margin) {s : List Char} (hs : Hangs IsMargin s) :
    Hangs IsMargin (m.colon ++ s) := by
  cases m with
  | compact => exact hs.cons (by decide)
  | pretty depth => exact (hs.cons (by decide)).cons (by decide)

theorem hangs_key (key : Option String) {s : List Char} (hs : Hangs IsMargin s) :
    Hangs IsMargin (printText key ++ s) :=
  .append (.of_not_mem (newline_not_mem_printText key)) hs

mutual

theorem hangs_print (m : Margin) : ∀ v : Json, Hangs IsMargin (print m v)
  | .null => .of_not_mem (by simp [print])
  | .bool true => .of_not_mem (by simp [print])
  | .bool false => .of_not_mem (by simp [print])
  | .number n => .of_not_mem n.newline_not_mem_write
  | .text s => .of_not_mem (newline_not_mem_printText s)
  | .array [] => .of_not_mem (by simp [print])
  | .array (v :: rest) => by
      have htail := (hangs_printValues m rest).append (hangs_close m (c := ']') (.inr (.inl rfl)))
      rw [print]
      exact .cons (by decide) (hangs_gap m ((hangs_print m.deeper v).append htail))
  | .object [] => .of_not_mem (by simp [print])
  | .object ((key, v) :: rest) => by
      have htail := (hangs_printMembers m rest).append (hangs_close m (c := '}') (.inr (.inr rfl)))
      have hvalue := (hangs_print m.deeper v).append htail
      rw [print]
      exact .cons (by decide) (hangs_gap m (hangs_key key (hangs_colon m hvalue)))

theorem hangs_printValues (m : Margin) :
    ∀ vs : List Json, Hangs IsMargin (printValues m.deeper vs)
  | [] => .of_not_mem List.not_mem_nil
  | v :: rest => by
      rw [printValues]
      exact .cons (by decide)
        (hangs_gap m ((hangs_print m.deeper v).append (hangs_printValues m rest)))

theorem hangs_printMembers (m : Margin) :
    ∀ members : List (Option String × Json), Hangs IsMargin (printMembers m.deeper members)
  | [] => .of_not_mem List.not_mem_nil
  | (key, v) :: rest => by
      have hvalue := (hangs_print m.deeper v).append (hangs_printMembers m rest)
      rw [printMembers]
      exact .cons (by decide) (hangs_gap m (hangs_key key (hangs_colon m.deeper hvalue)))

end

end Json

end Storyboard
