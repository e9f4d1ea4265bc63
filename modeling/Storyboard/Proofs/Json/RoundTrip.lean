import Mathlib
import Storyboard.Json.Reader
import Storyboard.Json.Printer
import Storyboard.Proofs.Json.Literal
import Storyboard.Proofs.Json.Numeral

/-!
Printing and parsing are inverse for every JSON value and every margin. The tokens of a value stand
between the two: printed text spells them, and the machine that takes them puts the value together.
-/

namespace Storyboard

namespace Json
open Numeral (Ends)

mutual

def tokens : Json → List Token
  | .null => [.null]
  | .bool b => [.bool b]
  | .number n => [.number n]
  | .text s => [.text s]
  | .array [] => [.openArray, .closeArray]
  | .array (v :: rest) => .openArray :: (tokens v ++ (valueTokens rest ++ [.closeArray]))
  | .object [] => [.openObject, .closeObject]
  | .object ((key, v) :: rest) =>
    .openObject :: .text key :: .colon :: (tokens v ++ (memberTokens rest ++ [.closeObject]))

/-- The tokens of the elements after the first. -/
def valueTokens : List Json → List Token
  | [] => []
  | v :: rest => .comma :: (tokens v ++ valueTokens rest)

/-- The tokens of the members after the first. -/
def memberTokens : List (Option String × Json) → List Token
  | [] => []
  | (key, v) :: rest => .comma :: .text key :: .colon :: (tokens v ++ memberTokens rest)

end

/-! ### Printed text spells the tokens -/

namespace Token

theorem all?_space {c : Char} (h : isSpace c) (rest : List Char) :
    all? (c :: rest) = all? rest := by
  rw [all?, if_pos h]

theorem all?_read? {c : Char} {s rest : List Char} {t : Token} (hc : isSpace c = false)
    (h : read? (c :: s) = some (t, rest)) : all? (c :: s) = (all? rest).map (t :: ·) := by
  rw [all?, if_neg (by rw [hc]; decide)]
  split
  · next hnone =>
      rw [h] at hnone
      cases hnone
  · next hsome =>
      rw [h] at hsome
      cases hsome
      rfl

theorem read?_digit (d : Digit) (s : List Char) :
    read? (d.toChar :: s) = (Numeral.read? (d.toChar :: s)).map fun (n, rest) => (.number n, rest) := by
  fin_cases d <;> rfl

theorem isSpace_digit (d : Digit) : isSpace d.toChar = false := by
  revert d
  decide

theorem all?_number (n : Numeral) {rest : List Char} (h : Ends rest) :
    all? (n.write ++ rest) = (all? rest).map (.number n :: ·) := by
  have hread := Numeral.read?_write n h
  obtain ⟨d, s, hs⟩ := Numeral.exists_write_eq_cons n.whole
  rw [Numeral.write, hs] at hread ⊢
  cases hsign : n.negative with
  | true =>
      simp only [hsign, if_true, List.cons_append, List.nil_append] at hread ⊢
      refine all?_read? rfl ?_
      change (Numeral.read? _).map _ = _
      rw [hread]
      rfl
  | false =>
      simp only [hsign, Bool.false_eq_true, if_false, List.nil_append, List.cons_append]
        at hread ⊢
      refine all?_read? (isSpace_digit d) ?_
      rw [read?_digit, hread]
      rfl

theorem read?_printText (s : Option String) (rest : List Char) :
    read? (printText s ++ rest) = some (.text s, rest) := by
  cases s with
  | none =>
      have hcode : Literal.readCode? 'd' '8' '0' '0' = some 0xD800 := by decide
      have hjoin : Literal.join? [.code 0xD800] = none := by decide
      simp [printText, read?, Literal.read?, Literal.readPieces?, hcode, hjoin]
  | some s =>
      simp only [printText, Literal.write, List.cons_append, List.append_assoc, List.nil_append,
        read?, Literal.read?_write, Option.map_some, String.ofList_toList]

end Token

/-- Whether a text has the tokens, in front of any text that does not extend a numeral. -/
def Spells (s : List Char) (ts : List Token) : Prop :=
  ∀ rest, Ends rest → Token.all? (s ++ rest) = (Token.all? rest).map (ts ++ ·)

namespace Spells

theorem nil : Spells [] [] := by
  intro rest _
  exact Option.map_id'.symm

theorem append {s s' : List Char} {ts ts' : List Token} (h : Spells s ts) (h' : Spells s' ts')
    (hs : Ends s') : Spells (s ++ s') (ts ++ ts') := by
  intro rest hrest
  rw [List.append_assoc, h _ (hs.append hrest), h' rest hrest, Option.map_map]
  simp only [List.append_assoc, Function.comp_def]

/-- A token that ends by itself, in front of a text with tokens. -/
theorem front {c : Char} {s s' : List Char} {t : Token} {ts : List Token}
    (hc : Token.isSpace c = false) (hread : ∀ rest, Token.read? (c :: (s ++ rest)) = some (t, rest))
    (h : Spells s' ts) : Spells (c :: (s ++ s')) (t :: ts) := by
  intro rest hrest
  have hall := Token.all?_read? hc (hread (s' ++ rest))
  rw [List.cons_append, List.append_assoc, hall, h rest hrest, Option.map_map]
  rfl

/-- A token that ends by itself. -/
theorem alone {c : Char} {s : List Char} {t : Token} (hc : Token.isSpace c = false)
    (hread : ∀ rest, Token.read? (c :: (s ++ rest)) = some (t, rest)) : Spells (c :: s) [t] := by
  have h := front hc hread nil
  rwa [List.append_nil] at h

theorem mark {c : Char} {s : List Char} {t : Token} {ts : List Token}
    (hc : Token.isSpace c = false) (hread : ∀ rest, Token.read? (c :: rest) = some (t, rest))
    (h : Spells s ts) : Spells (c :: s) (t :: ts) :=
  front (s := []) hc hread h

theorem text (key : Option String) {s : List Char} {ts : List Token} (h : Spells s ts) :
    Spells (printText key ++ s) (.text key :: ts) := by
  have hread := Token.read?_printText key
  cases key with
  | none => exact front rfl hread h
  | some key => exact front rfl hread h

theorem blanks (n : Nat) {s : List Char} {ts : List Token} (h : Spells s ts) :
    Spells (List.replicate n ' ' ++ s) ts := by
  intro rest hrest
  induction n with
  | zero => exact h rest hrest
  | succ n ih =>
      rw [List.replicate_succ, List.cons_append, List.cons_append, Token.all?_space rfl]
      exact ih

theorem gap (m : Margin) {s : List Char} {ts : List Token} (h : Spells s ts) :
    Spells (m.gap ++ s) ts := by
  cases m with
  | compact => exact h
  | pretty depth =>
      intro rest hrest
      rw [Margin.gap, List.cons_append, List.cons_append, Token.all?_space rfl]
      exact blanks _ h rest hrest

theorem colon (m : Margin) {s : List Char} {ts : List Token} (h : Spells s ts) :
    Spells (m.colon ++ s) (.colon :: ts) := by
  cases m with
  | compact => exact mark rfl (fun _ => rfl) h
  | pretty depth => exact mark rfl (fun _ => rfl) (blanks 1 h)

end Spells

theorem ends_gap (m : Margin) {s : List Char} (h : Ends s) : Ends (m.gap ++ s) := by
  cases m with
  | compact => exact h
  | pretty depth => exact .cons (by decide) _

theorem ends_printValues (m : Margin) (vs : List Json) : Ends (printValues m vs) := by
  cases vs with
  | nil => exact .nil
  | cons v vs =>
      rw [printValues]
      exact .cons (by decide) _

theorem ends_printMembers (m : Margin) (members : List (Option String × Json)) :
    Ends (printMembers m members) := by
  cases members with
  | nil => exact .nil
  | cons member members =>
      rw [printMembers]
      exact .cons (by decide) _

theorem spells_close {c : Char} {t : Token} (m : Margin) (hc : Token.isSpace c = false)
    (hread : ∀ rest, Token.read? (c :: rest) = some (t, rest)) : Spells (m.gap ++ [c]) [t] :=
  .gap m (.mark hc hread .nil)

mutual

theorem spells_print (m : Margin) : ∀ v : Json, Spells (print m v) (tokens v)
  | .null => .alone (s := ['u', 'l', 'l']) rfl fun _ => rfl
  | .bool true => .alone (s := ['r', 'u', 'e']) rfl fun _ => rfl
  | .bool false => .alone (s := ['a', 'l', 's', 'e']) rfl fun _ => rfl
  | .number n => fun _ hrest => Token.all?_number n hrest
  | .text s => by
      have h := Spells.text s .nil
      rwa [List.append_nil] at h
  | .array [] => .mark rfl (fun _ => rfl) (.mark rfl (fun _ => rfl) .nil)
  | .array (v :: rest) => by
      have hclose : Ends (m.gap ++ [']']) := ends_gap m (.cons (by decide) [])
      have htail := (spells_printValues m.deeper rest).append
        (spells_close m rfl fun _ => rfl) hclose
      have hvalue := (spells_print m.deeper v).append htail
        ((ends_printValues m.deeper rest).append hclose)
      rw [print, tokens]
      exact .mark rfl (fun _ => rfl) (.gap m.deeper hvalue)
  | .object [] => .mark rfl (fun _ => rfl) (.mark rfl (fun _ => rfl) .nil)
  | .object ((key, v) :: rest) => by
      have hclose : Ends (m.gap ++ ['}']) := ends_gap m (.cons (by decide) [])
      have htail := (spells_printMembers m.deeper rest).append
        (spells_close m rfl fun _ => rfl) hclose
      have hvalue := (spells_print m.deeper v).append htail
        ((ends_printMembers m.deeper rest).append hclose)
      rw [print, tokens]
      exact .mark rfl (fun _ => rfl) (.gap m.deeper (.text key (.colon m hvalue)))

theorem spells_printValues (m : Margin) :
    ∀ vs : List Json, Spells (printValues m vs) (valueTokens vs)
  | [] => .nil
  | v :: rest => by
      have hvalue := (spells_print m v).append (spells_printValues m rest) (ends_printValues m rest)
      rw [printValues, valueTokens]
      exact .mark rfl (fun _ => rfl) (.gap m hvalue)

theorem spells_printMembers (m : Margin) :
    ∀ members : List (Option String × Json), Spells (printMembers m members) (memberTokens members)
  | [] => .nil
  | (key, v) :: rest => by
      have hvalue :=
        (spells_print m v).append (spells_printMembers m rest) (ends_printMembers m rest)
      rw [printMembers, memberTokens]
      exact .mark rfl (fun _ => rfl) (.gap m (.text key (.colon m hvalue)))

end

/-! ### The machine puts the value together -/

namespace Machine

/-- An element that comes first in its array is read like any other value. -/
theorem run?_elementOrClose (v : Json) (frames : List Frame) (rest : List Token) :
    run? ⟨frames, .elementOrClose⟩ (tokens v ++ rest) = run? ⟨frames, .value⟩ (tokens v ++ rest) := by
  cases v with
  | null | bool b | number n | text s => rfl
  | array values => cases values <;> rfl
  | object members => cases members <;> rfl

mutual

theorem run?_tokens : ∀ (v : Json) (frames : List Frame) (rest : List Token),
    run? ⟨frames, .value⟩ (tokens v ++ rest) = (put v frames).bind (run? · rest)
  | .null, _, _ | .bool _, _, _ | .number _, _, _ | .text _, _, _ => rfl
  | .array [], _, _ | .object [], _, _ => rfl
  | .array (v :: values), frames, rest => by
      have hvalues := run?_valueTokens values [v] frames rest
      rw [tokens, List.cons_append, List.append_assoc, List.append_assoc]
      change run? ⟨.array [] :: frames, .elementOrClose⟩ _ = _
      rw [run?_elementOrClose, run?_tokens v]
      exact hvalues
  | .object ((key, v) :: members), frames, rest => by
      have hmembers := run?_memberTokens members [(key, v)] frames rest
      rw [tokens, List.cons_append, List.cons_append, List.cons_append, List.append_assoc,
        List.append_assoc]
      change run? ⟨.member [] key :: frames, .value⟩ _ = _
      rw [run?_tokens v]
      exact hmembers

/-- The elements that are still to come, and the end of the array. -/
theorem run?_valueTokens : ∀ (values done : List Json) (frames : List Frame) (rest : List Token),
    run? ⟨.array done :: frames, .separator⟩ (valueTokens values ++ (.closeArray :: rest)) =
      (put (.array (done.reverse ++ values)) frames).bind (run? · rest)
  | [], done, frames, rest => by
      rw [List.append_nil]
      rfl
  | v :: values, done, frames, rest => by
      have hvalues := run?_valueTokens values (v :: done) frames rest
      rw [List.reverse_cons, List.append_assoc] at hvalues
      rw [valueTokens, List.cons_append, List.append_assoc]
      change run? ⟨.array done :: frames, .value⟩ _ = _
      rw [run?_tokens v]
      exact hvalues

/-- The members that are still to come, and the end of the object. -/
theorem run?_memberTokens : ∀ (members done : List (Option String × Json)) (frames : List Frame)
    (rest : List Token),
    run? ⟨.object done :: frames, .separator⟩ (memberTokens members ++ (.closeObject :: rest)) =
      (put (.object (done.reverse ++ members)) frames).bind (run? · rest)
  | [], done, frames, rest => by
      rw [List.append_nil]
      rfl
  | (key, v) :: members, done, frames, rest => by
      have hmembers := run?_memberTokens members ((key, v) :: done) frames rest
      rw [List.reverse_cons, List.append_assoc] at hmembers
      rw [memberTokens, List.cons_append, List.cons_append, List.cons_append, List.append_assoc]
      change run? ⟨.member done key :: frames, .value⟩ _ = _
      rw [run?_tokens v]
      exact hmembers

end

end Machine

theorem all?_print (m : Margin) (v : Json) : Token.all? (print m v) = some (tokens v) := by
  have h := spells_print m v [] .nil
  rw [List.append_nil] at h
  rw [h, Token.all?, Option.map_some, List.append_nil]

/-- What is printed is parsed as the value it was printed from. -/
theorem parse?_print (m : Margin) (v : Json) : parse? (print m v) = some v := by
  have hrun := Machine.run?_tokens v [] []
  rw [List.append_nil] at hrun
  rw [parse?, all?_print, Option.bind_eq_bind, Option.bind_some, Machine.start, hrun]
  rfl

end Json

end Storyboard
