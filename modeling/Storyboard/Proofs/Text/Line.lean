import Mathlib
import Storyboard.Text.Line

/-!
Lines told by splitting: the pieces between line feeds, each of which but the last loses one
carriage return at its end. The last piece is a line only if there is something in it. So a text is
lines with their ends and one without, and line feeds count the lines that are ended.
-/

namespace Storyboard.Text

/-- A line without one carriage return at its end. -/
def dropReturn (line : List Char) : List Char :=
  if line.getLast? = some '\r' then line.dropLast else line

/-- The lines of a text, by splitting at line feeds. -/
def splitLines (s : List Char) : List (List Char) :=
  (s.splitOn '\n').dropLast.map dropReturn ++ (s.splitOn '\n').getLast?.toList.filter (· ≠ [])

theorem dropReturn_cons {c d : Char} (line : List Char) :
    dropReturn (c :: d :: line) = c :: dropReturn (d :: line) := by
  unfold dropReturn
  rw [List.getLast?_cons_cons, List.dropLast_cons_cons]
  split <;> rfl

/-- The default way of taking a character: it joins the line that follows. -/
theorem lines_cons {c : Char} {rest : List Char} (hc : c ≠ '\n')
    (hr : c = '\r' → rest.head? ≠ some '\n') :
    lines (c :: rest) =
      match lines rest with
      | [] => [[c]]
      | line :: others => (c :: line) :: others := by
  rw [lines.eq_def]
  split
  · next h => cases h
  · next h =>
      cases h
      exact absurd rfl hc
  · next h =>
      cases h
      exact absurd rfl (hr rfl)
  · next h =>
      cases h
      rfl

theorem lines_append_newline {line : List Char} (h : '\n' ∉ line) (rest : List Char) :
    lines (line ++ '\n' :: rest) = dropReturn line :: lines rest := by
  induction line with
  | nil => exact lines_newline rest
  | cons c line ih =>
      have hc : c ≠ '\n' := fun e => h (e ▸ List.mem_cons_self)
      have later := ih fun hm => h (List.mem_cons_of_mem _ hm)
      cases line with
      | nil =>
          by_cases hr : c = '\r'
          · subst hr
            simp [lines, dropReturn]
          · rw [List.cons_append, lines_cons hc fun e => absurd e hr, later]
            simp [dropReturn, hr]
      | cons d line =>
          have hd : d ≠ '\n' := fun e => h (e ▸ List.mem_cons_of_mem _ List.mem_cons_self)
          rw [List.cons_append, lines_cons hc fun _ => by simpa using hd, later, dropReturn_cons]

theorem lines_of_not_mem {line : List Char} (h : '\n' ∉ line) (hne : line ≠ []) :
    lines line = [line] := by
  induction line with
  | nil => exact absurd rfl hne
  | cons c line ih =>
      have hc : c ≠ '\n' := fun e => h (e ▸ List.mem_cons_self)
      have hrest : '\n' ∉ line := fun hm => h (List.mem_cons_of_mem _ hm)
      have hhead : line.head? ≠ some '\n' := fun e => hrest (List.mem_of_head? e)
      rw [lines_cons hc fun _ => hhead]
      cases line with
      | nil => rfl
      | cons d line => rw [ih hrest (List.cons_ne_nil d line)]

theorem lines_eq_splitLines (s : List Char) : lines s = splitLines s := by
  induction hn : s.length using Nat.strongRecOn generalizing s with
  | ind n ih =>
      by_cases hs : '\n' ∈ s
      · obtain ⟨line, rest, rfl, hline⟩ := List.eq_append_cons_of_mem hs
        have hshort : rest.length < n := by
          rw [← hn, List.length_append, List.length_cons]
          omega
        have hpieces := List.splitOn_ne_nil '\n' rest
        rw [lines_append_newline hline, ih _ hshort rest rfl, splitLines, splitLines,
          List.splitOn_append_cons_self_of_not_mem hline, List.dropLast_cons_of_ne_nil hpieces,
          List.getLast?_cons_of_ne_nil hpieces, List.map_cons, List.cons_append]
      · rw [splitLines, List.splitOn_eq_singleton hs]
        cases s with
        | nil => rfl
        | cons c s =>
            rw [lines_of_not_mem hs (List.cons_ne_nil c s)]
            rfl

/-! ### Lines with their ends -/

/-- Lines, each with a line feed behind it. -/
def ended (ls : List (List Char)) : List Char :=
  ls.flatMap (· ++ ['\n'])

/-- Every text is made of lines that are ended and a last one that is not. -/
theorem exists_ended (s : List Char) :
    ∃ ls last, (∀ l ∈ ls, '\n' ∉ l) ∧ '\n' ∉ last ∧ s = ended ls ++ last := by
  induction s with
  | nil => exact ⟨[], [], by simp, by simp, rfl⟩
  | cons c s ih =>
      obtain ⟨ls, last, hls, hlast, rfl⟩ := ih
      by_cases hc : c = '\n'
      · subst hc
        exact ⟨[] :: ls, last, by simpa using hls, hlast, rfl⟩
      · cases ls with
        | nil => exact ⟨[], c :: last, by simp, by simp [Ne.symm hc, hlast], rfl⟩
        | cons l ls =>
            have hl := hls l List.mem_cons_self
            refine ⟨(c :: l) :: ls, last, ?_, hlast, by simp [ended]⟩
            rw [List.forall_mem_cons] at hls ⊢
            exact ⟨by simp [Ne.symm hc, hl], hls.2⟩

theorem lines_ended {ls : List (List Char)} (h : ∀ l ∈ ls, '\n' ∉ l) (rest : List Char) :
    lines (ended ls ++ rest) = ls.map dropReturn ++ lines rest := by
  induction ls with
  | nil => rfl
  | cons l ls ih =>
      rw [List.forall_mem_cons] at h
      rw [ended, List.flatMap_cons, List.append_assoc, List.append_assoc, List.singleton_append,
        lines_append_newline h.1, List.map_cons, List.cons_append]
      exact congrArg _ (ih h.2)

theorem count_ended {ls : List (List Char)} (h : ∀ l ∈ ls, '\n' ∉ l) :
    (ended ls).count '\n' = ls.length := by
  induction ls with
  | nil => rfl
  | cons l ls ih =>
      rw [List.forall_mem_cons] at h
      have hl : l.count '\n' = 0 := List.count_eq_zero_of_not_mem h.1
      rw [ended, List.flatMap_cons, List.count_append, List.count_append, hl]
      change 0 + 1 + (ended ls).count '\n' = _
      rw [ih h.2, List.length_cons]
      omega

theorem splitOn_ended (ls : List (List Char)) (rest : List Char) :
    (ended ls ++ rest).splitOn '\n' = ls.flatMap (·.splitOn '\n') ++ rest.splitOn '\n' := by
  induction ls with
  | nil => rfl
  | cons l ls ih =>
      rw [ended, List.flatMap_cons, List.append_assoc, List.append_assoc, List.singleton_append,
        List.splitOn_append_cons_self, List.flatMap_cons, List.append_assoc]
      exact congrArg _ ih

/-! ### Hanging lines -/

/-- A text that ends in no line feed, and in which every line feed is followed by a character of
some kind. -/
structure Hangs (kind : Char → Prop) (s : List Char) : Prop where
  follows : s.IsChain fun c d => c = '\n' → kind d
  ends : s.getLast? ≠ some '\n'

namespace Hangs

variable {kind : Char → Prop} {s t : List Char}

theorem of_not_mem (h : '\n' ∉ s) : Hangs kind s := by
  refine ⟨?_, fun hlast => h (List.mem_of_getLast? hlast)⟩
  induction s with
  | nil => exact .nil
  | cons c s ih =>
      rw [List.mem_cons, not_or] at h
      exact .cons (ih h.2) fun _ _ hc => absurd hc.symm h.1

theorem append (hs : Hangs kind s) (ht : Hangs kind t) : Hangs kind (s ++ t) := by
  refine ⟨List.isChain_append.mpr ⟨hs.follows, ht.follows, ?_⟩, ?_⟩
  · rintro c hc d - rfl
    exact absurd hc hs.ends
  · have hlast := ht.ends
    rw [List.getLast?_append]
    cases ht : t.getLast? with
    | none => exact hs.ends
    | some c =>
        rw [ht] at hlast
        exact hlast

theorem mono {kind' : Char → Prop} (h : ∀ c, kind c → kind' c) (hs : Hangs kind s) :
    Hangs kind' s :=
  ⟨hs.follows.imp fun _ d hd hc => h d (hd hc), hs.ends⟩

theorem cons {c : Char} (hc : c ≠ '\n') (hs : Hangs kind s) : Hangs kind (c :: s) := by
  have hfront : Hangs kind [c] := of_not_mem (by simpa using Ne.symm hc)
  exact hfront.append hs

/-- Behind a line feed, what begins with a character of the kind. -/
theorem feed {d : Char} (hd : kind d) (hs : Hangs kind (d :: s)) :
    Hangs kind ('\n' :: d :: s) := by
  refine ⟨.cons_cons (fun _ => hd) hs.follows, ?_⟩
  rw [List.getLast?_cons_cons]
  exact hs.ends

/-- Every line but the first begins with a character of the kind. -/
theorem head_of_mem_tail (hs : Hangs kind s) (hkind : ¬ kind '\n') :
    ∀ l ∈ (s.splitOn '\n').tail, ∃ c, l.head? = some c ∧ kind c := by
  induction s with
  | nil => exact List.forall_mem_nil _
  | cons c s ih =>
      rw [List.splitOn_cons_eq_if_modifyHead]
      cases s with
      | nil =>
          have hc : c ≠ '\n' := fun hc => hs.ends (hc ▸ rfl)
          rw [if_neg (by simpa using hc)]
          exact List.forall_mem_nil _
      | cons d s =>
          have hrest : Hangs kind (d :: s) := by
            refine ⟨hs.follows.of_cons, fun hlast => hs.ends ?_⟩
            rwa [List.getLast?_cons_cons]
          have htail := ih hrest
          by_cases hc : c = '\n'
          · have hd : kind d := (List.isChain_cons_cons.mp hs.follows).1 hc
            have hne : d ≠ '\n' := fun h => hkind (h ▸ hd)
            obtain ⟨first, others, hsplit⟩ := List.exists_cons_of_ne_nil
              (List.splitOn_ne_nil '\n' s)
            rw [if_pos (by simpa using hc), List.tail_cons]
            rw [List.splitOn_cons_eq_if_modifyHead, if_neg (by simpa using hne), hsplit,
              List.modifyHead_cons] at htail ⊢
            exact List.forall_mem_cons.mpr ⟨⟨d, rfl, hd⟩, htail⟩
          · rw [if_neg (by simpa using hc), List.tail_modifyHead]
            exact htail

end Hangs

end Storyboard.Text
