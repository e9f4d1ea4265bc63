import Mathlib
import Storyboard.Proofs.Script.Blocks
import Storyboard.Proofs.Text.Blank
import Storyboard.Proofs.Text.Line

/-!
Scripts that differ in their layout only. Blanks at the ends of lines, the kind of line ends, tabs
that indent, blank lines and comments may be changed at will: the script describes the same
timeline, or fails on the same line.
-/

namespace Storyboard.Script
open Text (isBlank indent trim trimEnd trimStart lines dropReturn ended)

/-! ### Lines as they are understood -/

/-- A character of an indentation as it is understood. -/
def untab (c : Char) : List Char :=
  if c = '\t' then [' ', ' '] else [c]

theorem normalize_eq (raw : List Char) :
    normalize raw = (indent (trimEnd raw)).flatMap untab ++ trimStart (trimEnd raw) :=
  rfl

variable {before s rest : List Char}

theorem normalize_append_of_blank (hrest : ∀ c ∈ rest, isBlank c = true) :
    normalize (s ++ rest) = normalize s := by
  rw [normalize_eq, Text.trimEnd_append_of_blank hrest, ← normalize_eq]

theorem normalize_of_blank (hs : ∀ c ∈ s, isBlank c = true) : normalize s = [] := by
  rw [normalize_eq, Text.trimEnd_of_blank hs]
  rfl

theorem normalize_indented (hbefore : ∀ c ∈ before, isBlank c = true) (hs : trimEnd s ≠ []) :
    normalize (before ++ s) = before.flatMap untab ++ normalize s := by
  rw [normalize_eq, normalize_eq, Text.trimEnd_append_of_ne_nil hs, indent, trimStart,
    List.takeWhile_append_of_pos hbefore, List.dropWhile_append_of_pos hbefore,
    List.flatMap_append, List.append_assoc]
  rfl

theorem normalize_cons {c : Char} (hc : isBlank c = false) (s : List Char) :
    normalize (c :: s) = c :: trimEnd s := by
  have hc' : ¬ isBlank c = true := by simp [hc]
  rw [normalize_eq, Text.trimEnd_cons hc, indent, trimStart, List.takeWhile_cons_of_neg hc',
    List.dropWhile_cons_of_neg hc']
  rfl

/-- What neither begins nor ends with a blank stays as it is. -/
theorem normalize_of_trimmed (hhead : ∀ c ∈ s.head?, isBlank c = false) (hs : trimEnd s = s) :
    normalize s = s := by
  rcases s with _ | ⟨c, s⟩
  · rfl
  · have hc := hhead c rfl
    rw [normalize_cons hc, ← Text.trimEnd_cons hc, hs]

theorem normalize_dropReturn (line : List Char) :
    normalize (dropReturn line) = normalize line := by
  unfold dropReturn
  split
  · next hlast =>
      obtain ⟨line, rfl⟩ := List.getLast?_eq_some_iff.mp hlast
      rw [List.dropLast_concat]
      exact (normalize_append_of_blank (by simpa using by decide)).symm
  · rfl

theorem normalize_tab (hbefore : ∀ c ∈ before, isBlank c = true) (s : List Char) :
    normalize (before ++ ' ' :: ' ' :: s) = normalize (before ++ '\t' :: s) := by
  have hspaces : ∀ c ∈ before ++ [' ', ' '], isBlank c = true := by
    simpa [or_imp, forall_and] using ⟨hbefore, by decide⟩
  have htab : ∀ c ∈ before ++ ['\t'], isBlank c = true := by
    simpa [or_imp, forall_and] using ⟨hbefore, by decide⟩
  rw [show before ++ ' ' :: ' ' :: s = before ++ [' ', ' '] ++ s by simp,
    show before ++ '\t' :: s = before ++ ['\t'] ++ s by simp]
  by_cases hs : trimEnd s = []
  · obtain ⟨tail, htail, hsplit⟩ := Text.exists_trimEnd s
    rw [hs, List.nil_append] at hsplit
    subst hsplit
    rw [normalize_append_of_blank htail, normalize_append_of_blank htail,
      normalize_of_blank hspaces, normalize_of_blank htab]
  · rw [normalize_indented hspaces hs, normalize_indented htab hs, List.flatMap_append,
      List.flatMap_append]
    rfl

/-- A line without content, or with a comment only. -/
def IsIdle (line : List Char) : Prop :=
  ∃ lead, (∀ c ∈ lead, isBlank c = true) ∧ (line = lead ∨ ∃ comment, line = lead ++ '#' :: comment)

theorem isBlank_untab {c : Char} (hc : isBlank c = true) : ∀ d ∈ untab c, isBlank d = true := by
  intro d hd
  unfold untab at hd
  split at hd
  · obtain rfl : d = ' ' := by simpa using hd
    decide
  · obtain rfl : d = c := by simpa using hd
    exact hc

theorem isBlank_flatMap_untab (hs : ∀ c ∈ s, isBlank c = true) :
    ∀ c ∈ s.flatMap untab, isBlank c = true := by
  simp only [List.mem_flatMap]
  rintro c ⟨d, hd, hc⟩
  exact isBlank_untab (hs d hd) c hc

theorem statement?_of_isIdle {line : List Char} (h : IsIdle line) :
    statement? line = some .blank := by
  obtain ⟨lead, hlead, rfl | ⟨comment, rfl⟩⟩ := h
  · rw [statement?, normalize_of_blank hlead]
    rfl
  · have hlead' := isBlank_flatMap_untab hlead
    have hmark : isBlank '#' = false := by decide
    have htrim : trim (normalize (lead ++ '#' :: comment)) = '#' :: trimEnd (trimEnd comment) := by
      rw [normalize_indented hlead (by simp [Text.trimEnd_cons hmark]), normalize_cons hmark, trim,
        trimStart, List.dropWhile_append_of_pos hlead',
        List.dropWhile_cons_of_neg (by simp [hmark]), Text.trimEnd_cons hmark]
    have hblank : Statement.blankLine (normalize (lead ++ '#' :: comment)) = some .blank := by
      rw [Statement.blankLine, htrim]
      rfl
    rw [statement?, Statement.ofLine?, Statement.rules, List.findSome?_cons, hblank]

/-! ### Results that stay the same -/

/-- The same success, or a failure on a line of the same content whose number is told by a
function of the old one. -/
structure Kept {α : Type} (f : Nat → Nat) (r r' : Except Error α) : Prop where
  ok : ∀ a, r = .ok a → r' = .ok a
  error : ∀ e, r = .error e → ∃ n raw raw', e = .badLine n raw ∧
    r' = .error (.badLine (f n) raw') ∧ normalize raw'.toList = normalize raw.toList

namespace Kept

variable {α β : Type} {f g : Nat → Nat} {r r' r'' : Except Error α}

theorem map (h : Kept f r r') (map : α → β) : Kept f (r.map map) (r'.map map) where
  ok := by
    intro b hb
    cases r with
    | error e => cases hb
    | ok a =>
        rw [h.ok a rfl]
        exact hb
  error := by
    intro e he
    cases r with
    | ok a => cases he
    | error e' =>
        cases he
        obtain ⟨n, raw, raw', rfl, hr', hraw⟩ := h.error e rfl
        exact ⟨n, raw, raw', rfl, by rw [hr']; rfl, hraw⟩

theorem trans (h : Kept f r r') (h' : Kept g r' r'') : Kept (g ∘ f) r r'' where
  ok := fun a ha => h'.ok a (h.ok a ha)
  error := by
    intro e he
    obtain ⟨n, raw, raw', rfl, hr', hraw⟩ := h.error e he
    obtain ⟨_, _, raw'', heq, hr'', hraw'⟩ := h'.error _ hr'
    cases heq
    exact ⟨n, raw, raw'', rfl, hr'', hraw'.trans hraw⟩

end Kept

variable {d : Draft} {ls rest : List (List Char)} {line line' : List Char}

/-- The same lines under other numbers. -/
theorem kept_move {f : Nat → Nat} {number k : Nat}
    (hf : ∀ n, number ≤ n → n < number + ls.length → f n = n + k) :
    Kept f (compileLines number d ls) (compileLines (number + k) d ls) := by
  induction ls generalizing number d with
  | nil => exact ⟨fun _ h => h, by simp [compileLines]⟩
  | cons raw ls ih =>
      rw [List.length_cons] at hf
      rw [compileLines_cons, compileLines_cons]
      cases (statement? raw).bind d.take with
      | none =>
          refine ⟨by simp, fun e he => ?_⟩
          cases he
          exact ⟨number, _, _, rfl, by rw [hf number (by omega) (by omega)], rfl⟩
      | some d' =>
          rw [Nat.add_right_comm]
          exact ih fun n hn hlt => hf n (by omega) (by omega)

/-- A change behind lines matters only if these are taken. -/
theorem kept_behind {f : Nat → Nat} {number : Nat} {rest' : List (List Char)}
    (hf : ∀ n, n < number + ls.length → f n = n)
    (h : ∀ d', Kept f (compileLines (number + ls.length) d' rest)
      (compileLines (number + ls.length) d' rest')) :
    Kept f (compileLines number d (ls ++ rest)) (compileLines number d (ls ++ rest')) := by
  rw [compileLines_append, compileLines_append]
  have hls : Kept f (compileLines number d ls) (compileLines (number + 0) d ls) :=
    kept_move fun n _ hn => hf n hn
  cases hd : compileLines number d ls with
  | ok d' => exact h d'
  | error e =>
      rw [Nat.add_zero, hd] at hls
      exact hls

theorem kept_line (hline : normalize line' = normalize line) (number : Nat) :
    Kept id (compileLines number d (ls ++ line :: rest))
      (compileLines number d (ls ++ line' :: rest)) := by
  refine kept_behind (fun _ _ => rfl) fun d' => ?_
  rw [compileLines_cons, compileLines_cons, statement?, statement?, hline]
  cases (Statement.ofLine? (normalize line)).bind d'.take with
  | none =>
      refine ⟨by simp, fun e he => ?_⟩
      cases he
      exact ⟨_, _, _, rfl, rfl, by simpa using hline⟩
  | some next => exact kept_move (k := 0) fun _ _ _ => rfl

/-- The number of a line once another one has come in behind the first few. -/
def skip (k n : Nat) : Nat :=
  if n ≤ k then n else n + 1

theorem kept_insert (hline : statement? line = some .blank) :
    Kept (skip ls.length) (compileLines 1 d (ls ++ rest))
      (compileLines 1 d (ls ++ line :: rest)) := by
  refine kept_behind (fun n hn => if_pos (by omega)) fun d' => ?_
  rw [compileLines_cons, hline]
  exact kept_move fun n hn _ => if_neg (by omega)

theorem kept_insert_last (hline : statement? line = some .blank) (number : Nat) :
    Kept id (compileLines number d ls) (compileLines number d (ls ++ [line])) := by
  have h : Kept id (compileLines number d (ls ++ [])) (compileLines number d (ls ++ [line])) := by
    refine kept_behind (fun _ _ => rfl) fun d' => ?_
    rw [compileLines_cons, hline]
    exact ⟨fun _ h => h, by simp [compileLines]⟩
  rwa [List.append_nil] at h

/-! ### Changes of layout -/

/-- A line begins behind the text. -/
def AtLineStart (before : List Char) : Prop :=
  ∀ c ∈ before.getLast?, c = '\n'

/-- A line ends before the text. -/
def AtLineEnd (rest : List Char) : Prop :=
  rest = [] ∨ (∃ s, rest = '\n' :: s) ∨ ∃ s, rest = '\r' :: '\n' :: s

/-- One change of the layout, and what it makes of the numbers of lines. -/
inductive Edit : List Char → List Char → (Nat → Nat) → Prop
  /-- Blanks come to stand at the end of a line. -/
  | blanks {before s rest : List Char} (hs : ∀ c ∈ s, isBlank c = true ∧ c ≠ '\n')
    (hrest : AtLineEnd rest) : Edit (before ++ rest) (before ++ (s ++ rest)) id
  /-- A line feed gets a carriage return. -/
  | carriageReturn (before rest : List Char) :
    Edit (before ++ '\n' :: rest) (before ++ '\r' :: '\n' :: rest) id
  /-- A tab in an indentation gives way to two spaces. -/
  | tab {before lead rest : List Char} (hbefore : AtLineStart before)
    (hlead : ∀ c ∈ lead, isBlank c = true ∧ c ≠ '\n') :
    Edit (before ++ (lead ++ '\t' :: rest)) (before ++ (lead ++ ' ' :: ' ' :: rest)) id
  /-- A line that says nothing comes in; the lines before it keep their numbers. -/
  | line {before line rest : List Char} (hbefore : AtLineStart before) (hline : IsIdle line)
    (hfeed : '\n' ∉ line) :
    Edit (before ++ rest) (before ++ (line ++ '\n' :: rest)) (skip (before.count '\n'))
  /-- A line that says nothing and is not ended comes in behind all lines. -/
  | lastLine {before line : List Char} (hbefore : AtLineStart before) (hline : IsIdle line)
    (hfeed : '\n' ∉ line) : Edit before (before ++ line) id
  /-- The same behind a last line that is not ended itself. -/
  | behind {before line : List Char} (hline : IsIdle line) (hfeed : '\n' ∉ line) :
    Edit before (before ++ '\n' :: line) id

/-- Any number of such changes. -/
inductive Edits : List Char → List Char → (Nat → Nat) → Prop
  | none (s : List Char) : Edits s s id
  | more {s s' s'' : List Char} {f g : Nat → Nat} (some : Edits s s' f) (one : Edit s' s'' g) :
    Edits s s'' (g ∘ f)

theorem AtLineStart.exists_ended (h : AtLineStart before) :
    ∃ ls, (∀ l ∈ ls, '\n' ∉ l) ∧ before = ended ls := by
  obtain ⟨ls, last, hls, hlast, rfl⟩ := Text.exists_ended before
  rcases List.eq_nil_or_concat' last with rfl | ⟨front, c, rfl⟩
  · exact ⟨ls, hls, List.append_nil _⟩
  · obtain rfl := h c (by simp)
    exact absurd (by simp) hlast

theorem statement?_dropReturn (line : List Char) :
    statement? (dropReturn line) = statement? line := by
  rw [statement?, statement?, normalize_dropReturn]

section
variable {ls : List (List Char)} (hls : ∀ l ∈ ls, '\n' ∉ l) {line line' : List Char}
  (hfeed : '\n' ∉ line)

include hls hfeed

theorem kept_ended (hfeed' : '\n' ∉ line') (hline : normalize line' = normalize line)
    (rest : List Char) :
    Kept id (compileLines 1 .empty (lines (ended ls ++ (line ++ '\n' :: rest))))
      (compileLines 1 .empty (lines (ended ls ++ (line' ++ '\n' :: rest)))) := by
  rw [Text.lines_ended hls, Text.lines_ended hls, Text.lines_append_newline hfeed,
    Text.lines_append_newline hfeed']
  exact kept_line (by rw [normalize_dropReturn, normalize_dropReturn, hline]) 1

theorem kept_not_ended (hne : line ≠ []) (hfeed' : '\n' ∉ line') (hne' : line' ≠ [])
    (hline : normalize line' = normalize line) :
    Kept id (compileLines 1 .empty (lines (ended ls ++ line)))
      (compileLines 1 .empty (lines (ended ls ++ line'))) := by
  rw [Text.lines_ended hls, Text.lines_ended hls, Text.lines_of_not_mem hfeed hne,
    Text.lines_of_not_mem hfeed' hne']
  exact kept_line hline 1

end

theorem kept_lines {ls : List (List Char)} {line : List Char} (hfeed : '\n' ∉ line)
    (hline : IsIdle line) :
    Kept id (compileLines 1 .empty ls) (compileLines 1 .empty (ls ++ lines line)) := by
  by_cases hne : line = []
  · subst hne
    rw [Text.lines_nil, List.append_nil]
    exact kept_move (k := 0) fun _ _ _ => rfl
  · rw [Text.lines_of_not_mem hfeed hne]
    exact kept_insert_last (statement?_of_isIdle hline) 1

/-- Blanks at the end of a line are not told from the end of the line. -/
theorem kept_blanks {before s rest : List Char} (hs : ∀ c ∈ s, isBlank c = true ∧ c ≠ '\n')
    (hrest : AtLineEnd rest) :
    Kept id (compileLines 1 .empty (lines (before ++ rest)))
      (compileLines 1 .empty (lines (before ++ (s ++ rest)))) := by
  obtain ⟨ls, last, hls, hlast, rfl⟩ := Text.exists_ended before
  have hfeed : '\n' ∉ s := fun hmem => (hs _ hmem).2 rfl
  have hblank : ∀ c ∈ s, isBlank c = true := fun c hc => (hs c hc).1
  have hfeed' : '\n' ∉ last ++ s := by simp [hlast, hfeed]
  have hline : normalize (last ++ s) = normalize last := normalize_append_of_blank hblank
  rcases hrest with rfl | ⟨t, rfl⟩ | ⟨t, rfl⟩
  · rw [List.append_nil, List.append_nil, List.append_assoc]
    -- Behind the last line feed, blanks make a line of their own.
    by_cases hne : last = []
    · subst hne
      rw [Text.lines_ended hls, Text.lines_ended hls]
      simpa using kept_lines hfeed ⟨s, hblank, .inl rfl⟩
    · exact kept_not_ended hls hlast hne hfeed' (by simp [hne]) hline
  · rw [List.append_assoc, List.append_assoc, ← List.append_assoc last]
    exact kept_ended hls hlast hfeed' hline t
  · have hreturn : ∀ c ∈ ['\r'], isBlank c = true := by simpa using by decide
    have hline' : normalize (last ++ s ++ ['\r']) = normalize (last ++ ['\r']) := by
      rw [normalize_append_of_blank hreturn, normalize_append_of_blank hreturn, hline]
    have h := kept_ended hls (by simpa using hlast) (by simpa using hfeed') hline' t
    simpa using h

/-- A last line is ended by the line that says nothing behind it. -/
theorem kept_not_ended_behind {before line : List Char} (hline : IsIdle line)
    (hfeed : '\n' ∉ line) :
    Kept id (compileLines 1 .empty (lines before))
      (compileLines 1 .empty (lines (before ++ '\n' :: line))) := by
  obtain ⟨ls, last, hls, hlast, rfl⟩ := Text.exists_ended before
  rw [List.append_assoc, Text.lines_ended hls, Text.lines_ended hls,
    Text.lines_append_newline hlast]
  have hended : Kept id (compileLines 1 .empty (ls.map dropReturn ++ lines last))
      (compileLines 1 .empty (ls.map dropReturn ++ [dropReturn last])) := by
    by_cases hne : last = []
    · subst hne
      rw [Text.lines_nil, List.append_nil]
      exact kept_insert_last rfl 1
    · rw [Text.lines_of_not_mem hlast hne]
      exact kept_line (normalize_dropReturn last) 1
  have hbehind := hended.trans (kept_lines hfeed hline)
  rwa [List.append_assoc, List.singleton_append] at hbehind

theorem kept_edit {s s' : List Char} {f : Nat → Nat} (h : Edit s s' f) :
    Kept f (compileLines 1 .empty (lines s)) (compileLines 1 .empty (lines s')) := by
  cases h with
  | blanks hs hrest => exact kept_blanks hs hrest
  | carriageReturn before rest =>
      obtain ⟨ls, last, hls, hlast, rfl⟩ := Text.exists_ended before
      have hline : normalize (last ++ ['\r']) = normalize last :=
        normalize_append_of_blank (by simpa using by decide)
      have h := kept_ended hls hlast (by simpa using hlast) hline rest
      simpa using h
  | @tab before lead rest hbefore hlead =>
      obtain ⟨ls, hls, rfl⟩ := hbefore.exists_ended
      have hfeed : '\n' ∉ lead := fun hmem => (hlead _ hmem).2 rfl
      have hline := normalize_tab fun c hc => (hlead c hc).1
      -- The line goes on to the next line feed, if there is one.
      by_cases hrest : '\n' ∈ rest
      · obtain ⟨line, rest, rfl, hend⟩ := List.eq_append_cons_of_mem hrest
        have h := kept_ended hls (by simp [hfeed, hend]) (by simp [hfeed, hend]) (hline line) rest
        simpa using h
      · exact kept_not_ended hls (by simp [hfeed, hrest]) (by simp) (by simp [hfeed, hrest])
          (by simp) (hline rest)
  | @line before line rest hbefore hline hfeed =>
      obtain ⟨ls, hls, rfl⟩ := hbefore.exists_ended
      have hblank : statement? (dropReturn line) = some .blank := by
        rw [statement?_dropReturn, statement?_of_isIdle hline]
      rw [Text.lines_ended hls, Text.lines_ended hls, Text.lines_append_newline hfeed,
        Text.count_ended hls, ← List.length_map dropReturn]
      exact kept_insert hblank
  | lastLine hbefore hline hfeed =>
      obtain ⟨ls, hls, rfl⟩ := hbefore.exists_ended
      rw [← List.append_nil (ended ls), List.append_assoc, List.nil_append, Text.lines_ended hls,
        Text.lines_ended hls, Text.lines_nil, List.append_nil]
      exact kept_lines hfeed hline
  | behind hline hfeed => exact kept_not_ended_behind hline hfeed

theorem kept_edits {s s' : List Char} {f : Nat → Nat} (h : Edits s s' f) :
    Kept f (compileLines 1 .empty (lines s)) (compileLines 1 .empty (lines s')) := by
  induction h with
  | none => exact kept_move (k := 0) fun _ _ _ => rfl
  | more some one ih => exact ih.trans (kept_edit one)

/-- Changes of the layout, however many, keep the timeline that a script describes, and the line
on which it fails. -/
theorem compile_of_edits {script script' : String} {f : Nat → Nat}
    (h : Edits script.toList script'.toList f) : Kept f (compile script) (compile script') :=
  (kept_edits h).map Draft.timeline

/-- A script that fails, and the same one laid out in another way. -/
def plain : String :=
  "card \"A\"\n\tsay \"x\"\nzoom"

def relaid : String :=
  "card \"A\"\n# note\n  say \"x\"\r\nzoom"

theorem compile_of_edits_relaid :
    ∃ f, Edits plain.toList relaid.toList f ∧ f 3 = 4 ∧
      compile plain = .error (.badLine 3 "zoom") ∧
      ∃ raw, compile relaid = .error (.badLine 4 raw) := by
  have hline : Edit ("card \"A\"\n".toList ++ "\tsay \"x\"\nzoom".toList)
      ("card \"A\"\n".toList ++ ("# note".toList ++ '\n' :: "\tsay \"x\"\nzoom".toList)) (skip 1) :=
    .line (by simp [AtLineStart]) ⟨[], by simp, .inr ⟨" note".toList, by decide +kernel⟩⟩
      (by decide +kernel)
  have htab : Edit ("card \"A\"\n# note\n".toList ++ ([] ++ '\t' :: "say \"x\"\nzoom".toList))
      ("card \"A\"\n# note\n".toList ++ ([] ++ ' ' :: ' ' :: "say \"x\"\nzoom".toList)) id :=
    .tab (by simp [AtLineStart]) (by simp)
  have hreturn : Edit ("card \"A\"\n# note\n  say \"x\"".toList ++ '\n' :: "zoom".toList)
      ("card \"A\"\n# note\n  say \"x\"".toList ++ '\r' :: '\n' :: "zoom".toList) id :=
    .carriageReturn _ _
  have hedits : Edits plain.toList relaid.toList (id ∘ id ∘ skip 1 ∘ id) :=
    (((Edits.none plain.toList).more hline).more htab).more hreturn
  have hfails : compile plain = .error (.badLine 3 "zoom") := by decide +kernel
  obtain ⟨n, raw, raw', heq, hrelaid, -⟩ := (compile_of_edits hedits).error _ hfails
  obtain rfl : 3 = n := by
    injection heq
  exact ⟨_, hedits, rfl, hfails, raw', hrelaid⟩

end Storyboard.Script
