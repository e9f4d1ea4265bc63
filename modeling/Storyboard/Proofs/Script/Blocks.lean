import Mathlib
import Storyboard.Proofs.Script.Scanner
import Storyboard.Proofs.Text.Line
import Storyboard.Script.Compile

/-!
What a script compiles to, told from its lines at once. The compiler keeps the clip that is open and
puts it down late; here every clip looks ahead for its narration, a line is refused by what stands
before it, and the two agree.
-/

namespace Storyboard

/-! ### Statements and their items -/

namespace Statement

def isTransition : Statement → Bool
  | .transition _ => true
  | _ => false

def opens : Statement → Bool
  | .card _ | .cast _ => true
  | _ => false

def cue? : Statement → Option Cue
  | .say c => some c
  | _ => none

def name? : Statement → Option String
  | .name n => some n
  | _ => none

/-- The narration before the next transition or clip. -/
def narration (rest : List Statement) : List Cue :=
  (rest.takeWhile fun s => !(s.isTransition || s.opens)).filterMap cue?

/-- One item for each transition and each clip, a clip with the narration behind it. -/
def assemble : List Statement → List Item
  | [] => []
  | .transition t :: rest => .transition t :: assemble rest
  | .card c :: rest => .card { c with speech := narration rest } :: assemble rest
  | .cast c :: rest => .cast { c with speech := narration rest } :: assemble rest
  | _ :: rest => assemble rest

/-- The last name that is given. -/
def lastName (statements : List Statement) : String :=
  ((statements.filterMap name?).getLast?).getD Timeline.defaultName

end Statement

namespace Script
open Statement (narration assemble lastName)

/-- What a line says. -/
def statement? (raw : List Char) : Option Statement :=
  Statement.ofLine? (normalize raw)

/-- A clip is open behind some lines: one of them opens it and no transition follows. -/
def HasOpen (earlier : List (List Char)) : Prop :=
  ∃ before opener behind, earlier = before ++ opener :: behind ∧
    (∃ s, statement? opener = some s ∧ s.opens) ∧
    ∀ line ∈ behind, ∀ t, statement? line ≠ some (.transition t)

/-- The line at a place says nothing, or narrates where no clip is open. -/
def Refused (lines : List (List Char)) (k : Nat) : Prop :=
  ∃ raw, lines[k]? = some raw ∧ (statement? raw = none ∨
    (∃ cue, statement? raw = some (.say cue)) ∧ ¬ HasOpen (lines.take k))

theorem hasOpen_concat {lines : List (List Char)} {line : List Char} :
    HasOpen (lines ++ [line]) ↔ (∃ s, statement? line = some s ∧ s.opens) ∨
      HasOpen lines ∧ ∀ t, statement? line ≠ some (.transition t) := by
  constructor
  · rintro ⟨before, opener, behind, hsplit, hopens, hbehind⟩
    rcases List.eq_nil_or_concat' behind with rfl | ⟨others, last, rfl⟩
    · obtain ⟨_, he⟩ := List.append_inj' hsplit rfl
      cases he
      exact .inl hopens
    · rw [← List.cons_append, ← List.append_assoc] at hsplit
      obtain ⟨hlines, he⟩ := List.append_inj' hsplit rfl
      cases he
      exact .inr ⟨⟨before, opener, others, hlines, hopens,
        fun x hx => hbehind x (List.mem_append_left _ hx)⟩,
        hbehind line (List.mem_append_right _ List.mem_cons_self)⟩
  · rintro (hopens | ⟨⟨before, opener, behind, rfl, hopens, hbehind⟩, hline⟩)
    · exact ⟨lines, line, [], rfl, hopens, fun _ h => absurd h List.not_mem_nil⟩
    · refine ⟨before, opener, behind ++ [line], by simp, hopens, ?_⟩
      intro x hx
      rcases List.mem_append.mp hx with earlier | here
      · exact hbehind x earlier
      · exact List.mem_singleton.mp here ▸ hline

/-! ### Steps of the compiler -/

namespace Draft

/-- Only narration can be out of place. -/
theorem take_eq_none {d : Draft} {s : Statement} :
    d.take s = none ↔ (∃ cue, s = .say cue) ∧ d.block = none := by
  cases s with
  | say cue => simp [take]
  | blank | name n | transition t | card c | cast c => simp [take]

theorem isSome_block_take {d d' : Draft} {s : Statement} (h : d.take s = some d') :
    d'.block.isSome ↔ s.opens = true ∨ d.block.isSome ∧ s.isTransition = false := by
  cases s with
  | say cue =>
      obtain ⟨clip, hclip, rfl⟩ := Option.map_eq_some_iff.mp h
      simp [Statement.opens, Statement.isTransition, hclip]
  | blank | name n | transition t | card c | cast c =>
      cases h
      simp [Statement.opens, Statement.isTransition, openClip]

end Draft

theorem compileLines_cons {number : Nat} {d : Draft} {raw : List Char} {rest : List (List Char)} :
    compileLines number d (raw :: rest) =
      match (statement? raw).bind d.take with
      | some d' => compileLines (number + 1) d' rest
      | none => .error (.badLine number (String.ofList raw)) := rfl

/-- A line that is taken says something, and the draft takes that. -/
theorem compileLines_cons_ok {number : Nat} {d d' : Draft} {raw : List Char}
    {rest : List (List Char)} (h : compileLines number d (raw :: rest) = .ok d') :
    ∃ s next, statement? raw = some s ∧ d.take s = some next ∧
      compileLines (number + 1) next rest = .ok d' := by
  rw [compileLines_cons] at h
  split at h
  · next next hnext =>
      obtain ⟨s, hs, htake⟩ := Option.bind_eq_some_iff.mp hnext
      exact ⟨s, next, hs, htake, h⟩
  · cases h

theorem compileLines_append (number : Nat) (d : Draft) (lines rest : List (List Char)) :
    compileLines number d (lines ++ rest) =
      (compileLines number d lines).bind fun d' =>
        compileLines (number + lines.length) d' rest := by
  induction lines generalizing number d with
  | nil => rfl
  | cons raw lines ih =>
      rw [List.cons_append, compileLines_cons, compileLines_cons]
      cases (statement? raw).bind d.take with
      | none => rfl
      | some d' =>
          rw [List.length_cons, Nat.add_comm lines.length, ← Nat.add_assoc]
          exact ih (number + 1) d'

/-- A clip is open in the compiler exactly where the lines have one open. -/
theorem isSome_block_iff {number : Nat} {lines : List (List Char)} {d : Draft}
    (h : compileLines number .empty lines = .ok d) : d.block.isSome ↔ HasOpen lines := by
  induction lines using List.reverseRecOn generalizing d with
  | nil =>
      cases h
      simp [HasOpen, Draft.empty]
  | append_singleton lines line ih =>
      rw [compileLines_append] at h
      cases hlines : compileLines number .empty lines with
      | error e =>
          rw [hlines] at h
          cases h
      | ok before =>
          rw [hlines] at h
          obtain ⟨s, after, hs, htake, hrest⟩ := compileLines_cons_ok h
          cases hrest
          rw [Draft.isSome_block_take htake, hasOpen_concat, ih hlines, hs]
          cases s <;> simp [Statement.opens, Statement.isTransition]

/-- Up to a place before which no line is refused the compiler gets. -/
theorem compileLines_take {lines : List (List Char)} {k : Nat}
    (h : ∀ j < k, ¬ Refused lines j) : ∃ d, compileLines 1 .empty (lines.take k) = .ok d := by
  induction k with
  | zero => exact ⟨.empty, rfl⟩
  | succ k ih =>
      obtain ⟨d, hd⟩ := ih fun j hj => h j (Nat.lt_succ_of_lt hj)
      cases hraw : lines[k]? with
      | none =>
          have hlong := List.getElem?_eq_none_iff.mp hraw
          rw [List.take_of_length_le hlong] at hd
          rw [List.take_of_length_le (Nat.le_succ_of_le hlong)]
          exact ⟨d, hd⟩
      | some raw =>
          have accepted := h k (Nat.lt_succ_self k)
          rw [List.take_add_one, hraw, Option.toList_some, compileLines_append, hd]
          change ∃ d', compileLines _ d [raw] = .ok d'
          rw [compileLines_cons]
          cases hs : statement? raw with
          | none => exact absurd ⟨raw, hraw, .inl hs⟩ accepted
          | some s =>
              rw [Option.bind_some]
              cases htake : d.take s with
              | none =>
                  obtain ⟨⟨cue, rfl⟩, hblock⟩ := Draft.take_eq_none.mp htake
                  refine absurd ⟨raw, hraw, .inr ⟨⟨cue, hs⟩, fun hopen => ?_⟩⟩ accepted
                  have := (isSome_block_iff hd).mpr hopen
                  rw [hblock] at this
                  cases this
              | some d' => exact ⟨d', rfl⟩

/-- The first line that is refused fails the script. -/
theorem compileLines_refused {lines : List (List Char)} {k : Nat} {raw : List Char}
    (hraw : lines[k]? = some raw) (hk : Refused lines k) (hfirst : ∀ j < k, ¬ Refused lines j) :
    compileLines 1 .empty lines = .error (.badLine (k + 1) (String.ofList raw)) := by
  obtain ⟨d, hd⟩ := compileLines_take hfirst
  have hlt := (List.getElem?_eq_some_iff.mp hraw).1
  have split : lines = lines.take k ++ raw :: lines.drop (k + 1) := by
    rw [← (List.getElem?_eq_some_iff.mp hraw).2, List.cons_getElem_drop_succ,
      List.take_append_drop]
  rw [split, compileLines_append, hd]
  change compileLines (1 + (lines.take k).length) d _ = _
  rw [List.length_take_of_le (Nat.le_of_lt hlt), Nat.add_comm, compileLines_cons]
  obtain ⟨raw', hraw', hbad⟩ := hk
  cases hraw.symm.trans hraw'
  rcases hbad with hs | ⟨⟨cue, hs⟩, hclosed⟩
  · rw [hs]
    rfl
  · have hblock : d.block = none := by
      rw [← Option.not_isSome_iff_eq_none, isSome_block_iff hd]
      exact hclosed
    rw [hs, Option.bind_some, Draft.take_eq_none.mpr ⟨⟨cue, rfl⟩, hblock⟩]

/-! ### What the compiler puts down -/

end Script

namespace Item

/-- The clip with more narration; a transition stays as it is. -/
def narrate (cues : List Cue) (i : Item) : Item :=
  i.withSound (i.speech ++ cues) i.audio

@[simp] theorem narrate_nil (i : Item) : i.narrate [] = i := by
  cases i with
  | transition t => rfl
  | card c | cast c => simp [narrate, withSound, speech, audio]

@[simp] theorem narrate_narrate (i : Item) (a b : List Cue) :
    (i.narrate a).narrate b = i.narrate (a ++ b) := by
  cases i with
  | transition t => rfl
  | card c | cast c => simp [narrate, withSound, speech, audio]

end Item

namespace Script
open Statement (narration assemble lastName)

namespace Draft

/-- The items that a draft and further statements make. -/
def extend (d : Draft) (rest : List Statement) : List Item :=
  d.items ++ (d.block.map (Item.narrate (narration rest))).toList ++ assemble rest

theorem extend_nil (d : Draft) : d.extend [] = d.allItems := by
  have silent : Item.narrate (narration []) = id := funext Item.narrate_nil
  rw [extend, silent, Option.map_id_fun]
  exact List.append_nil _

/-- Before a statement that closes it the open clip has all its narration. -/
theorem extend_closed {d : Draft} {s : Statement} (hs : (s.isTransition || s.opens) = true)
    (rest : List Statement) : d.extend (s :: rest) = d.allItems ++ assemble (s :: rest) := by
  have silent : Item.narrate (narration (s :: rest)) = id := by
    rw [narration, List.takeWhile_cons_of_neg (by simp [hs])]
    exact funext Item.narrate_nil
  rw [extend, silent, Option.map_id_fun]
  rfl

/-- Taking a statement leaves what is made in the end as it is. -/
theorem extend_take {d d' : Draft} {s : Statement} (h : d.take s = some d') (hs : s.Silent)
    (rest : List Statement) : d'.extend rest = d.extend (s :: rest) := by
  cases s with
  | blank | name n =>
      cases h
      rfl
  | transition t =>
      cases h
      rw [extend_closed rfl]
      simp [extend, assemble]
  | card c =>
      cases h
      rw [extend_closed rfl]
      simp [extend, openClip, assemble, Item.narrate, Item.withSound, Item.speech, Item.audio, hs.1]
  | cast c =>
      cases h
      rw [extend_closed rfl]
      simp [extend, openClip, assemble, Item.narrate, Item.withSound, Item.speech, Item.audio, hs.1]
  | say cue =>
      obtain ⟨clip, hclip, rfl⟩ := Option.map_eq_some_iff.mp h
      have spoken : narration (.say cue :: rest) = [cue] ++ narration rest := rfl
      rw [extend, extend, hclip, spoken, Option.map_some, Option.map_some, ← Item.narrate_narrate]
      rfl

theorem name_take {d d' : Draft} {s : Statement} (h : d.take s = some d') :
    d'.name = s.name?.getD d.name := by
  cases s with
  | say cue =>
      obtain ⟨clip, hclip, rfl⟩ := Option.map_eq_some_iff.mp h
      rfl
  | blank | name n | transition t | card c | cast c =>
      cases h
      rfl

end Draft

theorem allItems_of_compileLines {number : Nat} {d d' : Draft} {lines : List (List Char)}
    (h : compileLines number d lines = .ok d') :
    d'.allItems = d.extend (lines.filterMap statement?) := by
  induction lines generalizing number d with
  | nil =>
      cases h
      exact (Draft.extend_nil _).symm
  | cons raw lines ih =>
      obtain ⟨s, next, hs, htake, hrest⟩ := compileLines_cons_ok h
      rw [ih hrest, List.filterMap_cons_some hs]
      exact Draft.extend_take htake (Statement.silent_of_ofLine? hs) _

theorem name_of_compileLines {number : Nat} {d d' : Draft} {lines : List (List Char)}
    (h : compileLines number d lines = .ok d') :
    d'.name = (((lines.filterMap statement?).filterMap Statement.name?).getLast?).getD d.name := by
  induction lines generalizing number d with
  | nil =>
      cases h
      rfl
  | cons raw lines ih =>
      obtain ⟨s, next, hs, htake, hrest⟩ := compileLines_cons_ok h
      rw [ih hrest, List.filterMap_cons_some hs, Draft.name_take htake]
      cases hname : s.name? with
      | none => rw [List.filterMap_cons_none hname, Option.getD_none]
      | some name =>
          rw [List.filterMap_cons_some hname, List.getLast?_cons, Option.getD_some,
            Option.getD_some]

/-! ### The law of scripts -/

/-- The timeline of lines none of which is refused. -/
def timelineOf (lines : List (List Char)) : Timeline :=
  ⟨lastName (lines.filterMap statement?), assemble (lines.filterMap statement?)⟩

theorem compileLines_accepted {lines : List (List Char)} (h : ∀ k, ¬ Refused lines k) :
    (compileLines 1 .empty lines).map Draft.timeline = .ok (timelineOf lines) := by
  obtain ⟨d, hd⟩ := compileLines_take (k := lines.length) fun j _ => h j
  rw [List.take_length] at hd
  rw [hd, Except.map, Draft.timeline, allItems_of_compileLines hd, name_of_compileLines hd]
  rfl

/-- The law of scripts: the first line that is refused fails the script with its number and its
text, and a script without such a line is the timeline that its lines tell. -/
theorem compile_law (script : String) :
    (∀ k raw, (Text.splitLines script.toList)[k]? = some raw →
      Refused (Text.splitLines script.toList) k →
      (∀ j < k, ¬ Refused (Text.splitLines script.toList) j) →
        compile script = .error (.badLine (k + 1) (String.ofList raw)) ∧
        (Error.badLine (k + 1) (String.ofList raw)).kind = .line) ∧
    ((∀ k, ¬ Refused (Text.splitLines script.toList) k) →
      compile script = .ok (timelineOf (Text.splitLines script.toList))) ∧
    ((∃ e, compile script = .error e) ↔ ∃ k, Refused (Text.splitLines script.toList) k) := by
  rw [compile, Text.lines_eq_splitLines]
  generalize Text.splitLines script.toList = lines
  have refused : ∀ k raw, lines[k]? = some raw → Refused lines k → (∀ j < k, ¬ Refused lines j) →
      (compileLines 1 .empty lines).map Draft.timeline =
        .error (.badLine (k + 1) (String.ofList raw)) := by
    intro k raw hraw hk hfirst
    rw [compileLines_refused hraw hk hfirst]
    rfl
  refine ⟨fun k raw hraw hk hfirst => ⟨refused k raw hraw hk hfirst, rfl⟩,
    compileLines_accepted, ?_, ?_⟩
  · rintro ⟨e, he⟩
    by_contra hnone
    rw [compileLines_accepted fun k hk => hnone ⟨k, hk⟩] at he
    cases he
  · intro hsome
    classical
    obtain ⟨raw, hraw, _⟩ := Nat.find_spec hsome
    exact ⟨_, refused _ raw hraw (Nat.find_spec hsome) fun j hj => Nat.find_min hsome hj⟩

/-- A line that says nothing fails the script behind a card. -/
theorem compile_law_unknown :
    Refused (Text.splitLines "card \"A\"\nzoom 10\n".toList) 1 ∧
      compile "card \"A\"\nzoom 10\n" = .error (.badLine 2 "zoom 10") := by
  have unknown : statement? "zoom 10".toList = none := by decide +kernel
  have opener : statement? "card \"A\"".toList =
      some (.card ⟨"A", none, .zero, [], []⟩) := by decide +kernel
  have first : (Text.splitLines "card \"A\"\nzoom 10\n".toList)[0]? = some "card \"A\"".toList := by
    decide +kernel
  have second : (Text.splitLines "card \"A\"\nzoom 10\n".toList)[1]? = some "zoom 10".toList := by
    decide +kernel
  have refused : Refused (Text.splitLines "card \"A\"\nzoom 10\n".toList) 1 :=
    ⟨_, second, .inl unknown⟩
  have accepted : ∀ j < 1, ¬ Refused (Text.splitLines "card \"A\"\nzoom 10\n".toList) j := by
    intro j hj
    obtain rfl : j = 0 := Nat.lt_one_iff.mp hj
    rintro ⟨raw, hraw, hbad⟩
    rw [← Option.some.inj (first.symm.trans hraw), opener] at hbad
    rcases hbad with hnone | ⟨⟨cue, hsay⟩, _⟩
    · exact Option.some_ne_none _ hnone
    · exact Statement.noConfusion (Option.some.inj hsay)
  have failed := ((compile_law "card \"A\"\nzoom 10\n").1 1 _ second refused accepted).1
  rw [String.ofList_toList] at failed
  exact ⟨refused, failed⟩

end Script

end Storyboard
