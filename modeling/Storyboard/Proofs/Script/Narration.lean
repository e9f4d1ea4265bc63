import Mathlib
import Storyboard.Proofs.Script.Layout
import Storyboard.Proofs.Script.Recognition

/-!
What is said comes back as it stands. A narration line takes everything up to its last quotation
mark for its text, so that a script with one card and one narration line, whatever its text and its
options, describes one card with one cue of that text and these options.
-/

namespace Storyboard

namespace Grammar
open Text (isBlank trimEnd trimEnd_of_nonblank trimEnd_append_eq)

/-! ### Clauses do not end with blanks -/

theorem trimEnd_run {p : Char → Bool} (h : Text.blanks.any p = false) (s : Run p) :
    trimEnd s.1 = s.1 :=
  trimEnd_of_nonblank fun c hc => Text.isBlank_eq_false h (s.2.2 c hc)

theorem trimEnd_append_optionalText {D : Type} {text : D → List Char} {s : List Char}
    (hs : trimEnd s = s) (htext : ∀ d, trimEnd (text d) = text d) (o : Option D) :
    trimEnd (s ++ optionalText text o) = s ++ optionalText text o := by
  rcases o with _ | d
  · rwa [optionalText, List.append_nil]
  · by_cases hne : text d = []
    · rwa [optionalText, hne, List.append_nil]
    · exact trimEnd_append_eq (htext d) hne s

theorem Number.ne_nil (n : Number) : n.1 ≠ [] := by
  obtain ⟨c, hc, -⟩ := n.2.2.1
  exact List.ne_nil_of_mem hc

theorem Number.isBlank_eq_false (n : Number) : ∀ c ∈ n.1, isBlank c = false := by
  intro c hc
  rcases n.2.1 c hc with hdigit | rfl
  · exact Text.isBlank_eq_false (by decide) hdigit
  · decide

theorem Seconds.trimEnd_text (s : Seconds) : trimEnd s.text = s.text := by
  have hnumber : trimEnd (s.number.1 ++ unitText s.unit) = s.number.1 ++ unitText s.unit :=
    trimEnd_append_optionalText (trimEnd_of_nonblank s.number.isBlank_eq_false) (fun c =>
      trimEnd_of_nonblank (by simpa using Text.isBlank_of_isAlpha (c.isAlpha (by decide)))) s.unit
  rw [text, List.append_assoc]
  exact trimEnd_append_eq hnumber (by simp [s.number.ne_nil]) _

theorem Voice.trimEnd_text (v : Voice) : trimEnd v.text = v.text :=
  trimEnd_append_eq (trimEnd_run (by decide) v.voice) v.voice.2.1 _

theorem AnchorChoice.trimEnd_text (a : AnchorChoice) : trimEnd a.text = a.text := by
  have hx := Anchor.of_mem_spellings a.anchor.1.2
  refine trimEnd_append_eq (trimEnd_of_nonblank fun c hc => ?_) (a.anchor.2.ne_nil hx.2.2.1) _
  exact Text.isBlank_of_isAlpha (a.anchor.2.isAlpha hx.2.2.2 c hc)

/-- A narration line without its indentation and the blanks at its end. -/
def SayLine.body (l : SayLine) : List Char :=
  l.keyword.1 ++ (l.gap.1 ++ '"' :: l.said ++ ['"']) ++
    optionalText Seconds.text l.options.seconds ++ optionalText Voice.text l.options.voice ++
    optionalText AnchorChoice.text l.options.anchor

theorem SayLine.text_eq_body (l : SayLine) :
    l.text = l.indent.1.1 ++ (l.body ++ l.options.tail.1) := by
  simp [text, Options.text, body]

theorem SayLine.trimEnd_body (l : SayLine) : trimEnd l.body = l.body := by
  have hmark : trimEnd (l.keyword.1 ++ (l.gap.1 ++ '"' :: l.said ++ ['"'])) =
      l.keyword.1 ++ (l.gap.1 ++ '"' :: l.said ++ ['"']) := by
    rw [← List.append_assoc]
    exact trimEnd_append_eq (trimEnd_of_nonblank (by simpa using by decide))
      (List.cons_ne_nil _ _) _
  have hseconds := trimEnd_append_optionalText hmark Seconds.trimEnd_text l.options.seconds
  have hvoice := trimEnd_append_optionalText hseconds Voice.trimEnd_text l.options.voice
  exact trimEnd_append_optionalText hvoice AnchorChoice.trimEnd_text l.options.anchor

end Grammar

namespace Script
open Grammar
open Text (lines dropReturn trimEnd)

theorem length_le_length_untab (s : List Char) : s.length ≤ (s.flatMap untab).length := by
  induction s with
  | nil => exact Nat.le_refl _
  | cons c s ih =>
      have hc : 1 ≤ (untab c).length := by
        unfold untab
        split
        · decide
        · exact Nat.le_refl _
      rw [List.flatMap_cons, List.length_append, List.length_cons]
      omega

/-- A narration line as it is understood: without tabs and without blanks at its end. -/
def understood (l : SayLine) : SayLine :=
  { l with
    indent := ⟨⟨l.indent.1.1.flatMap untab, isBlank_flatMap_untab l.indent.1.2⟩,
      l.indent.2.trans (length_le_length_untab _)⟩
    options := { l.options with tail := ⟨[], by simp⟩ } }

theorem normalize_sayLine (l : SayLine) : normalize l.text = (understood l).text := by
  have hhead : ∀ c ∈ l.body.head?, Text.isBlank c = false := by
    simp only [SayLine.body, List.append_assoc]
    exact l.keyword.stops_blank rfl (by decide) _
  have hne : trimEnd l.body ≠ [] := by
    rw [l.trimEnd_body, SayLine.body]
    simp [l.keyword.ne_nil]
  have hnormal : normalize l.text = l.indent.1.1.flatMap untab ++ l.body := by
    rw [l.text_eq_body, ← List.append_assoc, normalize_append_of_blank l.options.tail.2,
      normalize_indented l.indent.1.2 hne, normalize_of_trimmed hhead l.trimEnd_body]
  rw [hnormal, (understood l).text_eq_body]
  simp [understood, SayLine.body]

/-- A narration line narrates its text with its options. -/
theorem statement?_sayLine (l : SayLine) : statement? l.text = some l.statement := by
  have hsay : Statement.sayLine.onLine? (understood l).text = some l.statement :=
    (Statement.recognizes_say.accepts _ _).mpr ⟨understood l, rfl, rfl⟩
  rw [statement?, normalize_sayLine]
  exact Statement.ofLine?_of_mem (by simp [Statement.classifiers]) hsay

/-- The lines of a card and its narration. -/
theorem lines_narrated {opener line ending : List Char} (hopener : '\n' ∉ opener)
    (hfeed : '\n' ∉ line) (hne : line ≠ []) (hending : ending = [] ∨ ending = ['\n']) :
    ∃ raw, lines (opener ++ '\n' :: (line ++ ending)) = [dropReturn opener, raw] ∧
      statement? raw = statement? line := by
  rw [Text.lines_append_newline hopener]
  rcases hending with rfl | rfl
  · rw [List.append_nil, Text.lines_of_not_mem hfeed hne]
    exact ⟨line, rfl, rfl⟩
  · rw [Text.lines_append_newline hfeed]
    exact ⟨dropReturn line, rfl, statement?_dropReturn line⟩

theorem compile_narrated {opener ending : List Char} {c : Card} {l : SayLine}
    (hopener : '\n' ∉ opener) (hopens : statement? opener = some (.card c))
    (hfeed : '\n' ∉ l.text) (hending : ending = [] ∨ ending = ['\n']) :
    compile (String.ofList (opener ++ '\n' :: (l.text ++ ending))) =
      .ok ⟨Timeline.defaultName, [.card { c with speech := [cue l.said l.options.value] }]⟩ := by
  have hne : l.text ≠ [] := by
    simp [SayLine.text]
  obtain ⟨raw, hlines, hraw⟩ := lines_narrated hopener hfeed hne hending
  have hsilent : c.speech = [] ∧ c.audio = [] := Statement.silent_of_ofLine? hopens
  rw [compile, String.toList_ofList, hlines, compileLines_cons, statement?_dropReturn, hopens]
  change (compileLines 2 ⟨_, [], some (.card c)⟩ [raw]).map _ = _
  rw [compileLines_cons, hraw, statement?_sayLine]
  change Except.ok (Timeline.mk _ [.card ⟨_, _, _, c.speech ++ [_], _⟩]) = _
  rw [hsilent.1]
  rfl

/-- A line that begins as narration does is accepted if there is a last quotation mark and nothing
but options behind it; the text is all that stands before. So a card with one narration line is one
card with one cue, of that text and these options. -/
theorem narration_to_last_mark :
    (∀ (indent : {s : Blanks // 2 ≤ s.1.length}) (keyword : Spelling "say") (gap : Space)
      (rest : List Char) (s : Statement),
      Statement.sayLine.onLine? (indent.1.1 ++ (keyword.1 ++ (gap.1 ++ '"' :: rest))) = some s ↔
        ∃ said tail, rest = said ++ '"' :: tail ∧ '"' ∉ tail ∧
          ∃ o : Options, o.text = tail ∧ s = .say (cue said o.value)) ∧
    ∀ (opener : List Char) (c : Card) (l : SayLine) (ending : List Char),
      '\n' ∉ opener → statement? opener = some (.card c) → '\n' ∉ l.text →
      ending = [] ∨ ending = ['\n'] →
      compile (String.ofList (opener ++ '\n' :: (l.text ++ ending))) =
        .ok ⟨Timeline.defaultName, [.card { c with speech := [cue l.said l.options.value] }]⟩ := by
  refine ⟨fun indent keyword gap rest s => ?_,
    fun opener c l ending hopener hopens hfeed hending =>
      compile_narrated hopener hopens hfeed hending⟩
  rw [Statement.onLine?_sayLine]
  constructor
  · rintro ⟨said, o, hrest, hs⟩
    exact ⟨said, o.text, hrest, o.mark_not_mem, o, rfl, hs⟩
  · rintro ⟨said, _, hrest, -, o, rfl, hs⟩
    exact ⟨said, o, hrest, hs⟩

/-- A line whose text looks like the end of another one. -/
def nested : SayLine where
  indent := ⟨⟨[' ', ' '], by simpa using by decide⟩, by decide⟩
  keyword := ⟨"say".toList, by decide⟩
  gap := ⟨[' '], by simp, by simpa using by decide⟩
  said := "a\" @1s voice=b \"c".toList
  options := ⟨some ⟨⟨[], by simp⟩, ⟨[], by simp⟩, ⟨['5'], by simpa using by decide,
    ⟨'5', by simp, by decide⟩, by decide⟩, none⟩, none, none, ⟨[], by simp⟩⟩

theorem narration_to_last_mark_nested :
    '\n' ∉ "card \"A\"".toList ∧
      statement? "card \"A\"".toList = some (.card ⟨"A", none, .zero, [], []⟩) ∧
      '\n' ∉ nested.text ∧
      compile "card \"A\"\n  say \"a\" @1s voice=b \"c\"@5\n" =
        .ok ⟨"timeline", [.card ⟨"A", none, .zero,
          [⟨"a\" @1s voice=b \"c", "af_heart", .inBegin, .ofNat 5⟩], []⟩]⟩ := by
  have hopener : '\n' ∉ "card \"A\"".toList := by decide +kernel
  have hopens : statement? "card \"A\"".toList = some (.card ⟨"A", none, .zero, [], []⟩) := by
    decide +kernel
  have hfeed : '\n' ∉ nested.text := by decide +kernel
  have hscript : String.ofList ("card \"A\"".toList ++ '\n' :: (nested.text ++ ['\n'])) =
      "card \"A\"\n  say \"a\" @1s voice=b \"c\"@5\n" := by decide +kernel
  have hcue : cue nested.said nested.options.value =
      ⟨"a\" @1s voice=b \"c", "af_heart", .inBegin, .ofNat 5⟩ := by decide +kernel
  have hcompile := narration_to_last_mark.2 _ _ _ _ hopener hopens hfeed (.inr rfl)
  rw [hscript, hcue] at hcompile
  exact ⟨hopener, hopens, hfeed, hcompile⟩

end Script

end Storyboard
