import Mathlib
import Storyboard.Proofs.Script.Said

/-!
Rules and the grammar. Each rule accepts the texts of its production and no others, and no text has
two derivations. The first three characters of a line, behind its indentation, tell which rule can
accept it, so that it does not matter in which order the rules are tried.
-/

namespace Storyboard

namespace Text

/-- The first three characters of a text behind its indentation, in small letters. -/
def onset (line : List Char) : List Char :=
  lower ((trimStart line).take 3)

theorem onset_append {before : List Char} (hbefore : ∀ c ∈ before, isBlank c = true)
    (line : List Char) : onset (before ++ line) = onset line := by
  rw [onset, trimStart, List.dropWhile_append_of_pos hbefore]
  rfl

end Text

namespace Grammar
open Text (onset)

theorem Spelling.length_eq {word : String} (s : Spelling word) :
    s.1.length = word.toList.length := by
  have hlength := congrArg List.length (beq_iff_eq.mp s.2)
  simpa [Text.lower] using hlength

theorem Spelling.onset {word : String} (hlong : 3 ≤ word.toList.length)
    (hword : word.toList.all Char.isAlpha = true) (s : Spelling word) (rest : List Char) :
    Text.onset (s.1 ++ rest) = Text.lower (word.toList.take 3) := by
  have hstop : Text.Stops Text.isBlank (s.1 ++ rest) := by
    obtain ⟨k, ks, hk⟩ := List.exists_cons_of_length_pos (Nat.lt_of_lt_of_le (by decide) hlong)
    rw [hk, List.all_cons, Bool.and_eq_true] at hword
    exact s.stops_blank hk hword.1 rest
  have htrim : Text.trimStart (s.1 ++ rest) = s.1 ++ rest :=
    Text.dropWhile_of_stops (s := []) (by simp) hstop
  rw [Text.onset, htrim, List.take_append_of_le_length (s.length_eq ▸ hlong), Text.lower,
    List.map_take, ← Text.lower, beq_iff_eq.mp s.2, Text.lower, Text.lower, List.map_take]

theorem NameLine.onset_text (l : NameLine) : onset l.text = "tim".toList := by
  simp only [text, List.append_assoc]
  exact l.keyword.onset (by decide) (by decide) _

theorem FadeLine.onset_text (l : FadeLine) :
    onset l.text = "fad".toList ∨ onset l.text = "cro".toList := by
  obtain ⟨⟨⟨e, rfl | rfl⟩, s⟩, gap, frames, tail⟩ := l <;>
    simp only [text, List.append_assoc]
  · exact .inl (s.onset (by decide) (by decide) _)
  · exact .inr (s.onset (by decide) (by decide) _)

theorem SwipeLine.onset_text (l : SwipeLine) : onset l.text = "swi".toList := by
  simp only [text, List.append_assoc]
  exact l.keyword.onset (by decide) (by decide) _

theorem CardLine.onset_text (l : CardLine) : onset l.text = "car".toList := by
  simp only [text, List.append_assoc]
  exact l.keyword.onset (by decide) (by decide) _

theorem CastLine.onset_text (l : CastLine) : onset l.text = "cas".toList := by
  simp only [text, List.append_assoc]
  exact l.keyword.onset (by decide) (by decide) _

theorem SayLine.onset_text (l : SayLine) : onset l.text = "say".toList := by
  simp only [text, List.append_assoc]
  rw [Text.onset_append l.indent.1.2]
  exact l.keyword.onset (by decide) (by decide) _

theorem FadeLine.text_ne (l : FadeLine) (l' : SwipeLine) : l.text ≠ l'.text := by
  intro hsame
  have honset := l'.onset_text
  rw [← hsame] at honset
  rcases l.onset_text with h | h <;> rw [h] at honset <;> cases honset

theorem TransitionLine.onset_text (l : TransitionLine) :
    onset l.text ∈ ["fad".toList, "cro".toList, "swi".toList] := by
  cases l with
  | fade l =>
      rcases l.onset_text with h | h <;> simp [text, h]
  | swipe l => simp [text, l.onset_text]

end Grammar

namespace Statement
open Scanner Grammar

/-- A rule accepts the texts of phrases of one kind and no others, with what they say, and no text
is that of two phrases. -/
structure Recognizes {D : Type} (rule : List Char → Option Statement) (text : D → List Char)
    (statement : D → Statement) : Prop where
  accepts : ∀ line s, rule line = some s ↔ ∃ d, text d = line ∧ statement d = s
  unique : Function.Injective text

theorem Recognizes.of_reads {D : Type} {p : Scanner Statement} {head rest text : D → List Char}
    {statement : D → Statement} (hp : p.Reads head statement fun d s => s = rest d)
    (htext : ∀ d, text d = head d ++ rest d) : Recognizes p.onLine? text statement where
  accepts := by
    intro line s
    rw [funext htext]
    exact hp.onLine?_eq_some rest
  unique := by
    rw [funext htext]
    exact hp.injective rest

theorem recognizes_name : Recognizes nameLine.onLine? NameLine.text NameLine.statement :=
  .of_reads reads_nameLine NameLine.text_eq

theorem recognizes_fade : Recognizes fadeLine.onLine? FadeLine.text FadeLine.statement :=
  .of_reads reads_fadeLine fun _ => (List.append_nil _).symm

theorem recognizes_swipe : Recognizes swipeLine.onLine? SwipeLine.text SwipeLine.statement :=
  .of_reads reads_swipeLine fun _ => (List.append_nil _).symm

theorem recognizes_card : Recognizes cardLine.onLine? CardLine.text CardLine.statement :=
  .of_reads reads_cardLine fun _ => (List.append_nil _).symm

theorem recognizes_cast : Recognizes castLine.onLine? CastLine.text CastLine.statement :=
  .of_reads reads_castLine fun _ => (List.append_nil _).symm

theorem recognizes_say : Recognizes sayLine.onLine? SayLine.text SayLine.statement :=
  .of_reads reads_sayLine SayLine.text_eq

/-- The rules for both kinds of transitions as one. -/
def transitionLine (line : List Char) : Option Statement :=
  (fadeLine.onLine? line).or (swipeLine.onLine? line)

theorem recognizes_transition :
    Recognizes transitionLine TransitionLine.text TransitionLine.statement where
  accepts := by
    intro line s
    rw [transitionLine, Option.or_eq_some_iff, recognizes_fade.accepts, recognizes_swipe.accepts]
    constructor
    · rintro (⟨l, rfl, rfl⟩ | ⟨-, l, rfl, rfl⟩)
      · exact ⟨.fade l, rfl, rfl⟩
      · exact ⟨.swipe l, rfl, rfl⟩
    · rintro ⟨l | l, rfl, rfl⟩
      · exact .inl ⟨l, rfl, rfl⟩
      · refine .inr ⟨?_, l, rfl, rfl⟩
        rw [Option.eq_none_iff_forall_not_mem]
        intro s hs
        obtain ⟨l', hsame, -⟩ := (recognizes_fade.accepts _ s).mp hs
        exact l'.text_ne l hsame
  unique := by
    rintro (l | l) (l' | l') hsame
    · exact congrArg TransitionLine.fade (recognizes_fade.unique hsame)
    · exact absurd hsame (l.text_ne l')
    · exact absurd hsame.symm (l'.text_ne l)
    · exact congrArg TransitionLine.swipe (recognizes_swipe.unique hsame)

/-! ### At most one rule accepts a line -/

/-- The rules by what they are about. -/
def classifiers : List (List Char → Option Statement) :=
  [blankLine, nameLine.onLine?, transitionLine, cardLine.onLine?, castLine.onLine?,
   sayLine.onLine?]

/-- The place of the rule that can accept a line. -/
def turn (line : List Char) : Nat :=
  match Text.onset line with
  | ['t', 'i', 'm'] => 1
  | ['f', 'a', 'd'] | ['c', 'r', 'o'] | ['s', 'w', 'i'] => 2
  | ['c', 'a', 'r'] => 3
  | ['c', 'a', 's'] => 4
  | ['s', 'a', 'y'] => 5
  | _ => 0

theorem turn_of_blankLine {line : List Char} {s : Statement} (h : blankLine line = some s) :
    turn line = 0 := by
  unfold blankLine Text.trim at h
  cases htrim : Text.trimStart line with
  | nil => rw [turn, Text.onset, htrim]; rfl
  | cons c rest =>
      have hc : Text.isBlank c = false := by
        have hstop : Text.Stops Text.isBlank (Text.trimStart line) := Text.stops_dropWhile _ line
        rwa [htrim, Text.stops_cons] at hstop
      rw [htrim, Text.trimEnd_cons hc] at h
      split at h
      · next hnil => cases hnil
      · next hmark =>
          obtain rfl : c = '#' := (List.cons.inj hmark).1
          have honset : Text.onset line = '#' :: Text.lower (rest.take 2) := by
            rw [Text.onset, htrim]
            rfl
          rw [turn, honset]
          split <;> first | rfl | next h => cases (List.cons.inj h).1
      · cases h

theorem turn_of_classifier {i : Nat} {rule : List Char → Option Statement} {line : List Char}
    {s : Statement} (hrule : classifiers[i]? = some rule) (h : rule line = some s) :
    turn line = i := by
  match i with
  | 0 =>
      cases hrule
      exact turn_of_blankLine h
  | 1 =>
      cases hrule
      obtain ⟨l, rfl, -⟩ := (recognizes_name.accepts line s).mp h
      rw [turn, l.onset_text]
      rfl
  | 2 =>
      cases hrule
      obtain ⟨l, rfl, -⟩ := (recognizes_transition.accepts line s).mp h
      have honset := l.onset_text
      simp only [List.mem_cons, List.not_mem_nil, or_false] at honset
      rcases honset with honset | honset | honset <;> rw [turn, honset] <;> rfl
  | 3 =>
      cases hrule
      obtain ⟨l, rfl, -⟩ := (recognizes_card.accepts line s).mp h
      rw [turn, l.onset_text]
      rfl
  | 4 =>
      cases hrule
      obtain ⟨l, rfl, -⟩ := (recognizes_cast.accepts line s).mp h
      rw [turn, l.onset_text]
      rfl
  | 5 =>
      cases hrule
      obtain ⟨l, rfl, -⟩ := (recognizes_say.accepts line s).mp h
      rw [turn, l.onset_text]
      rfl

theorem pairwise_classifiers :
    classifiers.Pairwise fun rule rule' => ∀ line, rule line = none ∨ rule' line = none := by
  rw [List.pairwise_iff_getElem]
  intro i j hi hj hlt line
  by_contra hboth
  rw [not_or] at hboth
  obtain ⟨s, hs⟩ := Option.ne_none_iff_exists'.mp hboth.1
  obtain ⟨s', hs'⟩ := Option.ne_none_iff_exists'.mp hboth.2
  have hturn := turn_of_classifier (List.getElem?_eq_getElem hi) hs
  rw [turn_of_classifier (List.getElem?_eq_getElem hj) hs'] at hturn
  exact Nat.ne_of_gt hlt hturn

theorem findSome?_classifiers (line : List Char) :
    classifiers.findSome? (· line) = ofLine? line := by
  simp only [classifiers, ofLine?, rules, List.findSome?_cons, transitionLine]
  cases blankLine line <;> cases nameLine.onLine? line <;> cases fadeLine.onLine? line <;> rfl

/-- Where at most one rule of a list accepts a line, a rule of the list that does decides. -/
theorem findSome?_eq_some_iff {rules : List (List Char → Option Statement)} {line : List Char}
    {s : Statement}
    (hrules : rules.Pairwise fun rule rule' => ∀ line, rule line = none ∨ rule' line = none) :
    rules.findSome? (· line) = some s ↔ ∃ rule ∈ rules, rule line = some s := by
  refine ⟨List.exists_of_findSome?_eq_some, ?_⟩
  rintro ⟨rule, hmem, hrule⟩
  induction rules with
  | nil => cases hmem
  | cons first rules ih =>
      obtain ⟨hfirst, hrules⟩ := List.pairwise_cons.mp hrules
      rw [List.findSome?_cons]
      rcases List.mem_cons.mp hmem with rfl | hlater
      · rw [hrule]
      · rcases hfirst rule hlater line with hnone | hnone
        · rw [hnone]
          exact ih hrules hlater
        · rw [hnone] at hrule
          cases hrule

theorem ofLine?_of_mem {rule : List Char → Option Statement} {line : List Char} {s : Statement}
    (hmem : rule ∈ classifiers) (hrule : rule line = some s) : ofLine? line = some s := by
  rw [← findSome?_classifiers, findSome?_eq_some_iff pairwise_classifiers]
  exact ⟨rule, hmem, hrule⟩

/-- The rules by what they are about may be tried in any order. -/
theorem findSome?_perm {order : List (List Char → Option Statement)}
    (horder : order.Perm classifiers) (line : List Char) :
    order.findSome? (· line) = ofLine? line := by
  have hpairwise : order.Pairwise fun rule rule' => ∀ line, rule line = none ∨ rule' line = none :=
    pairwise_classifiers.perm horder.symm fun h line => (h line).symm
  ext s
  rw [← findSome?_classifiers, findSome?_eq_some_iff hpairwise,
    findSome?_eq_some_iff pairwise_classifiers]
  simp only [horder.mem_iff]

/-- The rules follow the grammar: those for names, transitions, cards and recordings each accept the
texts that derive from their production, in one way, with what they say; and as no line is accepted
by two rules, their order is of no consequence. -/
theorem rules_follow_grammar :
    Recognizes nameLine.onLine? NameLine.text NameLine.statement ∧
    Recognizes transitionLine TransitionLine.text TransitionLine.statement ∧
    Recognizes cardLine.onLine? CardLine.text CardLine.statement ∧
    Recognizes castLine.onLine? CastLine.text CastLine.statement ∧
    (classifiers.Pairwise fun rule rule' => ∀ line, rule line = none ∨ rule' line = none) ∧
    ∀ order : List (List Char → Option Statement), order.Perm classifiers →
      ∀ line, order.findSome? (· line) = ofLine? line :=
  ⟨recognizes_name, recognizes_transition, recognizes_card, recognizes_cast, pairwise_classifiers,
    fun _ horder line => findSome?_perm horder line⟩

/-- Tried from the last to the first, the rules still open a card. -/
theorem rules_follow_grammar_reversed :
    classifiers.reverse.Perm classifiers ∧
      classifiers.reverse.findSome? (· "card \"A\" @ 2s".toList) =
        some (.card ⟨"A", none, .ofNat 2, [], []⟩) := by
  have hperm : classifiers.reverse.Perm classifiers := List.reverse_perm classifiers
  refine ⟨hperm, ?_⟩
  rw [rules_follow_grammar.2.2.2.2.2 _ hperm]
  decide +kernel

/-- A subtitle cannot be empty, although no quotation mark stands in an empty one. -/
theorem cardLine_of_empty_subtitle :
    (∃ (keyword : Spelling "card") (gap : Space) (title : Quoted) (before behind : Blanks)
      (subtitle : {s : List Char // '"' ∉ s}) (tail : Blanks),
      keyword.1 ++ gap.1 ++ '"' :: title.1 ++ '"' :: before.1 ++ '|' :: behind.1 ++
        '"' :: subtitle.1 ++ '"' :: tail.1 = "card \"A\" | \"\"".toList) ∧
      cardLine.onLine? "card \"A\" | \"\"".toList = none := by
  have hblank : ∀ c ∈ [' '], Text.isBlank c = true := by simpa using by decide
  refine ⟨⟨⟨"card".toList, by decide⟩, ⟨[' '], by simp, hblank⟩, ⟨['A'], by simp, by simp⟩,
    ⟨[' '], hblank⟩, ⟨[' '], hblank⟩, ⟨[], by simp⟩, ⟨[], by simp⟩, ?_⟩, ?_⟩
  · rfl
  · decide +kernel

end Statement
end Storyboard
