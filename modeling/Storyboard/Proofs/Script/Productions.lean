import Mathlib
import Storyboard.Proofs.Script.Numbers

/-!
The productions of the grammar, read. Each scanner of a clause or a line reads the phrases of its
production: what may follow a piece never prolongs it, and where an optional clause is missing, what
stands there begins with another character, so that taking each piece as far as it goes loses no
phrase.
-/

namespace Storyboard

namespace Grammar
open Text (Stops stops_nil stops_cons stops_append lead lead_append lead_cons lead_of_blank Ends
  ends_of_blank ends_append)

/-! ### How phrases begin -/

theorem Run.stops {p q : Char → Bool} (s : Run p) (h : ∀ c, p c = true → q c = false)
    (rest : List Char) : Stops q (s.1 ++ rest) := by
  obtain ⟨s, hne, hs⟩ := s
  rw [stops_append hne]
  intro c hc
  exact h c (hs c (List.mem_of_head? hc))

theorem Count.stops_blank (n : Count) (rest : List Char) : Stops Text.isBlank (n.1 ++ rest) :=
  Run.stops n (fun _ => Text.isBlank_eq_false (by decide)) rest

theorem Space.ends (s : Space) (rest : List Char) : Ends (s.1 ++ rest) :=
  ends_append s.2.1 s.2.2 rest

theorem Number.stops_blank (n : Number) (rest : List Char) : Stops Text.isBlank (n.1 ++ rest) := by
  obtain ⟨s, hs, ⟨d, hmem, _⟩, _⟩ := n
  rw [stops_append (List.ne_nil_of_mem hmem)]
  intro c hc
  rcases hs c (List.mem_of_head? hc) with hdigit | rfl
  · exact Text.isBlank_eq_false (by decide) hdigit
  · decide

theorem Name.stops_blank (n : Name) (rest : List Char) : Stops Text.isBlank (n.1 ++ rest) :=
  (stops_append n.2.1).mpr n.2.2.1

theorem Name.trim_append (n : Name) (before tail : Blanks) :
    Text.trim (before.1 ++ (n.1 ++ tail.1)) = n.1 := by
  rw [Text.trim, Text.trimStart, Text.dropWhile_of_stops before.2 (n.stops_blank _),
    Text.trimEnd_append n.2.2.2 tail.2]

theorem Letter.isAlpha {want : Char} (hwant : want.isAlpha = true) (c : Letter want) :
    c.1.isAlpha = true :=
  (Text.isAlpha_of_sameLetter c.2).trans hwant

theorem Spelling.exists_cons {word : String} {k : Char} {ks : List Char}
    (hword : word.toList = k :: ks) (s : Spelling word) :
    ∃ c cs, s.1 = c :: cs ∧ Text.sameLetter c k = true := by
  obtain ⟨s, hs⟩ := s
  rw [hword, Text.sameWord, beq_iff_eq] at hs
  obtain ⟨c, cs, rfl, hc, _⟩ := List.map_eq_cons_iff.mp hs
  exact ⟨c, cs, rfl, by simpa [Text.sameLetter] using hc⟩

theorem Spelling.ne_nil {word : String} (hword : word ≠ "") (s : Spelling word) : s.1 ≠ [] := by
  obtain ⟨k, ks, hk⟩ := List.exists_cons_of_ne_nil (mt String.toList_eq_nil_iff.mp hword)
  obtain ⟨c, cs, hs, _⟩ := s.exists_cons hk
  rw [hs]
  exact List.cons_ne_nil c cs

theorem Spelling.isAlpha {word : String} (hword : word.toList.all Char.isAlpha = true)
    (s : Spelling word) : ∀ c ∈ s.1, c.isAlpha = true := by
  obtain ⟨s, hs⟩ := s
  rw [Text.sameWord, beq_iff_eq] at hs
  intro c hc
  have hlower : c.toLower ∈ Text.lower word.toList := hs ▸ List.mem_map_of_mem hc
  obtain ⟨d, hd, hsame⟩ := List.mem_map.mp hlower
  rw [← Char.isAlpha_toLower_eq_isAlpha, ← hsame, Char.isAlpha_toLower_eq_isAlpha]
  exact List.all_eq_true.mp hword d hd

theorem Spelling.lead {word : String} {k : Char} {ks : List Char}
    (hword : word.toList = k :: ks) (hk : k.isAlpha = true) (s : Spelling word)
    (rest : List Char) : ∃ c, Text.lead (s.1 ++ rest) = some c ∧ Text.sameLetter c k = true := by
  obtain ⟨c, cs, hs, hc⟩ := s.exists_cons hword
  have hblank := Text.isBlank_of_isAlpha ((Text.isAlpha_of_sameLetter hc).trans hk)
  exact ⟨c, by rw [hs, List.cons_append, lead_cons hblank], hc⟩

theorem Spelling.stops_blank {word : String} {k : Char} {ks : List Char}
    (hword : word.toList = k :: ks) (hk : k.isAlpha = true) (s : Spelling word)
    (rest : List Char) : Stops Text.isBlank (s.1 ++ rest) := by
  obtain ⟨c, cs, hs, hc⟩ := s.exists_cons hword
  rw [hs, List.cons_append, stops_cons]
  exact Text.isBlank_of_isAlpha ((Text.isAlpha_of_sameLetter hc).trans hk)

theorem DirectionWord.stops_blank (d : DirectionWord) (rest : List Char) :
    Stops Text.isBlank (d.2.1 ++ rest) := by
  obtain ⟨d, s⟩ := d
  cases d <;> exact Spelling.stops_blank rfl (by decide) s rest

theorem Subtitle.lead_text (s : Subtitle) (rest : List Char) :
    lead (s.text ++ rest) = some '|' := by
  simp only [text, List.append_assoc, lead_append s.before.2, List.cons_append]
  exact lead_cons (by decide) _

theorem Seconds.lead_text (s : Seconds) (rest : List Char) : lead (s.text ++ rest) = some '@' := by
  simp only [text, List.append_assoc, lead_append s.before.2, List.cons_append]
  exact lead_cons (by decide) _

theorem Voice.lead_text (v : Voice) (rest : List Char) :
    ∃ c, lead (v.text ++ rest) = some c ∧ Text.sameLetter c 'v' = true := by
  rw [text, List.append_assoc, List.append_assoc, lead_append v.gap.2.2]
  exact v.keyword.lead rfl (by decide) _

theorem AnchorChoice.lead_text (a : AnchorChoice) (rest : List Char) :
    ∃ c, lead (a.text ++ rest) = some c ∧ Text.sameLetter c 'a' = true := by
  rw [text, List.append_assoc, List.append_assoc, lead_append a.gap.2.2]
  exact a.keyword.lead rfl (by decide) _

theorem Voice.lead_text_ne (v : Voice) {c : Char} (hc : Text.sameLetter c 'v' = false)
    (rest : List Char) : lead (v.text ++ rest) ≠ some c := by
  obtain ⟨d, hd, hsame⟩ := v.lead_text rest
  rw [hd]
  rintro ⟨⟩
  rw [hc] at hsame
  cases hsame

theorem AnchorChoice.lead_text_ne (a : AnchorChoice) {c : Char}
    (hc : Text.sameLetter c 'a' = false) (rest : List Char) :
    lead (a.text ++ rest) ≠ some c := by
  obtain ⟨d, hd, hsame⟩ := a.lead_text rest
  rw [hd]
  rintro ⟨⟩
  rw [hc] at hsame
  cases hsame

theorem Voice.ends_text (v : Voice) (rest : List Char) : Ends (v.text ++ rest) := by
  rw [text, List.append_assoc, List.append_assoc]
  exact Space.ends v.gap _

theorem AnchorChoice.ends_text (a : AnchorChoice) (rest : List Char) :
    Ends (a.text ++ rest) := by
  rw [text, List.append_assoc, List.append_assoc]
  exact Space.ends a.gap _

/-- What holds before the rest of the line, with each phrase that may precede it and without. -/
theorem optionalText_append {D : Type} {P : List Char → Prop} {text : D → List Char}
    {rest : List Char} (o : Option D) (hsome : ∀ d, P (text d ++ rest)) (hnone : P rest) :
    P (optionalText text o ++ rest) := by
  cases o with
  | none => exact hnone
  | some d => exact hsome d

/-! ### Phrases as tuples -/

def Subtitle.parts : Subtitle ≃ Blanks × Blanks × Quoted where
  toFun s := (s.before, s.behind, s.subtitle)
  invFun := fun (before, behind, subtitle) => ⟨before, behind, subtitle⟩

def Seconds.parts : Seconds ≃ Blanks × Blanks × Number × Option (Letter 's') where
  toFun s := (s.before, s.behind, s.number, s.unit)
  invFun := fun (before, behind, number, unit) => ⟨before, behind, number, unit⟩

def Voice.parts : Voice ≃ Space × Spelling "voice=" × Run Text.isWordChar where
  toFun v := (v.gap, v.keyword, v.voice)
  invFun := fun (gap, keyword, voice) => ⟨gap, keyword, voice⟩

def AnchorChoice.parts : AnchorChoice ≃ Space × Spelling "anchor=" × AnchorWord where
  toFun a := (a.gap, a.keyword, a.anchor)
  invFun := fun (gap, keyword, anchor) => ⟨gap, keyword, anchor⟩

def Options.parts : Options ≃ Option Seconds × Option Voice × Option AnchorChoice × Blanks where
  toFun o := (o.seconds, o.voice, o.anchor, o.tail)
  invFun := fun (seconds, voice, anchor, tail) => ⟨seconds, voice, anchor, tail⟩

/-- The text of the line up to its colon. -/
def NameLine.head (l : NameLine) : List Char :=
  l.keyword.1 ++ (l.before.1 ++ [':'])

/-- The text of the line behind its colon. -/
def NameLine.rest (l : NameLine) : List Char :=
  l.behind.1 ++ (l.name.1 ++ l.tail.1)

theorem NameLine.text_eq (l : NameLine) : l.text = l.head ++ l.rest := by
  simp [text, head, rest]

def NameLine.parts :
    NameLine ≃ Spelling "timeline" × Blanks × Blanks × Name × Blanks where
  toFun l := (l.keyword, l.before, l.behind, l.name, l.tail)
  invFun := fun (keyword, before, behind, name, tail) => ⟨keyword, before, behind, name, tail⟩

def FadeLine.parts : FadeLine ≃ PlainEffect × Space × Count × Blanks where
  toFun l := (l.keyword, l.gap, l.frames, l.tail)
  invFun := fun (keyword, gap, frames, tail) => ⟨keyword, gap, frames, tail⟩

def SwipeLine.parts :
    SwipeLine ≃ Spelling "swipe" × Space × DirectionWord × Space × Count × Blanks where
  toFun l := (l.keyword, l.before, l.direction, l.behind, l.frames, l.tail)
  invFun := fun (keyword, before, direction, behind, frames, tail) =>
    ⟨keyword, before, direction, behind, frames, tail⟩

def CardLine.parts :
    CardLine ≃ Spelling "card" × Space × Quoted × Option Subtitle × Option Seconds × Blanks where
  toFun l := (l.keyword, l.gap, l.title, l.subtitle, l.seconds, l.tail)
  invFun := fun (keyword, gap, title, subtitle, seconds, tail) =>
    ⟨keyword, gap, title, subtitle, seconds, tail⟩

def CastLine.parts :
    CastLine ≃ Spelling "cast" × Space × (Run fun c => !Text.isBlank c) × Space × Count ×
      Letter 'x' × Count × Blanks where
  toFun l := (l.keyword, l.before, l.path, l.behind, l.columns, l.cross, l.rows, l.tail)
  invFun := fun (keyword, before, path, behind, columns, cross, rows, tail) =>
    ⟨keyword, before, path, behind, columns, cross, rows, tail⟩

end Grammar

/-! ### Words that stand for something -/

namespace Scanner
open Grammar
open Text (Stops)

theorem isNumberChar_of_isAlpha {c : Char} (h : c.isAlpha = true) : isNumberChar c = false := by
  have hpoint : c ≠ '.' := by
    rintro rfl
    cases h
  simp [isNumberChar, Text.isAsciiDigit_of_isAlpha h, hpoint]

/-- A word that names something is read as one of the names, in any case. -/
theorem reads_named {I ν : Type} (name : I → String) (value : I → ν)
    {find : List Char → Option ν} {f : List Char → Scanner ν}
    (hf : ∀ s rest, f s rest = (find s).map (·, rest))
    (hfind : ∀ s a, find s = some a ↔ ∃ i, value i = a ∧ Text.sameWord s (name i).toList = true)
    (hname : ∀ i j, Text.sameWord (name i).toList (name j).toList = true → i = j)
    (hword : ∀ i, name i ≠ "" ∧ (name i).toList.all Char.isAlpha = true) :
    (word >>= f).Reads (fun x : (i : I) × Spelling (name i) => x.2.1) (fun x => value x.1)
      fun _ => Stops Text.isWordChar := by
  have hbind (s : List Char) :
      (word >>= f) s = (word s).bind fun x => (find x.1).map (·, x.2) := by
    change (word s).bind (fun x => f x.1 x.2) = _
    simp only [hf]
  refine .of_injective ?_ ?_ ?_
  · rintro ⟨i, s, hs⟩ ⟨j, t, ht⟩ (rfl : s = t)
    obtain rfl := hname i j (by
      rw [Text.sameWord, beq_iff_eq] at hs ht ⊢
      exact hs.symm.trans ht)
    rfl
  · rintro ⟨i, s⟩ rest hrest
    have hchars : ∀ c ∈ s.1, Text.isWordChar c = true :=
      fun c hc => Text.isWordChar_of_isAlpha (s.isAlpha (hword i).2 c hc)
    have hne : s.1 ≠ [] := s.ne_nil (hword i).1
    have hrun : word (s.1 ++ rest) = some (s.1, rest) :=
      (reads_run Text.isWordChar).complete (d := ⟨s.1, hne, hchars⟩) hrest
    rw [hbind, hrun, Option.bind_some, (hfind s.1 (value i)).mpr ⟨i, rfl, s.2⟩]
    rfl
  · intro s a rest h
    rw [hbind] at h
    obtain ⟨⟨w, middle⟩, hrun, hmap⟩ := Option.bind_eq_some_iff.mp h
    obtain ⟨b, hb, heq⟩ := Option.map_eq_some_iff.mp hmap
    cases heq
    obtain ⟨⟨w, hw⟩, rfl, rfl, hrest⟩ := (reads_run Text.isWordChar).sound hrun
    obtain ⟨i, rfl, hi⟩ := (hfind w a).mp hb
    exact ⟨⟨i, w, hi⟩, rfl, rfl, hrest⟩

end Scanner

theorem Direction.ofWord?_eq_some {s : List Char} {d : Direction} :
    ofWord? s = some d ↔ Text.sameWord s d.name.toList = true := by
  have hlower (e : Direction) : Text.lower e.name.toList = e.name.toList := by
    cases e <;> decide
  rw [Text.sameWord, beq_iff_eq, hlower]
  constructor
  · intro h
    have hname := List.find?_some h
    rw [decide_eq_true_eq] at hname
    rw [hname, String.toList_ofList]
  · intro h
    rw [ofWord?, h, String.ofList_toList, ofName?_name]

/-- The spellings are different words of small letters. -/
theorem Anchor.of_mem_spellings {x : String × Anchor} (hx : x ∈ spellings) :
    spellings.lookup x.1 = some x.2 ∧ Text.lower x.1.toList = x.1.toList ∧ x.1 ≠ "" ∧
      x.1.toList.all Char.isAlpha = true := by
  revert x
  simp only [spellings, List.forall_mem_cons]
  decide

theorem Anchor.ofName?_eq_some {s : List Char} {a : Anchor} :
    ofName? s = some a ↔ ∃ x ∈ spellings, x.2 = a ∧ Text.sameWord s x.1.toList = true := by
  constructor
  · intro h
    obtain ⟨front, back, hsplit, -⟩ := List.lookup_eq_some_iff.mp h
    have hmem : (String.ofList (Text.lower s), a) ∈ spellings := by
      rw [hsplit]
      exact List.mem_append_right _ List.mem_cons_self
    have hlower := (of_mem_spellings hmem).2.1
    rw [String.toList_ofList] at hlower
    exact ⟨_, hmem, rfl, by simp [Text.sameWord, hlower]⟩
  · rintro ⟨x, hx, rfl, hs⟩
    obtain ⟨hlookup, hlower, -⟩ := of_mem_spellings hx
    rw [Text.sameWord, beq_iff_eq, hlower] at hs
    rw [ofName?, hs, String.ofList_toList, hlookup]

namespace Statement
open Scanner Grammar
open Text (Stops stops_nil stops_cons stops_append lead lead_of_blank Ends ends_of_blank
  ends_append)

theorem reads_direction : direction.Reads (fun x : DirectionWord => x.2.1) (fun x => x.1)
    fun _ => Stops Text.isWordChar := by
  refine reads_named Direction.name (fun d => d)
    (fun s rest => show _ = (Direction.ofWord? s).map (·, rest) from ?_) ?_ ?_ ?_
  · cases Direction.ofWord? s <;> rfl
  · intro s d
    simp [Direction.ofWord?_eq_some]
  · intro d e
    cases d <;> cases e <;> decide
  · intro d
    cases d <;> decide

theorem reads_anchorWord {f : List Char → Scanner Anchor}
    (hf : ∀ s rest, f s rest = (Anchor.ofName? s).map (·, rest)) :
    (word >>= f).Reads (fun x : AnchorWord => x.2.1) (fun x => x.1.1.2)
      fun _ => Stops Text.isWordChar := by
  refine reads_named (fun x : {x : String × Anchor // x ∈ Anchor.spellings} => x.1.1)
    (fun x => x.1.2) hf ?_ ?_ ?_
  · intro s a
    rw [Anchor.ofName?_eq_some]
    simp
  · rintro ⟨x, hx⟩ ⟨y, hy⟩ hsame
    obtain ⟨hfind, hlower, -⟩ := Anchor.of_mem_spellings hx
    obtain ⟨hfind', hlower', -⟩ := Anchor.of_mem_spellings hy
    rw [Text.sameWord, beq_iff_eq, hlower, hlower', String.toList_inj] at hsame
    rw [hsame, hfind', Option.some.injEq] at hfind
    exact Subtype.ext (Prod.ext hsame hfind.symm)
  · rintro ⟨x, hx⟩
    exact (Anchor.of_mem_spellings hx).2.2

/-! ### Clauses -/

theorem reads_quoted : quoted.Reads (fun s : Quoted => '"' :: (s.1 ++ ['"'])) Subtype.val
    fun _ _ => True := by
  refine ((reads_run (· ≠ '"')).bind fun s => (reads_char '"').map fun _ => s.1).behind.equiv
    (Equiv.prodPUnit _).symm (fun _ => rfl) (fun _ => rfl) fun s rest => ?_
  simp [stops_cons]

theorem reads_subtitle : subtitle.Reads Subtitle.text Subtitle.value fun _ _ => True := by
  refine (reads_blanks.bind fun _ => Reads.behind (reads_blanks.bind fun _ =>
    reads_quoted.map _)).equiv Subtitle.parts ?_ (fun _ => rfl) ?_
  · intro s
    simp only [Subtitle.text, Subtitle.parts, Equiv.coe_fn_mk, List.append_assoc, List.cons_append]
  · intro s rest
    exact ⟨fun _ => ⟨stops_cons.mpr (by decide), stops_cons.mpr (by decide), trivial⟩,
      fun _ => trivial⟩

/-- Where a number of seconds may stop. -/
def StopSeconds (s : Seconds) (rest : List Char) : Prop :=
  Stops isNumberChar (unitText s.unit ++ rest) ∧
    OptionalStop (letter 's') (fun _ _ => True) s.unit rest

theorem reads_seconds : seconds.Reads Seconds.text Seconds.value StopSeconds := by
  have hread : seconds.Reads _ _ _ := reads_blanks.bind fun _ => .behind (reads_blanks.bind fun _ =>
    reads_number.bind fun n => (reads_letter 's').maybe.map fun _ => Number.value n)
  refine hread.equiv Seconds.parts ?_ (fun _ => rfl) ?_
  · intro s
    simp only [Seconds.text, Seconds.parts, unitText, Equiv.coe_fn_mk, List.append_assoc,
      List.cons_append]
  · intro s rest
    refine ⟨fun h => ⟨stops_cons.mpr (by decide), ?_, h⟩, fun h => h.2.2⟩
    rw [List.append_assoc]
    exact s.number.stops_blank _

theorem reads_voice : voice.Reads Voice.text Voice.value fun _ => Stops Text.isWordChar := by
  refine (reads_space.bind fun _ => (reads_keyword _).bind fun _ =>
    (reads_run Text.isWordChar).map _).equiv Voice.parts ?_ (fun _ => rfl) ?_
  · intro v
    simp only [Voice.text, Voice.parts, Equiv.coe_fn_mk, List.append_assoc]
  · intro v rest
    refine ⟨fun h => ⟨?_, trivial, h⟩, fun h => h.2.2⟩
    rw [List.append_assoc]
    exact v.keyword.stops_blank rfl (by decide) _

theorem reads_anchor : anchor.Reads AnchorChoice.text AnchorChoice.value
    fun _ => Stops Text.isWordChar := by
  have hread : anchor.Reads _ _ _ := reads_space.bind fun _ => (reads_keyword _).bind fun _ =>
    reads_anchorWord fun s rest => by cases Anchor.ofName? s <;> rfl
  refine hread.equiv AnchorChoice.parts ?_ (fun _ => rfl) ?_
  · intro a
    simp only [AnchorChoice.text, AnchorChoice.parts, Equiv.coe_fn_mk, List.append_assoc]
  · intro a rest
    refine ⟨fun h => ⟨?_, trivial, h⟩, fun h => h.2.2⟩
    rw [List.append_assoc]
    exact a.keyword.stops_blank rfl (by decide) _

/-- An optional phrase may be missing where none can begin. -/
theorem optionalStop {α D : Type} {p : Scanner α} {text : D → List Char} {value : D → α}
    {Stop : D → List Char → Prop} {rest : List Char} (hp : p.Reads text value Stop)
    (hsome : ∀ d, Stop d rest) (hnone : ∀ d after, rest ≠ text d ++ after) (o : Option D) :
    OptionalStop p Stop o rest := by
  cases o with
  | some d => exact hsome d
  | none =>
      change p rest = none
      cases hrest : p rest with
      | none => rfl
      | some x =>
          obtain ⟨d, hd, _⟩ := hp.sound hrest
          exact absurd hd (hnone d x.2)

theorem optionalStop_subtitle {rest : List Char} (h : lead rest ≠ some '|') (o : Option Subtitle) :
    OptionalStop subtitle (fun _ _ => True) o rest := by
  refine optionalStop reads_subtitle (fun _ => trivial) ?_ o
  rintro s after rfl
  exact h (s.lead_text after)

theorem optionalStop_seconds {rest : List Char} (hends : Ends rest) (h : lead rest ≠ some '@')
    (o : Option Seconds) : OptionalStop seconds StopSeconds o rest := by
  refine optionalStop reads_seconds ?_ ?_ o
  · intro s
    -- Neither digits and points nor the letter behind them are blanks.
    have hletter : OptionalStop (letter 's') (fun _ _ => True) s.unit rest := by
      refine optionalStop (reads_letter 's') (fun _ => trivial) ?_ s.unit
      rintro c after rfl
      have hblank := Text.isBlank_of_isAlpha (c.isAlpha (by decide))
      rw [hends c.1 rfl] at hblank
      cases hblank
    refine ⟨?_, hletter⟩
    cases hu : s.unit with
    | none => exact hends.stops (by decide)
    | some c => exact stops_cons.mpr (isNumberChar_of_isAlpha (c.isAlpha (by decide)))
  · rintro s after rfl
    exact h (s.lead_text after)

theorem optionalStop_voice {rest : List Char} (hends : Ends rest)
    (h : ∀ c, Text.sameLetter c 'v' = true → lead rest ≠ some c) (o : Option Voice) :
    OptionalStop voice (fun _ => Stops Text.isWordChar) o rest := by
  refine optionalStop reads_voice (fun _ => hends.stops (by decide)) ?_ o
  rintro v after rfl
  obtain ⟨c, hc, hv⟩ := v.lead_text after
  exact h c hv hc

theorem optionalStop_anchor {rest : List Char} (hends : Ends rest) (h : lead rest = none)
    (o : Option AnchorChoice) : OptionalStop anchor (fun _ => Stops Text.isWordChar) o rest := by
  refine optionalStop reads_anchor (fun _ => hends.stops (by decide)) ?_ o
  rintro a after rfl
  obtain ⟨c, hc, _⟩ := a.lead_text after
  rw [h] at hc
  cases hc

/-- The keyword that is tried first does not stand in the way of the other one. -/
theorem keyword_crossfade_fade (s : Spelling "fade") (rest : List Char) :
    keyword "crossfade".toList (s.1 ++ rest) = none := by
  rw [Option.eq_none_iff_forall_not_mem]
  rintro ⟨⟨⟩, after⟩ h
  obtain ⟨w, hsplit, -⟩ := (reads_keyword "crossfade").sound h
  obtain ⟨c, hlead, hc⟩ := s.lead (k := 'f') rfl (by decide) rest
  obtain ⟨d, hlead', hd⟩ := Spelling.lead (k := 'c') rfl (by decide) w after
  rw [hsplit, hlead', Option.some.injEq] at hlead
  rw [hlead] at hd
  cases Text.toLower_eq_of_sameLetter hc hd

theorem reads_plainEffect :
    plainEffect.Reads (fun x : PlainEffect => x.2.1) (fun x => x.1.1) fun _ _ => True := by
  refine .of_injective ?_ ?_ ?_
  · rintro ⟨⟨e, he⟩, s, hs⟩ ⟨⟨f, hf⟩, t, ht⟩ (rfl : s = t)
    obtain rfl : e = f := by
      have hsame := (beq_iff_eq.mp hs).symm.trans (beq_iff_eq.mp ht)
      rcases he with rfl | rfl <;> rcases hf with rfl | rfl <;> first | rfl | cases hsame
    rfl
  · rintro ⟨⟨e, rfl | rfl⟩, s⟩ rest -
    · have hfade : keyword "fade".toList (s.1 ++ rest) = some ((), rest) :=
        (reads_keyword "fade").complete trivial
      simp only [plainEffect, keyword_crossfade_fade s rest, hfade, Option.map_some]
    · have hcrossfade : keyword "crossfade".toList (s.1 ++ rest) = some ((), rest) :=
        (reads_keyword "crossfade").complete trivial
      simp only [plainEffect, hcrossfade]
  · intro s a rest h
    unfold plainEffect at h
    split at h
    · next u after hcrossfade =>
        cases h
        obtain ⟨w, rfl, -⟩ := (reads_keyword "crossfade").sound hcrossfade
        exact ⟨⟨⟨.crossfade, .inr rfl⟩, w⟩, rfl, rfl, trivial⟩
    · obtain ⟨⟨u, after⟩, hfade, heq⟩ := Option.map_eq_some_iff.mp h
      cases heq
      obtain ⟨w, rfl, -⟩ := (reads_keyword "fade").sound hfade
      exact ⟨⟨⟨.fade, .inl rfl⟩, w⟩, rfl, rfl, trivial⟩

/-! ### Lines -/

/-- A name takes the rest of the line, without the blanks around it. -/
theorem reads_name {f : List Char → Scanner Statement}
    (hf : ∀ s, f s = if (Text.trim s).isEmpty then failure else
      pure (.name (String.ofList (Text.trim s)))) :
    (get >>= f).Reads (fun _ : Blanks × Name × Blanks => [])
      (fun x => .name (String.ofList x.2.1.1)) fun x rest =>
        rest = x.1.1 ++ (x.2.1.1 ++ x.2.2.1) where
  complete := by
    rintro ⟨before, name, tail⟩ _ rfl
    change f _ _ = _
    rw [hf, List.nil_append, name.trim_append before tail, if_neg (by simp [name.2.1])]
    rfl
  sound := by
    intro s a rest h
    change f s s = _ at h
    rw [hf] at h
    split at h
    · cases h
    · next hne =>
        cases h
        obtain ⟨before, tail, hbefore, htail, hs⟩ := Text.exists_trim s
        rw [List.append_assoc] at hs
        exact ⟨(⟨before, hbefore⟩, ⟨Text.trim s, by simpa using hne, Text.head?_trim,
          Text.getLast?_trimEnd⟩, ⟨tail, htail⟩), rfl, rfl, hs⟩
  unique := by
    rintro ⟨before, name, tail⟩ ⟨before', name', tail'⟩ _ _ rfl rfl hsame
    rw [List.nil_append, List.nil_append] at hsame
    have hname := congrArg Text.trim hsame
    rw [name.trim_append before tail, name'.trim_append before' tail'] at hname
    obtain rfl := Subtype.ext hname
    have hbefore := congrArg (List.takeWhile Text.isBlank) hsame
    rw [Text.takeWhile_of_stops before.2 (name.stops_blank _),
      Text.takeWhile_of_stops before'.2 (name.stops_blank _)] at hbefore
    obtain rfl := Subtype.ext hbefore
    obtain rfl := Subtype.ext (List.append_cancel_left (List.append_cancel_left hsame))
    rfl

theorem reads_nameLine :
    nameLine.Reads NameLine.head NameLine.statement fun l rest => rest = l.rest := by
  have hread : nameLine.Reads _ _ _ := (reads_keyword _).bind fun _ => reads_blanks.bind fun _ =>
    Reads.behind (reads_name fun _ => rfl)
  refine hread.equiv NameLine.parts (fun _ => rfl) (fun _ => rfl) fun l rest => ?_
  exact ⟨fun h => ⟨trivial, stops_cons.mpr (by decide), h⟩, fun h => h.2.2⟩

theorem reads_fadeLine :
    fadeLine.Reads FadeLine.text FadeLine.statement fun _ rest => rest = [] := by
  have hread : fadeLine.Reads _ _ _ := reads_plainEffect.bind fun _ => reads_space.bind fun _ =>
    reads_count.bind fun _ => reads_finish.map _
  refine hread.equiv FadeLine.parts ?_ (fun _ => rfl) ?_
  · intro l
    simp only [FadeLine.text, FadeLine.parts, Equiv.coe_fn_mk, List.append_assoc]
  · intro l rest
    refine ⟨?_, fun h => h.2.2.2⟩
    rintro rfl
    simp only [List.append_nil]
    exact ⟨trivial, l.frames.stops_blank _, (ends_of_blank l.tail.2).stops (by decide), trivial⟩

theorem reads_swipeLine :
    swipeLine.Reads SwipeLine.text SwipeLine.statement fun _ rest => rest = [] := by
  have hread : swipeLine.Reads _ _ _ := (reads_keyword _).bind fun _ => reads_space.bind fun _ =>
    reads_direction.bind fun _ => reads_space.bind fun _ => reads_count.bind fun _ =>
    reads_finish.map _
  refine hread.equiv SwipeLine.parts ?_ (fun _ => rfl) ?_
  · intro l
    simp only [SwipeLine.text, SwipeLine.parts, Equiv.coe_fn_mk, List.append_assoc]
  · intro l rest
    refine ⟨?_, fun h => h.2.2.2.2.2⟩
    rintro rfl
    simp only [List.append_nil]
    exact ⟨trivial, l.direction.stops_blank _, Ends.stops (Space.ends l.behind _) (by decide),
      l.frames.stops_blank _, (ends_of_blank l.tail.2).stops (by decide), trivial⟩

theorem reads_cardLine :
    cardLine.Reads CardLine.text CardLine.statement fun _ rest => rest = [] := by
  have hread : cardLine.Reads _ _ _ := (reads_keyword _).bind fun _ => reads_space.bind fun _ =>
    reads_quoted.bind fun _ => reads_subtitle.maybe.bind fun _ => reads_seconds.maybe.bind fun _ =>
    reads_finish.map _
  refine hread.equiv CardLine.parts ?_ (fun _ => rfl) ?_
  · intro l
    simp only [CardLine.text, CardLine.parts, Equiv.coe_fn_mk, List.append_assoc,
      List.cons_append, List.nil_append]
  · rintro ⟨keyword, gap, title, subtitle, seconds, tail⟩ rest
    refine ⟨?_, fun h => h.2.2.2.2.2⟩
    rintro rfl
    simp only [List.append_nil]
    have hlead := lead_of_blank tail.2
    have hseconds := optionalStop_seconds (ends_of_blank tail.2) (hlead ▸ nofun) seconds
    -- A number of seconds does not begin as a subtitle does.
    have hbar : lead (optionalText Seconds.text seconds ++ tail.1) ≠ some '|' :=
      optionalText_append (P := (lead · ≠ some '|')) seconds (fun x => by simp [x.lead_text])
        (by simp [hlead])
    exact ⟨trivial, stops_cons.mpr (by decide), trivial, optionalStop_subtitle hbar subtitle,
      hseconds, trivial⟩

theorem reads_castLine :
    castLine.Reads CastLine.text CastLine.statement fun _ rest => rest = [] := by
  have hread : castLine.Reads _ _ _ := (reads_keyword _).bind fun _ => reads_space.bind fun _ =>
    (reads_run _).bind fun _ => reads_space.bind fun _ => reads_count.bind fun _ =>
    (reads_letter _).bind fun _ => reads_count.bind fun _ => reads_finish.map _
  refine hread.equiv CastLine.parts ?_ (fun _ => rfl) ?_
  · intro l
    simp only [CastLine.text, CastLine.parts, Equiv.coe_fn_mk, List.append_assoc,
      List.cons_append, List.nil_append]
  · intro l rest
    refine ⟨?_, fun h => h.2.2.2.2.2.2.2⟩
    rintro rfl
    simp only [List.append_nil]
    exact ⟨trivial, Run.stops l.path (by simp) _, Ends.stops (Space.ends l.behind _) (by decide),
      l.columns.stops_blank _, stops_cons.mpr (Text.isAsciiDigit_of_isAlpha
        (l.cross.isAlpha (by decide))), trivial, (ends_of_blank l.tail.2).stops (by decide),
      trivial⟩

theorem reads_sayOptions :
    sayOptions.Reads Options.text Options.value fun _ rest => rest = [] := by
  have hread : sayOptions.Reads _ _ _ := reads_seconds.maybe.bind fun _ =>
    reads_voice.maybe.bind fun _ => reads_anchor.maybe.bind fun _ => reads_finish.map _
  refine hread.equiv Options.parts ?_ (fun _ => rfl) ?_
  · intro o
    simp only [Options.text, Options.parts, Equiv.coe_fn_mk, List.append_assoc]
  · rintro ⟨seconds, voice, anchor, tail⟩ rest
    refine ⟨?_, fun h => h.2.2.2⟩
    rintro rfl
    simp only [List.append_nil]
    have hlead := lead_of_blank tail.2
    have hends := ends_of_blank tail.2
    have hends' : Ends (optionalText AnchorChoice.text anchor ++ tail.1) :=
      optionalText_append anchor (fun a => a.ends_text _) hends
    have hends'' : Ends (optionalText Voice.text voice ++
        (optionalText AnchorChoice.text anchor ++ tail.1)) :=
      optionalText_append voice (fun v => v.ends_text _) hends'
    -- An at sign begins neither a voice nor an anchor, and `v` does not begin an anchor.
    have hv : ∀ c, Text.sameLetter c 'v' = true →
        lead (optionalText AnchorChoice.text anchor ++ tail.1) ≠ some c := by
      intro c hc
      refine optionalText_append (P := (lead · ≠ some c)) anchor (fun a => a.lead_text_ne ?_ _)
        (by simp [hlead])
      refine Bool.eq_false_iff.mpr fun ha => ?_
      cases Text.toLower_eq_of_sameLetter ha hc
    have hat : lead (optionalText Voice.text voice ++
        (optionalText AnchorChoice.text anchor ++ tail.1)) ≠ some '@' :=
      optionalText_append (P := (lead · ≠ some '@')) voice (fun v => v.lead_text_ne (by decide) _)
        (optionalText_append (P := (lead · ≠ some '@')) anchor
          (fun a => a.lead_text_ne (by decide) _) (by simp [hlead]))
    exact ⟨optionalStop_seconds hends'' hat seconds, optionalStop_voice hends' hv voice,
      optionalStop_anchor hends hlead anchor, trivial⟩

end Statement
end Storyboard
