import Mathlib
import Storyboard.Proofs.Speech.Delivery
import Storyboard.Proofs.Text.Search

/-!
What a command receives for its placeholders. They are replaced one after the other, and a value
that has been put in is read again for the placeholders that come later. So an argument has all of
them replaced at once exactly if no further placeholder arises from a voice or a path.
-/

namespace Storyboard

namespace SpeakerCommand
open Text (occurrences IsMark occurrences_le_append)

/-! ### Pieces of an argument -/

inductive Placeholder where
  | voice
  | file
  | text
deriving DecidableEq

namespace Placeholder

def mark : Placeholder → List Char
  | .voice => voiceMark.toList
  | .file => fileMark.toList
  | .text => textMark.toList

/-- The placeholder at the front of a text. -/
def front? (s : List Char) : Option Placeholder :=
  [voice, file, text].find? (·.mark.isPrefixOf s)

end Placeholder

inductive Piece where
  | char (c : Char)
  | hole (p : Placeholder)
deriving DecidableEq

/-- The pieces of an argument whose first `done` characters are those of a placeholder. -/
def piecesFrom (done : Nat) : List Char → List Piece
  | [] => []
  | c :: rest =>
    match done with
    | k + 1 => piecesFrom k rest
    | 0 =>
      match Placeholder.front? (c :: rest) with
      | some p => .hole p :: piecesFrom (p.mark.length - 1) rest
      | none => .char c :: piecesFrom 0 rest

/-- What an argument is made of: its placeholders, and the characters between them. -/
def pieces (argument : List Char) : List Piece :=
  piecesFrom 0 argument

def Piece.filled (value : Placeholder → List Char) : Piece → List Char
  | .char c => [c]
  | .hole p => value p

def filled (value : Placeholder → List Char) (ps : List Piece) : List Char :=
  ps.flatMap (Piece.filled value)

def values (text voice file : String) : Placeholder → List Char
  | .voice => voice.toList
  | .file => file.toList
  | .text => text.toList

/-- An argument with all its placeholders replaced at once. -/
def substitute (text voice file argument : String) : String :=
  String.ofList (filled (values text voice file) (pieces argument.toList))

/-- No placeholder arises in an argument: none for the file where the voice is filled in, and none
for the text where both are. -/
structure Settled (voice file argument : String) : Prop where
  fileMarks : occurrences fileMark.toList (substitute textMark voice fileMark argument).toList =
    occurrences fileMark.toList argument.toList
  textMarks : occurrences textMark.toList (substitute textMark voice file argument).toList =
    occurrences textMark.toList argument.toList

/-! ### Marks -/

namespace Placeholder

theorem exists_mark (p : Placeholder) : ∃ name, p.mark = '{' :: name ∧ '{' ∉ name := by
  cases p with
  | voice => exact ⟨"voice\x7d".toList, by decide, by decide⟩
  | file => exact ⟨"out\x7d".toList, by decide, by decide⟩
  | text => exact ⟨"text\x7d".toList, by decide, by decide⟩

theorem isMark (p : Placeholder) : IsMark p.mark := by
  obtain ⟨name, hmark, hname⟩ := p.exists_mark
  exact ⟨'{', name, hmark, hname⟩

/-- Only a placeholder's own mark begins with its mark. -/
theorem isPrefixOf_mark (p q : Placeholder) (s : List Char) :
    p.mark.isPrefixOf (q.mark ++ s) = decide (p = q) := by
  cases p <;> cases q <;> rfl

theorem front?_mark (p : Placeholder) (s : List Char) : front? (p.mark ++ s) = some p := by
  cases p <;> simp [front?, isPrefixOf_mark]

theorem prefix_of_front? {p : Placeholder} {s : List Char} (h : front? s = some p) :
    p.mark <+: s := by
  have hfront := List.find?_some h
  exact List.isPrefixOf_iff_prefix.mp hfront

theorem not_prefix_of_front? {s : List Char} (h : front? s = none) (p : Placeholder) :
    ¬ p.mark <+: s := by
  have hall := List.find?_eq_none.mp h
  rw [← List.isPrefixOf_iff_prefix]
  cases p <;> exact hall _ (by simp)

end Placeholder

/-! ### Cutting -/

theorem piecesFrom_append (s t : List Char) : piecesFrom s.length (s ++ t) = pieces t := by
  induction s with
  | nil => rfl
  | cons c s ih => exact ih

theorem pieces_mark (p : Placeholder) (s : List Char) :
    pieces (p.mark ++ s) = .hole p :: pieces s := by
  obtain ⟨c, rest, hmark, -⟩ := p.isMark
  have hfront := p.front?_mark s
  rw [hmark, List.cons_append] at hfront ⊢
  rw [pieces, piecesFrom, hfront]
  dsimp only
  rw [hmark]
  exact congrArg (Piece.hole p :: ·) (piecesFrom_append rest s)

theorem pieces_char {c : Char} {s : List Char} (h : Placeholder.front? (c :: s) = none) :
    pieces (c :: s) = .char c :: pieces s := by
  rw [pieces, piecesFrom, h]
  rfl

/-- Every text is empty, begins with a placeholder, or begins with a character that is none. -/
theorem cut_induction {motive : List Char → Prop} (nil : motive [])
    (hole : ∀ (p : Placeholder) s, motive s → motive (p.mark ++ s))
    (char : ∀ c s, Placeholder.front? (c :: s) = none → motive s → motive (c :: s))
    (s : List Char) : motive s := by
  induction hn : s.length using Nat.strong_induction_on generalizing s with
  | h n ih =>
  subst hn
  cases s with
  | nil => exact nil
  | cons c s =>
      cases hfront : Placeholder.front? (c :: s) with
      | none => exact char c s hfront (ih s.length (Nat.lt_succ_self _) s rfl)
      | some p =>
          obtain ⟨t, ht⟩ := Placeholder.prefix_of_front? hfront
          have hlength := List.length_pos_iff.mpr p.isMark.ne_nil
          rw [← ht]
          refine hole p t (ih t.length ?_ t rfl)
          rw [← ht, List.length_append]
          omega

/-- Nothing is lost where an argument is cut. -/
theorem filled_pieces (s : List Char) : filled Placeholder.mark (pieces s) = s := by
  induction s using cut_induction with
  | nil => rfl
  | hole p s ih =>
      rw [pieces_mark, filled, List.flatMap_cons]
      exact congrArg (p.mark ++ ·) ih
  | char c s hfront ih =>
      rw [pieces_char hfront, filled, List.flatMap_cons]
      exact congrArg (c :: ·) ih

theorem occurrences_mark (p q : Placeholder) (s : List Char) :
    occurrences p.mark (q.mark ++ s) = (if p = q then 1 else 0) + occurrences p.mark s := by
  by_cases h : p = q
  · subst h
    rw [if_pos rfl, p.isMark.occurrences_append]
  · have hfront : ¬ p.mark <+: q.mark ++ s := by
      rw [← List.isPrefixOf_iff_prefix, Placeholder.isPrefixOf_mark]
      simpa using h
    obtain ⟨name, hmark, hname⟩ := q.exists_mark
    obtain ⟨other, hother, -⟩ := p.exists_mark
    rw [hmark, List.cons_append] at hfront ⊢
    rw [if_neg h, Nat.zero_add, Text.occurrences_cons hfront, hother,
      Text.occurrences_append_of_not_mem hname]

theorem count_char (p : Placeholder) (c : Char) (ps : List Piece) :
    (Piece.char c :: ps).count (.hole p) = ps.count (.hole p) := by
  simp

theorem count_hole (p q : Placeholder) (ps : List Piece) :
    (Piece.hole q :: ps).count (.hole p) = (if p = q then 1 else 0) + ps.count (.hole p) := by
  rw [List.count_cons, Nat.add_comm]
  by_cases h : p = q
  · simp [h]
  · simp [h, Ne.symm h]

/-- Every occurrence of a placeholder is one of the pieces. -/
theorem count_pieces (p : Placeholder) (s : List Char) :
    (pieces s).count (.hole p) = occurrences p.mark s := by
  induction s using cut_induction with
  | nil => rfl
  | hole q s ih =>
      rw [pieces_mark, count_hole, ih, occurrences_mark]
  | char c s hfront ih =>
      rw [pieces_char hfront, count_char, ih,
        Text.occurrences_cons (Placeholder.not_prefix_of_front? hfront p)]

/-! ### Filling -/

section Filling

variable {p : Placeholder} {value : Placeholder → List Char} {ps : List Piece}

theorem filled_char (c : Char) : filled value (.char c :: ps) = c :: filled value ps :=
  rfl

theorem filled_hole (q : Placeholder) :
    filled value (.hole q :: ps) = value q ++ filled value ps :=
  rfl

/-- A placeholder that is not filled in yet occurs wherever it stands. -/
theorem count_le_occurrences (hvalue : value p = p.mark) (ps : List Piece) :
    ps.count (.hole p) ≤ occurrences p.mark (filled value ps) := by
  induction ps with
  | nil => exact Nat.zero_le _
  | cons piece ps ih =>
      cases piece with
      | char c =>
          rw [count_char, filled_char]
          exact ih.trans (occurrences_le_append p.mark [c] _)
      | hole q =>
          rw [count_hole, filled_hole]
          by_cases h : p = q
          · subst h
            rw [if_pos rfl, hvalue, p.isMark.occurrences_append]
            omega
          · rw [if_neg h, Nat.zero_add]
            exact ih.trans (occurrences_le_append p.mark (value q) _)

/-- Where a placeholder occurs nowhere else, replacing it fills it in. -/
theorem replaceAll_filled (p : Placeholder) (value : Placeholder → List Char)
    (hvalue : value p = p.mark) {ps : List Piece}
    (h : occurrences p.mark (filled value ps) = ps.count (.hole p)) (s : List Char) :
    Text.replaceAll p.mark s (filled value ps) = filled (Function.update value p s) ps := by
  induction ps with
  | nil => rfl
  | cons piece ps ih =>
      have hle := count_le_occurrences hvalue ps
      cases piece with
      | char c =>
          rw [count_char, filled_char] at h
          have hrest := occurrences_le_append p.mark [c] (filled value ps)
          have hkept : occurrences p.mark ([c] ++ filled value ps) =
              occurrences p.mark (filled value ps) := by
            rw [List.singleton_append] at hrest ⊢
            omega
          rw [filled_char, filled_char, ← List.singleton_append,
            Text.replaceAll_append s hkept, ih (by rw [← hkept]; exact h)]
          rfl
      | hole q =>
          rw [count_hole, filled_hole] at h
          by_cases hq : p = q
          · subst hq
            rw [if_pos rfl, hvalue, p.isMark.occurrences_append] at h
            rw [filled_hole, filled_hole, hvalue, Text.replaceAll_mark p.isMark.ne_nil,
              ih (Nat.add_left_cancel h), Function.update_self]
          · rw [if_neg hq, Nat.zero_add] at h
            have hrest := occurrences_le_append p.mark (value q) (filled value ps)
            rw [filled_hole, filled_hole, Text.replaceAll_append s (by omega), ih (by omega),
              Function.update_of_ne (Ne.symm hq)]

/-- An argument with no brace but those of its placeholders, and values without one. -/
theorem occurrences_of_plain (p : Placeholder) (value : Placeholder → List Char)
    (hvalue : value p = p.mark) {ps : List Piece} (hps : .char '{' ∉ ps)
    (hplain : ∀ q, value q = q.mark ∨ '{' ∉ value q) :
    occurrences p.mark (filled value ps) = ps.count (.hole p) := by
  obtain ⟨name, hmark, -⟩ := p.exists_mark
  induction ps with
  | nil => rfl
  | cons piece ps ih =>
      rw [List.mem_cons, not_or] at hps
      obtain ⟨hpiece, hps⟩ := hps
      cases piece with
      | char c =>
          have hc : '{' ∉ [c] := by
            rw [List.mem_singleton]
            rintro rfl
            exact hpiece rfl
          have hkept := Text.occurrences_append_of_not_mem hc name (filled value ps)
          rw [← hmark] at hkept
          rw [count_char, filled_char, ← List.singleton_append, hkept, ih hps]
      | hole q =>
          rw [count_hole, filled_hole, ← ih hps]
          obtain hq | hq := hplain q
          · rw [hq, occurrences_mark]
          · have hne : p ≠ q := by
              rintro rfl
              rw [hvalue, hmark] at hq
              exact hq List.mem_cons_self
            rw [if_neg hne, Nat.zero_add, hmark, Text.occurrences_append_of_not_mem hq]

theorem length_filled (hvalue : value p = p.mark) (s : List Char) (ps : List Piece) :
    (filled (Function.update value p s) ps).length + ps.count (.hole p) * p.mark.length =
      (filled value ps).length + ps.count (.hole p) * s.length := by
  induction ps with
  | nil => rw [List.count_nil, Nat.zero_mul, Nat.zero_mul]; rfl
  | cons piece ps ih =>
      cases piece with
      | char c =>
          rw [count_char, filled_char, filled_char, List.length_cons, List.length_cons]
          omega
      | hole q =>
          rw [count_hole, filled_hole, filled_hole, List.length_append, List.length_append,
            Nat.add_mul, Nat.add_mul]
          by_cases hq : p = q
          · subst hq
            rw [Function.update_self, if_pos rfl, hvalue]
            omega
          · rw [Function.update_of_ne (Ne.symm hq), if_neg hq]
            omega

/-- A value of another length than its placeholder tells every occurrence by the length of what
comes out. -/
theorem occurrences_of_length (p : Placeholder) (value : Placeholder → List Char)
    (hvalue : value p = p.mark) {ps : List Piece} {s : List Char}
    (hs : s.length ≠ p.mark.length)
    (h : (Text.replaceAll p.mark s (filled value ps)).length =
      (filled (Function.update value p s) ps).length) :
    occurrences p.mark (filled value ps) = ps.count (.hole p) := by
  have hreplaced := p.isMark.length_replaceAll s (filled value ps)
  have hfilled := length_filled hvalue s ps
  obtain ⟨more, hmore⟩ := Nat.exists_eq_add_of_le (count_le_occurrences hvalue ps)
  rw [hmore, Nat.add_mul, Nat.add_mul] at hreplaced
  have heq : more * p.mark.length = more * s.length := by omega
  obtain hlength | hzero := mul_eq_mul_left_iff.mp heq
  · exact absurd hlength.symm hs
  · rw [hmore, hzero, Nat.add_zero]

end Filling

/-! ### Arguments -/

section Argument

variable {text voice file argument : String}

theorem toList_substitute (text voice file argument : String) :
    (substitute text voice file argument).toList =
      filled (values text voice file) (pieces argument.toList) := by
  rw [substitute, String.toList_ofList]

theorem values_voice (voice : String) : values textMark voice fileMark =
    Function.update Placeholder.mark .voice voice.toList := by
  funext p
  cases p <;> rfl

theorem values_file (voice file : String) : values textMark voice file =
    Function.update (values textMark voice fileMark) .file file.toList := by
  funext p
  cases p <;> rfl

theorem values_text (text voice file : String) : values text voice file =
    Function.update (values textMark voice file) .text text.toList := by
  funext p
  cases p <;> rfl

/-- The voice comes first, and is always filled in where it stands. -/
theorem fill_eq (text voice file argument : String) : (fill text voice file argument).toList =
    Text.replaceAll textMark.toList text.toList (Text.replaceAll fileMark.toList file.toList
      (substitute textMark voice fileMark argument).toList) := by
  have hvoice : Text.replaceAll voiceMark.toList voice.toList argument.toList =
      filled (values textMark voice fileMark) (pieces argument.toList) := by
    have hcount := count_pieces .voice argument.toList
    have hnowhere : occurrences voiceMark.toList
        (filled Placeholder.mark (pieces argument.toList)) =
          (pieces argument.toList).count (.hole .voice) := by
      rw [filled_pieces, hcount]
      rfl
    have hreplaced := replaceAll_filled .voice Placeholder.mark rfl hnowhere voice.toList
    rw [filled_pieces] at hreplaced
    rw [values_voice]
    exact hreplaced
  rw [fill, String.toList_ofList, put, put, put, hvoice, toList_substitute]

theorem replaceAll_file (h : occurrences fileMark.toList
      (substitute textMark voice fileMark argument).toList =
        occurrences fileMark.toList argument.toList) (file : String) :
    Text.replaceAll fileMark.toList file.toList
      (substitute textMark voice fileMark argument).toList =
        (substitute textMark voice file argument).toList := by
  rw [toList_substitute] at h ⊢
  rw [toList_substitute, values_file voice file]
  exact replaceAll_filled .file (values textMark voice fileMark) rfl
    (h.trans (count_pieces .file _).symm) file.toList

/-- Where no placeholder arises, all are replaced at once. -/
theorem Settled.fill_eq (h : Settled voice file argument) (text : String) :
    fill text voice file argument = substitute text voice file argument := by
  have hmarks := h.textMarks
  apply String.toList_inj.mp
  rw [SpeakerCommand.fill_eq, replaceAll_file h.fileMarks]
  rw [toList_substitute] at hmarks ⊢
  rw [toList_substitute, values_text text]
  exact replaceAll_filled .text (values textMark voice file) rfl
    (hmarks.trans (count_pieces .text _).symm) text.toList

/-- And only there, for a path that is longer than its placeholder. -/
theorem forall_fill_eq_iff (voice argument : String)
    (hfile : fileMark.toList.length < file.toList.length) :
    (∀ text, fill text voice file argument = substitute text voice file argument) ↔
      Settled voice file argument := by
  refine ⟨fun h => ?_, fun h => h.fill_eq⟩
  have hlengths : ∀ text : String,
      (Text.replaceAll textMark.toList text.toList (Text.replaceAll fileMark.toList file.toList
        (substitute textMark voice fileMark argument).toList)).length =
        (substitute text voice file argument).toList.length := by
    intro text
    rw [← fill_eq, h text]
  have hfileMarks : occurrences fileMark.toList
      (substitute textMark voice fileMark argument).toList =
        occurrences fileMark.toList argument.toList := by
    -- A text that is its own placeholder leaves the length as it is.
    have hkept := (Placeholder.isMark .text).length_replaceAll textMark.toList
      (Text.replaceAll fileMark.toList file.toList
        (substitute textMark voice fileMark argument).toList)
    have hlength := (Nat.add_right_cancel hkept).symm.trans (hlengths textMark)
    rw [toList_substitute, toList_substitute, values_file voice file] at hlength
    rw [toList_substitute]
    exact (occurrences_of_length .file (values textMark voice fileMark) rfl
      hfile.ne' hlength).trans (count_pieces .file _)
  refine ⟨hfileMarks, ?_⟩
  have hlength := hlengths ""
  rw [replaceAll_file hfileMarks, toList_substitute, toList_substitute, values_text ""] at hlength
  rw [toList_substitute]
  exact (occurrences_of_length .text (values textMark voice file) rfl
    (by decide : "".toList.length ≠ _) hlength).trans (count_pieces .text _)

/-- A voice between braces is a placeholder for what comes later. -/
example : fill "hi" "text" "a.wav" "\x7b\x7bvoice\x7d\x7d" = "hi" := by decide +kernel

theorem settled_of_plain (hvoice : '{' ∉ voice.toList) (hfile : '{' ∉ file.toList)
    (hargument : .char '{' ∉ pieces argument.toList) : Settled voice file argument := by
  constructor
  · rw [toList_substitute]
    refine (occurrences_of_plain .file (values textMark voice fileMark) rfl
      hargument ?_).trans (count_pieces .file _)
    rintro (_ | _ | _)
    exacts [.inr hvoice, .inl rfl, .inl rfl]
  · rw [toList_substitute]
    refine (occurrences_of_plain .text (values textMark voice file) rfl
      hargument ?_).trans (count_pieces .text _)
    rintro (_ | _ | _)
    exacts [.inr hvoice, .inr hfile, .inl rfl]

end Argument

end SpeakerCommand

/-! ### Paths -/

section Paths
open Text (occurrences)

variable {part : List Char}

theorem Path.occurrences_join (hpart : part ≠ []) (hslash : '/' ∉ part) (base : String)
    {name : String} (hname : '/' ∉ name.toList) :
    occurrences part (join base name).toList =
      occurrences part base.toList + occurrences part name.toList := by
  by_cases hbase : base = ""
  · rw [hbase, join_empty, String.toList_empty, occurrences, Nat.zero_add]
  obtain ⟨between, ⟨rfl, hend⟩ | rfl, heq⟩ := exists_join_eq hname hbase
  · -- The slash at the end of the base divides as well as one in between.
    rw [endsWithSlash, beq_iff_eq] at hend
    obtain ⟨front, hfront⟩ := List.getLast?_eq_some_iff.mp hend
    have hdivided := Text.occurrences_append_cons hpart hslash front
    rw [heq, String.append_empty, String.toList_append, hfront, List.append_assoc,
      List.singleton_append, hdivided, hdivided []]
    rfl
  · rw [heq, String.toList_append, String.toList_append, List.append_assoc]
    exact Text.occurrences_append_cons hpart hslash _ _

/-- A mark in the path of the speech of a cue is one in the public root or in the name. -/
theorem Asset.infix_speech_iff (o : StudioOptions) {name : String} {c : Cue}
    (hname : Timeline.checkName name = .ok ()) (hvoice : Cue.isVoice c.voice) (mark : List Char)
    (hmark : '{' ∉ mark) (hslash : '/' ∉ '{' :: mark) :
    '{' :: mark <:+: (ofCue o name c).speech.toList ↔
      '{' :: mark <:+: o.publicRoot.toList ∨ '{' :: mark <:+: name.toList := by
  have hwithout : ∀ s : List Char, '{' ∉ s → occurrences ('{' :: mark) s = 0 := by
    intro s hs
    have hkept := Text.occurrences_append_of_not_mem hs mark []
    rwa [List.append_nil] at hkept
  have hbase : '{' ∉ (named (base c) speechExtension).toList := by
    rw [toList_named, List.mem_append, not_or]
    refine ⟨fun h => ?_, by decide⟩
    exact absurd (AssetName.isSlugChar_of_mem_basename hvoice _ h) (by decide)
  have hne : '{' :: mark ≠ [] := List.cons_ne_nil _ _
  have hspeech : occurrences ('{' :: mark) (ofCue o name c).speech.toList =
      occurrences ('{' :: mark) o.publicRoot.toList + occurrences ('{' :: mark) name.toList := by
    rw [speech_ofCue, Path.occurrences_join hne hslash _ (not_mem_named hvoice (by decide)),
      StudioOptions.speechRoot,
      Path.occurrences_join hne hslash _ (Studio.not_mem_of_checkName hname),
      Path.occurrences_join hne hslash _ (by decide), hwithout _ hbase,
      hwithout "speech".toList (by decide), Nat.add_zero, Nat.add_zero]
  have hoccurs : ∀ {s : List Char}, '{' :: mark <:+: s ↔ occurrences ('{' :: mark) s ≠ 0 :=
    Text.IsMark.infix_iff ⟨'{', mark, rfl, hmark⟩
  rw [hoccurs, hoccurs, hoccurs, hspeech]
  omega

theorem Asset.length_speech (o : StudioOptions) (name : String) (c : Cue) :
    5 < (ofCue o name c).speech.toList.length := by
  obtain ⟨front, hfront⟩ := Path.exists_toList_join (Path.join o.speechRoot name)
    (named (base c) speechExtension)
  rw [speech_ofCue, hfront, toList_named, base, AssetName.basename]
  simp [speechExtension]
  omega

end Paths

/-! ### Calls -/

namespace SpeakerCommand
open Text (occurrences)

section Calls

variable {o : StudioOptions} {t : Timeline} {i : Item} {c : Cue} {a : Asset}

theorem substitute_file (text voice file : String) : substitute text voice file fileMark = file := by
  change String.ofList (file.toList ++ []) = file
  rw [List.append_nil, String.ofList_toList]

theorem settled_file_iff {voice file : String} :
    Settled voice file fileMark ↔ ¬ textMark.toList <:+: file.toList := by
  have hoccurs : textMark.toList <:+: file.toList ↔ _ := (Placeholder.isMark .text).infix_iff
  have hnone : occurrences textMark.toList fileMark.toList = 0 := by decide
  rw [hoccurs, not_not]
  refine ⟨fun h => ?_, fun h => ⟨by rw [substitute_file], ?_⟩⟩
  · have hmarks := h.textMarks
    rwa [substitute_file, hnone] at hmarks
  · rw [substitute_file, hnone]
    exact h

/-- What a command is called with for a cue of a timeline that passes the checks. In all arguments,
and for all texts, the placeholders are replaced at once exactly if none arises from the voice or
the path. That is so if neither the public root nor the name of the timeline has a brace, and the
argument has none but those of its placeholders. The path of the speech comes through as it is if
neither the root nor the name has the placeholder for the text; and at this path, a command that
succeeds has left something. -/
theorem call_substitutes (ht : t.check = .ok ()) (hi : i ∈ t.items) (hc : c ∈ i.speech)
    (ha : a = Asset.ofCue o t.name c) :
    (∀ command : SpeakerCommand,
      (∀ text, (command.call text a.voice a.speech).arguments =
        command.arguments.map (substitute text a.voice a.speech)) ↔
        ∀ argument ∈ command.arguments, Settled a.voice a.speech argument) ∧
    ('{' ∉ o.publicRoot.toList → '{' ∉ t.name.toList →
      ∀ argument : String, .char '{' ∉ pieces argument.toList →
        Settled a.voice a.speech argument) ∧
    ((∀ text, fill text a.voice a.speech fileMark = a.speech) ↔
      ¬ textMark.toList <:+: o.publicRoot.toList ∧ ¬ textMark.toList <:+: t.name.toList) ∧
    ∀ {σ : Type} (runs : Runner σ) (command : SpeakerCommand) (text : String) (w w' : World σ),
      command.synthesize runs text a.voice a.speech w = .ok () w' →
        w'.store.contains a.speech := by
  subst ha
  have hname := (Timeline.check_eq_ok.mp ht).1
  have hvoice := Timeline.isVoice_of_check ht hi hc
  have hlength : fileMark.toList.length < (Asset.ofCue o t.name c).speech.toList.length :=
    Asset.length_speech o t.name c
  refine ⟨fun command => ?_, fun hroot hbare argument hargument => ?_, ?_, ?_⟩
  · simp only [call, List.map_inj_left, ← forall_fill_eq_iff _ _ hlength]
    exact ⟨fun h argument hargument text => h text argument hargument,
      fun h text argument hargument => h argument hargument text⟩
  · refine settled_of_plain ?_ ?_ hargument
    · intro hbrace
      rw [Cue.isVoice, Bool.and_eq_true, List.all_eq_true] at hvoice
      exact absurd (hvoice.2 _ hbrace) (by decide)
    · have hspeech := Asset.infix_speech_iff o hname hvoice [] (by decide) (by decide)
      simp only [List.singleton_infix_iff] at hspeech
      exact fun hbrace => (hspeech.mp hbrace).elim hroot hbare
  · have htext : textMark.toList = '{' :: "text\x7d".toList := by decide
    have hfills := forall_fill_eq_iff c.voice fileMark hlength
    have hspeech := Asset.infix_speech_iff o hname hvoice "text\x7d".toList (by decide)
      (by decide)
    simp only [substitute_file] at hfills
    rw [← htext] at hspeech
    exact hfills.trans (settled_file_iff.trans (by rw [hspeech, not_or]))
  · intro σ runs command text w w' h
    obtain ⟨_, _, _, _, _, hfile⟩ := synthesize_eq_ok h
    exact hfile

end Calls

def hello : Cue :=
  ⟨"hi", "af_heart", .inBegin, .zero⟩

/-- A timeline with a name and one cue. -/
def greetingNamed (name : String) : Timeline :=
  ⟨name, [.card ⟨"A", none, .zero, [hello], []⟩]⟩

theorem call_substitutes_hello :
    (greetingNamed "d").check = .ok () ∧ ∃ a, a = Asset.ofCue .standard "d" hello ∧
      (∀ argument ∈ standard.arguments, Settled a.voice a.speech argument) ∧
      (standard.call a.text a.voice a.speech).arguments =
        ["-", "public/speech/d/hi-af_heart-19207e0611f00fc3.wav", "--voice", "af_heart"] := by
  have hcheck : (greetingNamed "d").check = .ok () := by decide +kernel
  obtain ⟨hcall, hplain, -, -⟩ := call_substitutes (o := .standard) hcheck
    (List.mem_singleton_self _) (c := hello) (List.mem_singleton_self _) rfl
  have hsettled : ∀ argument ∈ standard.arguments, Settled hello.voice
      (Asset.ofCue .standard "d" hello).speech argument := by
    intro argument hargument
    refine hplain (by decide) (by decide) argument ?_
    revert argument
    decide
  refine ⟨hcheck, _, rfl, hsettled, ?_⟩
  exact ((hcall standard).mpr hsettled _).trans (by decide +kernel)

/-- The name of a timeline may be the placeholder for the text. Then the path of its speech is not
the one that a command is told to write to. -/
theorem call_substitutes_fails :
    (greetingNamed "\x7btext\x7d").check = .ok () ∧
      (ofTemplate "tee \x7bout\x7d").toOption = some ⟨"tee", [fileMark]⟩ ∧
      ∃ a, a = Asset.ofCue .standard "\x7btext\x7d" hello ∧
        a.speech = "public/speech/\x7btext\x7d/hi-af_heart-19207e0611f00fc3.wav" ∧
        [fileMark].map (substitute a.text a.voice a.speech) = [a.speech] ∧
        (call ⟨"tee", [fileMark]⟩ a.text a.voice a.speech).arguments =
          ["public/speech/hi/hi-af_heart-19207e0611f00fc3.wav"] :=
  ⟨by decide +kernel, by decide +kernel, _, rfl, by decide +kernel, by decide +kernel,
    by decide +kernel⟩

end SpeakerCommand

end Storyboard
