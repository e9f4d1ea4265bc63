import Mathlib
import Storyboard.Speech.Pronunciation
import Storyboard.Proofs.Text.Folding

/-!
What pronunciation replaces, and what it leaves. A word of the table is found in any spelling that
folds to the same, where it stands by itself; in the text that comes out no word of the table stands
by itself any more.
-/

namespace Storyboard.Pronunciation

/-! ### Occurrences -/

def SameFolded (s t : List Char) : Prop :=
  s.map Text.fold = t.map Text.fold

/-- What is asked of a spelling that was found and of its neighbours, which may be missing. -/
abbrev Standing := Option Char → List Char → Option Char → Prop

/-- There are word boundaries at both ends. -/
def Bounded : Standing := fun before found after =>
  isBoundary before found.head? ∧ isBoundary found.getLast? after

/-- Neither neighbour belongs to a word. -/
def Whole : Standing := fun before _ after =>
  before.any Text.isWordChar = false ∧ after.any Text.isWordChar = false

/-- No word goes on into what was found, and one goes on behind it exactly if the last letter is a
Kelvin sign. -/
def Detached : Standing := fun before found after =>
  before.any Text.isWordChar = false ∧
    (after.any Text.isWordChar ↔ found.getLast? = some '\u212a')

/-- The word occurs at the front of a text that `before` precedes. -/
def Begins (P : Standing) (word : List Char) (before : Option Char) (text : List Char) : Prop :=
  ∃ found rest, text = found ++ rest ∧ SameFolded found word ∧ P before found rest.head?

def Contains (P : Standing) (word text : List Char) : Prop :=
  ∃ front back, text = front ++ back ∧ Begins P word front.getLast? back

/-- From left to right, what occurs is respelled as it is spoken, and everything else is kept. -/
inductive Entry.Rewrites (e : Entry) (P : Standing) :
    Option Char → List Char → List Char → Prop
  | nil {before : Option Char} : e.Rewrites P before [] []
  | keep {before : Option Char} {c : Char} {rest out : List Char} :
      ¬ Begins P e.word before (c :: rest) → e.Rewrites P (some c) rest out →
      e.Rewrites P before (c :: rest) (c :: out)
  | replace {before : Option Char} {found rest out : List Char} :
      SameFolded found e.word → P before found rest.head? →
      e.Rewrites P found.getLast? rest out →
      e.Rewrites P before (found ++ rest) (e.spoken ++ out)

/-- Entry after entry respells what the one before has left. -/
inductive Respelled (P : Standing) : List Entry → List Char → List Char → Prop
  | nil {text : List Char} : Respelled P [] text text
  | cons {e : Entry} {entries : List Entry} {text between out : List Char} :
      e.Rewrites P none text between → Respelled P entries between out →
      Respelled P (e :: entries) text out

/-! ### Entries -/

/-- Words in ASCII, both as written and as spoken. What is written begins with a letter or digit
that has no spelling beyond ASCII, and does not end with an `s`. -/
structure Entry.Regular (e : Entry) : Prop where
  word : e.word.all fun c => 0 < c.toNat && c.toNat < 128
  spoken : e.spoken.all fun c => c.toNat < 128
  head : e.word.head?.any fun c => Text.isWordChar c && c.toLower != 'k' && c.toLower != 's'
  last : e.word.getLast?.any fun c => Text.isWordChar c && c.toLower != 's'
  spokenHead : e.spoken.head?.any Text.isWordChar
  spokenLast : e.spoken.getLast?.any Text.isWordChar

theorem regular_of_mem_table : ∀ e ∈ table, e.Regular := by
  simp only [table, List.forall_mem_cons]
  refine ⟨?_, ?_, ?_, List.forall_mem_nil _⟩
  all_goals exact ⟨by decide +kernel, by decide +kernel, by decide +kernel, by decide +kernel,
    by decide +kernel, by decide +kernel⟩

/-- Neither text goes on as the other one begins. -/
def Clash (s t : List Char) : Prop :=
  ¬ s.map Text.fold <+: t.map Text.fold ∧ ¬ t.map Text.fold <+: s.map Text.fold

/-- No part of a word can be found in what another one is spoken as. -/
structure Entry.Apart (e f : Entry) : Prop where
  word : ∀ u, u <:+ f.word → u ≠ [] → Clash u e.spoken
  spoken : ∀ v, v <:+ e.spoken → v ≠ [] → Clash v f.word

namespace Entry.Regular

variable {e : Entry}

theorem pos_of_mem (h : e.Regular) : ∀ c ∈ e.word, 0 < c.toNat := by
  intro c hc
  have hboth := List.all_eq_true.mp h.word c hc
  rw [Bool.and_eq_true, decide_eq_true_eq] at hboth
  exact hboth.1

theorem ascii_of_mem (h : e.Regular) : ∀ c ∈ e.word, c.toNat < 128 := by
  intro c hc
  have hboth := List.all_eq_true.mp h.word c hc
  rw [Bool.and_eq_true, decide_eq_true_eq, decide_eq_true_eq] at hboth
  exact hboth.2

theorem ascii_of_mem_spoken (h : e.Regular) : ∀ c ∈ e.spoken, c.toNat < 128 :=
  fun c hc => of_decide_eq_true (List.all_eq_true.mp h.spoken c hc)

theorem word_ne_nil (h : e.Regular) : e.word ≠ [] := by
  intro hnil
  have hhead := h.head
  rw [hnil] at hhead
  cases hhead

end Entry.Regular

theorem clash_of_lower {s t : List Char} (hs : ∀ c ∈ s, c.toNat < 128)
    (ht : ∀ c ∈ t, c.toNat < 128)
    (h : ¬ Text.lower s <+: Text.lower t ∧ ¬ Text.lower t <+: Text.lower s) : Clash s t := by
  rwa [Clash, Text.map_fold_of_ascii hs, Text.map_fold_of_ascii ht]

theorem apart_of_mem_table : ∀ e ∈ table, ∀ f ∈ table, e.Apart f := by
  have hword : ∀ e ∈ table, ∀ f ∈ table, ∀ u ∈ f.word.tails, u ≠ [] →
      ¬ Text.lower u <+: Text.lower e.spoken ∧ ¬ Text.lower e.spoken <+: Text.lower u := by
    decide +kernel
  have hspoken : ∀ e ∈ table, ∀ f ∈ table, ∀ v ∈ e.spoken.tails, v ≠ [] →
      ¬ Text.lower v <+: Text.lower f.word ∧ ¬ Text.lower f.word <+: Text.lower v := by
    decide +kernel
  intro e he f hf
  have hereg := regular_of_mem_table e he
  have hfreg := regular_of_mem_table f hf
  constructor
  · intro u hu hne
    exact clash_of_lower (fun c hc => hfreg.ascii_of_mem c (hu.subset hc))
      hereg.ascii_of_mem_spoken (hword e he f hf u ((List.mem_tails u _).mpr hu) hne)
  · intro v hv hne
    exact clash_of_lower (fun c hc => hereg.ascii_of_mem_spoken c (hv.subset hc))
      hfreg.ascii_of_mem (hspoken e he f hf v ((List.mem_tails v _).mpr hv) hne)

/-! ### Spellings -/

section Spelling

variable {e f : Entry} {found rest text s t : List Char} {before after : Option Char}

theorem SameFolded.length_eq (h : SameFolded s t) : s.length = t.length := by
  rw [← List.length_map Text.fold, h, List.length_map]

theorem SameFolded.ne_nil (h : SameFolded found e.word) (he : e.Regular) : found ≠ [] := by
  rintro rfl
  exact he.word_ne_nil (List.length_eq_zero_iff.mp h.length_eq.symm)

theorem SameFolded.head (h : SameFolded found e.word) (he : e.Regular) :
    found.head?.any Text.isWordChar := by
  have hhead := he.head
  rw [Option.any_eq_true] at hhead
  obtain ⟨w, hw, hcond⟩ := hhead
  simp only [Bool.and_eq_true, bne_iff_ne] at hcond
  have hmap : found.head?.map Text.fold = some (Text.fold w) := by
    rw [← List.head?_map, h, List.head?_map, hw, Option.map_some]
  obtain ⟨c, hc, hfold⟩ := Option.map_eq_some_iff.mp hmap
  have hmem := List.mem_of_mem_head? hw
  obtain hword | ⟨-, hk⟩ := Text.isWordChar_of_fold_eq (he.pos_of_mem w hmem)
    (he.ascii_of_mem w hmem) hcond.1.1 hcond.2 hfold
  · rw [hc]
    exact hword
  · exact absurd hk hcond.1.2

theorem SameFolded.getLast (h : SameFolded found e.word) (he : e.Regular) :
    found.getLast?.any Text.isWordChar ↔ found.getLast? ≠ some '\u212a' := by
  have hlast := he.last
  rw [Option.any_eq_true] at hlast
  obtain ⟨w, hw, hcond⟩ := hlast
  simp only [Bool.and_eq_true, bne_iff_ne] at hcond
  have hmap : found.getLast?.map Text.fold = some (Text.fold w) := by
    rw [← List.getLast?_map, h, List.getLast?_map, hw, Option.map_some]
  obtain ⟨c, hc, hfold⟩ := Option.map_eq_some_iff.mp hmap
  have hmem := List.mem_of_getLast? hw
  rw [hc, Option.any_some, ne_eq, Option.some_inj]
  obtain hword | ⟨rfl, -⟩ := Text.isWordChar_of_fold_eq (he.pos_of_mem w hmem)
    (he.ascii_of_mem w hmem) hcond.1 hcond.2 hfold
  · refine ⟨fun _ => ?_, fun _ => hword⟩
    rintro rfl
    exact absurd hword (by decide)
  · decide

theorem bounded_iff_detached (h : SameFolded found e.word) (he : e.Regular) :
    Bounded before found after ↔ Detached before found after := by
  have hhead := h.head he
  have hlast := h.getLast he
  rw [Bounded, Detached, isBoundary, isBoundary, hhead, bne_iff_ne, bne_iff_ne]
  refine and_congr (by simp) ?_
  rw [← not_iff_comm.mp hlast.symm]
  cases found.getLast?.any Text.isWordChar <;> simp

theorem bounded_iff_whole (h : SameFolded found e.word) (he : e.Regular)
    (hk : '\u212a' ∉ found) : Bounded before found after ↔ Whole before found after := by
  have hlast : found.getLast? ≠ some '\u212a' := fun hlast => hk (List.mem_of_getLast? hlast)
  rw [bounded_iff_detached h he, Detached, Whole]
  simp [hlast]

theorem Clash.symm (h : Clash s t) : Clash t s :=
  ⟨h.2, h.1⟩

theorem Clash.not_both (h : Clash s t) (hs : s <+: text) (hfound : found <+: text)
    (hsame : SameFolded found t) : False := by
  obtain hpre | hpre := List.prefix_or_prefix_of_prefix hs hfound
  · exact h.1 (hsame ▸ hpre.map Text.fold)
  · exact h.2 (hsame ▸ hpre.map Text.fold)

end Spelling

/-! ### One pass -/

section Pass

variable {e f : Entry} {P Q : Standing} {before : Option Char} {word text out : List Char}

theorem fold_eq_fold_iff {c w : Char} (hpos : 0 < w.toNat) (hw : w.toNat < 128) :
    fold c = fold w ↔ Text.fold c = Text.fold w := by
  have hfold : fold w = w.toLower := by
    rw [fold, if_neg, if_neg]
    all_goals
      rintro rfl
      exact absurd hw (by decide)
  obtain ⟨hpos', hw'⟩ := Text.toNat_toLower_of_ascii w hw hpos
  rw [Text.fold_eq_iff hpos hw, hfold]
  by_cases hk : c = '\u212a'
  · subst hk
    simp [fold, eq_comm]
  by_cases hs : c = '\u017f'
  · subst hs
    simp [fold, eq_comm]
  rw [fold, if_neg hk, if_neg hs]
  by_cases hc : c.toNat < 128
  · simp [hc, hk, hs]
  · have hne : c.toLower ≠ w.toLower := by
      rw [Text.toLower_of_not_ascii (Nat.le_of_not_lt hc)]
      rintro rfl
      exact hc hw'
    simp [hne, hk, hs]

theorem beginsWith_iff (hpos : ∀ w ∈ word, 0 < w.toNat) (hascii : ∀ w ∈ word, w.toNat < 128) :
    beginsWith word text ↔ word.length ≤ text.length ∧
      SameFolded (text.take word.length) word := by
  induction word generalizing text with
  | nil => simp [beginsWith, SameFolded]
  | cons w word ih =>
      cases text with
      | nil => simp [beginsWith]
      | cons c text =>
          obtain ⟨hposw, hpos⟩ := List.forall_mem_cons.mp hpos
          obtain ⟨hasciiw, hascii⟩ := List.forall_mem_cons.mp hascii
          rw [beginsWith, Bool.and_eq_true, beq_iff_eq, fold_eq_fold_iff hposw hasciiw,
            ih hpos hascii]
          simp [SameFolded, and_left_comm]

theorem occurs_iff (he : e.Regular) :
    occurs e.word before text ↔ Begins Bounded e.word before text := by
  rw [occurs, Bool.and_eq_true, Bool.and_eq_true,
    beginsWith_iff he.pos_of_mem he.ascii_of_mem]
  have hpositive := List.length_pos_iff.mpr he.word_ne_nil
  constructor
  · rintro ⟨⟨⟨hlength, hsame⟩, hfront⟩, hback⟩
    refine ⟨text.take e.word.length, text.drop e.word.length, (List.take_append_drop _ _).symm,
      hsame, ?_, hback⟩
    rwa [List.head?_take, if_neg hpositive.ne']
  · rintro ⟨found, rest, rfl, hsame, hfront, hback⟩
    rw [← hsame.length_eq] at hpositive ⊢
    rw [List.take_left, List.drop_left, List.length_append]
    refine ⟨⟨⟨Nat.le_add_right _ _, hsame⟩, ?_⟩, hback⟩
    rwa [List.head?_append_of_ne_nil _ (List.length_pos_iff.mp hpositive)]

theorem replaceFrom_append (e : Entry) (before : Option Char) (found rest : List Char) :
    replaceFrom e before found.length (found ++ rest) =
      replaceFrom e (found.getLast?.or before) 0 rest := by
  induction found generalizing before with
  | nil => rfl
  | cons c found ih =>
      rw [List.length_cons, List.cons_append, replaceFrom, ih, List.getLast?_cons]
      cases found.getLast? <;> rfl

theorem rewrites_replaceFrom (he : e.Regular) (before : Option Char) (text : List Char) :
    e.Rewrites Bounded before text (replaceFrom e before 0 text) := by
  induction hn : text.length using Nat.strong_induction_on generalizing before text with
  | h n ih =>
  subst hn
  cases text with
  | nil => exact .nil
  | cons c rest =>
      rw [replaceFrom]
      split
      · rename_i hoccurs
        obtain ⟨found, back, htext, hsame, hstands⟩ := (occurs_iff he).mp hoccurs
        obtain ⟨d, found, rfl⟩ := List.exists_cons_of_ne_nil (hsame.ne_nil he)
        rw [List.cons_append] at htext
        obtain ⟨rfl, rfl⟩ := List.cons.inj htext
        rw [← hsame.length_eq, List.length_cons, Nat.add_sub_cancel, replaceFrom_append,
          ← List.cons_append]
        have hlast : found.getLast?.or (some c) = (c :: found).getLast? := by
          rw [List.getLast?_cons]
          cases found.getLast? <;> rfl
        refine .replace hsame hstands (hlast ▸ ih back.length ?_ _ back rfl)
        simp only [List.length_cons, List.length_append]
        omega
      · rename_i hnot
        exact .keep (fun hbegins => hnot ((occurs_iff he).mpr hbegins))
          (ih rest.length (Nat.lt_succ_self _) (some c) rest rfl)

/-- Standings between which no spelling of the word in the text can tell have the same passes. -/
theorem Entry.Rewrites.congr (ok : Char → Prop)
    (h : ∀ before found after, SameFolded found e.word → (∀ c ∈ found, ok c) →
      (P before found after ↔ Q before found after))
    (hpass : e.Rewrites P before text out) (hok : ∀ c ∈ text, ok c) :
    e.Rewrites Q before text out := by
  induction hpass with
  | nil => exact .nil
  | @keep before c rest out hnot _ ih =>
      refine .keep (fun hbegins => hnot ?_) (ih (List.forall_mem_cons.mp hok).2)
      obtain ⟨found, back, htext, hsame, hstands⟩ := hbegins
      rw [htext] at hok
      have hfound := (List.forall_mem_append.mp hok).1
      exact ⟨found, back, htext, hsame, (h _ found _ hsame hfound).mpr hstands⟩
  | replace hsame hstands _ ih =>
      obtain ⟨hfound, hrest⟩ := List.forall_mem_append.mp hok
      exact .replace hsame ((h _ _ _ hsame hfound).mp hstands) (ih hrest)

theorem Entry.Rewrites.forall_mem (ok : Char → Prop) (hspoken : ∀ c ∈ e.spoken, ok c)
    (hpass : e.Rewrites P before text out) (hok : ∀ c ∈ text, ok c) : ∀ c ∈ out, ok c := by
  induction hpass with
  | nil => exact hok
  | keep _ _ ih =>
      obtain ⟨hc, hrest⟩ := List.forall_mem_cons.mp hok
      exact List.forall_mem_cons.mpr ⟨hc, ih hrest⟩
  | replace _ _ _ ih =>
      exact List.forall_mem_append.mpr ⟨hspoken, ih (List.forall_mem_append.mp hok).2⟩

end Pass

/-! ### Whole words -/

section All

variable {P Q : Standing} {entries : List Entry} {text out : List Char}

theorem respelled_foldl (h : ∀ e ∈ entries, e.Regular) (text : List Char) :
    Respelled Bounded entries text (entries.foldl (fun text e => e.apply text) text) := by
  induction entries generalizing text with
  | nil => exact .nil
  | cons e entries ih =>
      obtain ⟨he, hentries⟩ := List.forall_mem_cons.mp h
      exact .cons (rewrites_replaceFrom he none text) (ih hentries (e.apply text))

theorem Respelled.congr (ok : Char → Prop)
    (h : ∀ e ∈ entries, (∀ c ∈ e.spoken, ok c) ∧ ∀ before found after,
      SameFolded found e.word → (∀ c ∈ found, ok c) →
        (P before found after ↔ Q before found after))
    (hall : Respelled P entries text out) (hok : ∀ c ∈ text, ok c) :
    Respelled Q entries text out := by
  induction hall with
  | nil => exact .nil
  | cons hpass _ ih =>
      obtain ⟨⟨hspoken, hstanding⟩, hentries⟩ := List.forall_mem_cons.mp h
      exact .cons (hpass.congr ok hstanding hok) (ih hentries (hpass.forall_mem ok hspoken hok))

/-- Respelling is for words that stand by themselves: what is respelled begins where no word goes
on, and ends where none goes on, unless it is spelled with a Kelvin sign at its end, which belongs
to no word: there a word has to go on. Texts without that sign are respelled word by word. -/
theorem apply_respells (text : String) :
    Respelled Detached table text.toList (apply text).toList ∧
      ('\u212a' ∉ text.toList → Respelled Whole table text.toList (apply text).toList) := by
  have hbounded : Respelled Bounded table text.toList (apply text).toList := by
    rw [apply, String.toList_ofList]
    exact respelled_foldl regular_of_mem_table text.toList
  constructor
  · refine hbounded.congr (fun _ => True) (fun e he => ⟨fun _ _ => trivial, ?_⟩)
      (fun _ _ => trivial)
    intro before found after hsame _
    exact bounded_iff_detached hsame (regular_of_mem_table e he)
  · intro hkelvin
    refine hbounded.congr (fun c => c ≠ '\u212a') (fun e he => ⟨?_, ?_⟩)
      (fun c hc hk => hkelvin (hk ▸ hc))
    · rintro c hc rfl
      exact absurd ((regular_of_mem_table e he).ascii_of_mem_spoken _ hc) (by decide)
    · intro before found after hsame hfound
      exact bounded_iff_whole hsame (regular_of_mem_table e he) fun hmem => hfound _ hmem rfl

theorem apply_respells_portNumber :
    Respelled Whole table "see traefik:443".toList "see traffic:four four three".toList := by
  have hspoken : apply "see traefik:443" = "see traffic:four four three" := by decide +kernel
  rw [← hspoken]
  exact (apply_respells "see traefik:443").2 (by decide)

theorem Entry.Rewrites.eq_of_absent {e : Entry} {before : Option Char} {w : Char}
    (hw : w ∈ e.word) (hpass : e.Rewrites P before text out)
    (habsent : Text.fold w ∉ text.map Text.fold) : out = text := by
  induction hpass with
  | nil => rfl
  | keep _ _ ih => rw [ih fun hrest => habsent (List.mem_cons_of_mem _ hrest)]
  | replace hsame _ _ _ =>
      refine absurd ?_ habsent
      rw [List.map_append, hsame]
      exact List.mem_append_left _ (List.mem_map_of_mem hw)

/-- Spelled with a Kelvin sign and within a longer word, the word is kept. -/
theorem keeps_kelvin {out : List Char}
    (hpass : Entry.Rewrites ⟨"Traefik".toList, "traffic".toList⟩ Whole none
      ['T', 'r', 'a', 'e', 'f', 'i', '\u212a', 'x'] out) :
    out = ['T', 'r', 'a', 'e', 'f', 'i', '\u212a', 'x'] := by
  generalize htext : ['T', 'r', 'a', 'e', 'f', 'i', '\u212a', 'x'] = text at hpass
  cases hpass with
  | nil => cases htext
  | keep _ hrest =>
      obtain ⟨rfl, rfl⟩ := List.cons.inj htext
      rw [hrest.eq_of_absent (w := 'T') (by decide) (by decide +kernel)]
  | @replace _ found rest _ hsame hstands _ =>
      have hrest := congrArg (List.drop found.length) htext
      rw [List.drop_left, hsame.length_eq] at hrest
      subst hrest
      exact absurd hstands.2 (by decide)

/-- Behind a Kelvin sign a word goes on, and what it ends is respelled nevertheless. -/
theorem apply_respells_fails : apply "Traefi\u212ax" = "trafficx" ∧
    ¬ Respelled Whole table "Traefi\u212ax".toList "trafficx".toList := by
  refine ⟨by decide +kernel, fun hall => ?_⟩
  have htext : "Traefi\u212ax".toList = ['T', 'r', 'a', 'e', 'f', 'i', '\u212a', 'x'] := by decide
  rw [htext] at hall
  cases hall with
  | cons hfirst hall =>
  cases hall with
  | cons hsecond hall =>
  cases hall with
  | cons hthird hall =>
  have hfirst' := hfirst.eq_of_absent (w := '.') (by decide) (by decide +kernel)
  subst hfirst'
  have hsecond' := keeps_kelvin hsecond
  subst hsecond'
  have hthird' := hthird.eq_of_absent (w := '4') (by decide) (by decide +kernel)
  subst hthird'
  generalize hout : "trafficx".toList = out at hall
  cases hall
  exact absurd hout (by decide)

end All

/-! ### What is left -/

/-- The word occurs nowhere in a text that `before` precedes. -/
def Free (word : List Char) : Option Char → List Char → Prop
  | _, [] => True
  | before, c :: rest => ¬ Begins Bounded word before (c :: rest) ∧ Free word (some c) rest

section Left

variable {e f : Entry} {P : Standing} {before : Option Char} {word text front out u : List Char}

theorem Free.of_append (h : Free word before (front ++ text)) :
    Free word (front.getLast?.or before) text := by
  induction front generalizing before with
  | nil => exact h
  | cons c front ih =>
      have hrest := ih h.2
      rw [List.getLast?_cons]
      cases hlast : front.getLast? <;> simpa [hlast] using hrest

theorem Free.append
    (hfront : ∀ v, v <:+ front → v ≠ [] → ∀ before, ¬ Begins Bounded word before (v ++ text))
    (h : Free word (front.getLast?.or before) text) : Free word before (front ++ text) := by
  induction front generalizing before with
  | nil => exact h
  | cons c front ih =>
      refine ⟨hfront _ List.suffix_rfl (List.cons_ne_nil _ _) before, ih ?_ ?_⟩
      · exact fun v hv => hfront v (hv.trans (List.suffix_cons _ _))
      · rw [List.getLast?_cons] at h
        cases hlast : front.getLast? <;> simpa [hlast] using h

theorem Free.not_contains (h : Free f.word none text) (hf : f.Regular) :
    ¬ Contains Bounded f.word text := by
  rintro ⟨front, back, rfl, hbegins⟩
  have hback := h.of_append
  rw [Option.or_none] at hback
  cases back with
  | nil =>
      obtain ⟨found, rest, hnil, hsame, -⟩ := hbegins
      exact hsame.ne_nil hf (List.append_eq_nil_iff.mp hnil.symm).1
  | cons c back => exact hback.1 hbegins

theorem Entry.Rewrites.head (he : e.Regular) (h : e.Rewrites P before text out) :
    out.head?.any Text.isWordChar = text.head?.any Text.isWordChar := by
  cases h with
  | nil => rfl
  | keep => rfl
  | replace hsame _ _ =>
      have hspoken : e.spoken ≠ [] := by
        intro hnil
        have hhead := he.spokenHead
        rw [hnil] at hhead
        cases hhead
      rw [List.head?_append_of_ne_nil _ hspoken, List.head?_append_of_ne_nil _ (hsame.ne_nil he),
        hsame.head he, he.spokenHead]

/-- What is found of a word behind a pass stood there before. -/
theorem Entry.Rewrites.exists_rest (he : e.Regular) (hapart : e.Apart f) (hu : u <:+ f.word)
    {found rest : List Char} (hsame : SameFolded found u)
    (h : e.Rewrites P before text (found ++ rest)) :
    ∃ rest', text = found ++ rest' ∧
      rest.head?.any Text.isWordChar = rest'.head?.any Text.isWordChar := by
  generalize hout : found ++ rest = out at h
  induction h generalizing found u with
  | nil =>
      obtain ⟨rfl, rfl⟩ := List.append_eq_nil_iff.mp hout
      exact ⟨[], rfl, rfl⟩
  | @keep before c tail out _ _ ih =>
      cases found with
      | nil =>
          subst hout
          exact ⟨c :: tail, rfl, rfl⟩
      | cons d found =>
          rw [List.cons_append] at hout
          obtain ⟨rfl, htail⟩ := List.cons.inj hout
          cases u with
          | nil => cases hsame
          | cons w u =>
              obtain ⟨rest', rfl, hnext⟩ := ih ((List.suffix_cons _ _).trans hu)
                (List.cons.inj hsame).2 htail
              exact ⟨rest', rfl, hnext⟩
  | @replace before found' tail out hsame' hstands hpass _ =>
      cases found with
      | nil =>
          subst hout
          exact ⟨found' ++ tail, rfl, (Entry.Rewrites.replace hsame' hstands hpass).head he⟩
      | cons d found =>
          -- What is spoken cannot have been found.
          have hne : u ≠ [] := by
            rintro rfl
            cases hsame
          have hclash := (hapart.word u hu hne).symm
          exact (hclash.not_both (List.prefix_append _ _) ⟨rest, hout⟩ hsame).elim

/-- A pass leaves its own word nowhere, and no other one where it was nowhere before. -/
theorem Entry.Rewrites.free (he : e.Regular) (hf : f.Regular) (hapart : e.Apart f)
    (h : e.Rewrites Bounded before text out) (hfree : f = e ∨ Free f.word before text)
    {other : Option Char} (hother : other = before ∨ other.any Text.isWordChar) :
    Free f.word other out := by
  induction h generalizing other with
  | nil => trivial
  | @keep before c rest out hnot hpass ih =>
      refine ⟨?_, ih (hfree.imp_right And.right) (.inl rfl)⟩
      rintro ⟨found, back, hout, hsame, hfront, hback⟩
      have hword := hsame.head hf
      -- A word begins here, so that what comes before is what came before.
      have hbefore : other = before := by
        refine hother.resolve_right fun hother => ?_
        rw [isBoundary, hword, hother] at hfront
        cases hfront
      subst hbefore
      have hkept : e.Rewrites Bounded other (c :: rest) (found ++ back) := hout ▸ .keep hnot hpass
      obtain ⟨back', htext, hnext⟩ := hkept.exists_rest he hapart List.suffix_rfl hsame
      rw [isBoundary, hnext] at hback
      have hbegins : Begins Bounded f.word other (c :: rest) :=
        ⟨found, back', htext, hsame, hfront, hback⟩
      cases hfree with
      | inl hsame' => exact hnot (hsame' ▸ hbegins)
      | inr hfree => exact hfree.1 hbegins
  | replace hsame _ _ ih =>
      refine Free.append ?_ (ih (hfree.imp_right fun hfree => ?_) (.inr ?_))
      · rintro v hv hne _ ⟨found, back, hout, hfound, -⟩
        exact (hapart.spoken v hv hne).not_both (List.prefix_append _ _) ⟨back, hout.symm⟩ hfound
      · have hrest := hfree.of_append
        rwa [Option.or_of_isSome (List.getLast?_isSome.mpr (hsame.ne_nil he))] at hrest
      · rw [Option.or_of_isSome, he.spokenLast]
        exact Option.isSome_of_any he.spokenLast

/-- Entries that keep each other's words away leave none of them. -/
theorem free_foldl {entries : List Entry} (hf : f.Regular)
    (h : ∀ e ∈ entries, e.Regular ∧ e.Apart f) (hfree : Free f.word none text ∨ f ∈ entries) :
    Free f.word none (entries.foldl (fun text e => e.apply text) text) := by
  induction entries generalizing text with
  | nil => exact hfree.resolve_right List.not_mem_nil
  | cons e entries ih =>
      obtain ⟨⟨he, hapart⟩, hentries⟩ := List.forall_mem_cons.mp h
      have hpass : f = e ∨ Free f.word none text → Free f.word none (e.apply text) :=
        fun hor => (rewrites_replaceFrom he none text).free he hf hapart hor (.inl rfl)
      refine ih hentries ?_
      obtain hfree | hmem := hfree
      · exact .inl (hpass (.inr hfree))
      · exact (List.mem_cons.mp hmem).imp_left fun hsame => hpass (.inl hsame)

theorem replaceFrom_of_free (he : e.Regular) (h : Free e.word before text) :
    replaceFrom e before 0 text = text := by
  induction text generalizing before with
  | nil => rfl
  | cons c rest ih =>
      rw [replaceFrom, if_neg (fun hoccurs => h.1 ((occurs_iff he).mp hoccurs)), ih h.2]

theorem foldl_of_free {entries : List Entry}
    (h : ∀ e ∈ entries, e.Regular ∧ Free e.word none text) :
    entries.foldl (fun text e => e.apply text) text = text := by
  induction entries with
  | nil => rfl
  | cons e entries ih =>
      obtain ⟨⟨he, hfree⟩, hentries⟩ := List.forall_mem_cons.mp h
      rw [List.foldl_cons, Entry.apply, replaceFrom_of_free he hfree, ih hentries]

/-- What is spoken contains no word of the table any more, in any spelling, and is therefore spoken
the same when it is respelled again. -/
theorem apply_settles (text : String) :
    (∀ e ∈ table, ¬ Contains Bounded e.word (apply text).toList) ∧
      apply (apply text) = apply text := by
  have hfree : ∀ e ∈ table, Free e.word none (apply text).toList := by
    intro f hf
    rw [apply, String.toList_ofList]
    refine free_foldl (regular_of_mem_table f hf) (fun e he => ?_) (.inr hf)
    exact ⟨regular_of_mem_table e he, apart_of_mem_table e he f hf⟩
  constructor
  · exact fun e he => (hfree e he).not_contains (regular_of_mem_table e he)
  · apply String.toList_inj.mp
    rw [apply, String.toList_ofList]
    exact foldl_of_free fun e he => ⟨regular_of_mem_table e he, hfree e he⟩

end Left

end Storyboard.Pronunciation
