import Mathlib
import Storyboard.Proofs.Script.Grammar
import Storyboard.Proofs.Script.Scanner
import Storyboard.Proofs.Text.Blank

/-!
Scanners and the texts that they take. A scanner *reads* phrases of a type if it takes exactly the
texts of these phrases, each with its meaning and only where the text may stop there, and if no text
is that of two phrases. Sequences, optional parts and records of phrases are read piece by piece, so
that a grammar need only say of its pieces where they may stop.
-/

namespace Storyboard

/-! ### Scanners that read phrases -/

namespace Scanner
open Grammar
open Text (Stops stops_nil stops_cons stops_append stops_dropWhile takeWhile_of_stops
  dropWhile_of_stops)

variable {α β D E F : Type}

theorem bind_apply (p : Scanner α) (f : α → Scanner β) (s : List Char) :
    (p >>= f) s = (p s).bind fun x => f x.1 x.2 :=
  rfl

/-- The scanner takes exactly the texts of some phrases, each where it may stop, and gives their
meanings; no text can be taken as two of them. -/
structure Reads (p : Scanner α) (text : D → List Char) (value : D → α)
    (Stop : D → List Char → Prop) : Prop where
  complete : ∀ {d rest}, Stop d rest → p (text d ++ rest) = some (value d, rest)
  sound : ∀ {s a rest}, p s = some (a, rest) → ∃ d, s = text d ++ rest ∧ a = value d ∧ Stop d rest
  unique : ∀ {d d' rest rest'}, Stop d rest → Stop d' rest' →
    text d ++ rest = text d' ++ rest' → d = d'

variable {p : Scanner α} {text : D → List Char} {value : D → α} {Stop : D → List Char → Prop}

/-- Phrases that their texts tell apart are read uniquely, since a scanner has only one result. -/
theorem Reads.of_injective (htext : Function.Injective text)
    (hcomplete : ∀ {d rest}, Stop d rest → p (text d ++ rest) = some (value d, rest))
    (hsound : ∀ {s a rest}, p s = some (a, rest) →
      ∃ d, s = text d ++ rest ∧ a = value d ∧ Stop d rest) :
    p.Reads text value Stop where
  complete := hcomplete
  sound := hsound
  unique := by
    intro d d' rest rest' hd hd' hsame
    have hresult := hcomplete hd
    rw [hsame, hcomplete hd', Option.some.injEq, Prod.mk.injEq] at hresult
    rw [hresult.2] at hsame
    exact htext (List.append_cancel_right hsame)

/-- A text is taken, and the rest left, if it is that of a phrase which may stop before the rest. -/
theorem Reads.apply_append_iff (h : p.Reads text value Stop) (taken rest : List Char) (a : α) :
    p (taken ++ rest) = some (a, rest) ↔ ∃ d, taken = text d ∧ a = value d ∧ Stop d rest := by
  constructor
  · intro hp
    obtain ⟨d, hsame, ha, hd⟩ := h.sound hp
    exact ⟨d, List.append_cancel_right hsame, ha, hd⟩
  · rintro ⟨d, rfl, rfl, hd⟩
    exact h.complete hd

/-- Two scanners in sequence read pairs of phrases. The first one stops where the second one
begins. -/
theorem Reads.bind {f : α → Scanner β} {text' : E → List Char} {value' : D → E → β}
    {Stop' : E → List Char → Prop} (hp : p.Reads text value Stop)
    (hf : ∀ d, (f (value d)).Reads text' (value' d) Stop') :
    (p >>= f).Reads (fun x : D × E => text x.1 ++ text' x.2) (fun x => value' x.1 x.2)
      (fun x rest => Stop x.1 (text' x.2 ++ rest) ∧ Stop' x.2 rest) where
  complete := by
    rintro ⟨d, e⟩ rest ⟨hd, he⟩
    rw [bind_apply, List.append_assoc, hp.complete hd, Option.bind_some]
    exact (hf d).complete he
  sound := by
    intro s b rest h
    rw [bind_apply] at h
    obtain ⟨⟨a, middle⟩, ha, hb⟩ := Option.bind_eq_some_iff.mp h
    obtain ⟨d, rfl, rfl, hd⟩ := hp.sound ha
    obtain ⟨e, rfl, rfl, he⟩ := (hf d).sound hb
    exact ⟨⟨d, e⟩, (List.append_assoc ..).symm, rfl, hd, he⟩
  unique := by
    rintro ⟨d, e⟩ ⟨d', e'⟩ rest rest' ⟨hd, he⟩ ⟨hd', he'⟩ hsame
    rw [List.append_assoc, List.append_assoc] at hsame
    obtain rfl := hp.unique hd hd' hsame
    obtain rfl := (hf d).unique he he' (List.append_cancel_left hsame)
    rfl

theorem Reads.map (hp : p.Reads text value Stop) (f : α → β) :
    (p >>= fun a => pure (f a)).Reads text (fun d => f (value d)) Stop where
  complete := by
    intro d rest hd
    rw [bind_apply, hp.complete hd, Option.bind_some]
    rfl
  sound := by
    intro s b rest h
    rw [bind_apply] at h
    obtain ⟨⟨a, middle⟩, ha, hb⟩ := Option.bind_eq_some_iff.mp h
    obtain ⟨d, rfl, rfl, hd⟩ := hp.sound ha
    cases hb
    exact ⟨d, rfl, rfl, hd⟩
  unique := hp.unique

/-- Phrases in another form, with the same texts and meanings. -/
theorem Reads.equiv {text' : F → List Char} {value' : F → α} {Stop' : F → List Char → Prop}
    (hp : p.Reads text value Stop) (parts : F ≃ D) (htext : ∀ x, text' x = text (parts x))
    (hvalue : ∀ x, value' x = value (parts x))
    (hstop : ∀ x rest, Stop' x rest ↔ Stop (parts x) rest) : p.Reads text' value' Stop' where
  complete := by
    intro x rest hx
    rw [htext, hvalue]
    exact hp.complete ((hstop x rest).mp hx)
  sound := by
    intro s a rest h
    obtain ⟨d, rfl, rfl, hd⟩ := hp.sound h
    refine ⟨parts.symm d, ?_, ?_, ?_⟩
    · rw [htext, Equiv.apply_symm_apply]
    · rw [hvalue, Equiv.apply_symm_apply]
    · rw [hstop, Equiv.apply_symm_apply]
      exact hd
  unique := by
    intro x x' rest rest' hx hx' hsame
    rw [htext, htext] at hsame
    exact parts.injective (hp.unique ((hstop x rest).mp hx) ((hstop x' rest').mp hx') hsame)

/-! ### Whole lines -/

/-- A scanner that stops nowhere else takes a line if the line is the text of a phrase. -/
theorem Reads.onLine?_eq_some (behind : D → List Char)
    (hp : p.Reads text value fun d rest => rest = behind d) {line : List Char} {a : α} :
    p.onLine? line = some a ↔ ∃ d, text d ++ behind d = line ∧ value d = a := by
  constructor
  · intro h
    obtain ⟨⟨b, rest⟩, hread, rfl⟩ := Option.map_eq_some_iff.mp h
    obtain ⟨d, rfl, rfl, rfl⟩ := hp.sound hread
    exact ⟨d, rfl, rfl⟩
  · rintro ⟨d, rfl, rfl⟩
    rw [onLine?, hp.complete rfl]
    rfl

theorem Reads.injective (behind : D → List Char)
    (hp : p.Reads text value fun d rest => rest = behind d) :
    Function.Injective fun d => text d ++ behind d :=
  fun _ _ hsame => hp.unique rfl rfl hsame

/-! ### Optional phrases -/

/-- An optional phrase is missing only where the scanner cannot take one. -/
def OptionalStop (p : Scanner α) (Stop : D → List Char → Prop) : Option D → List Char → Prop
  | some d, rest => Stop d rest
  | none, rest => p rest = none

theorem Reads.maybe (hp : p.Reads text value Stop) :
    (maybe p).Reads (optionalText text) (Option.map value) (OptionalStop p Stop) where
  complete := by
    rintro (_ | d) rest hd
    · have hnone : p rest = none := hd
      simp only [Scanner.maybe, optionalText, List.nil_append, hnone, Option.map_none]
    · simp only [Scanner.maybe, optionalText, hp.complete hd, Option.map_some]
  sound := by
    intro s o rest h
    unfold Scanner.maybe at h
    split at h
    · next a rest' ha =>
        cases h
        obtain ⟨d, rfl, rfl, hd⟩ := hp.sound ha
        exact ⟨some d, rfl, rfl, hd⟩
    · next hnone =>
        cases h
        exact ⟨none, rfl, rfl, hnone⟩
  unique := by
    rintro (_ | d) (_ | d') rest rest' hd hd' hsame
    · rfl
    · have hnone : p rest = none := hd
      simp only [optionalText, List.nil_append] at hsame
      rw [hsame, hp.complete hd'] at hnone
      cases hnone
    · have hnone : p rest' = none := hd'
      simp only [optionalText, List.nil_append] at hsame
      rw [← hsame, hp.complete hd] at hnone
      cases hnone
    · exact congrArg some (hp.unique hd hd' hsame)

/-! ### Characters and words -/

theorem reads_run (p : Char → Bool) :
    (run p).Reads (Subtype.val : Run p → _) Subtype.val fun _ => Stops p := by
  refine .of_injective Subtype.val_injective ?_ ?_
  · rintro ⟨s, hne, hs⟩ rest hrest
    obtain ⟨c, cs, rfl⟩ := List.exists_cons_of_ne_nil hne
    unfold run
    rw [takeWhile_of_stops hs hrest, dropWhile_of_stops hs hrest]
  · intro s a rest h
    have hrun := yields_run p s a rest h
    unfold run at h
    split at h
    · cases h
    · next c cs htaken =>
        cases h
        have hsplit : c :: cs ++ s.dropWhile p = s := htaken ▸ List.takeWhile_append_dropWhile
        exact ⟨⟨c :: cs, hrun⟩, hsplit.symm, rfl, stops_dropWhile p s⟩

theorem reads_blanks :
    blanks.Reads (Subtype.val : Blanks → _) (fun s => s.1.length) fun _ =>
      Stops Text.isBlank := by
  refine .of_injective Subtype.val_injective ?_ ?_
  · rintro ⟨s, hs⟩ rest hrest
    unfold blanks
    rw [takeWhile_of_stops hs hrest, dropWhile_of_stops hs hrest]
  · intro s a rest h
    cases h
    refine ⟨⟨s.takeWhile Text.isBlank, fun _ => List.mem_takeWhile_imp⟩, ?_, rfl,
      stops_dropWhile _ s⟩
    rw [List.takeWhile_append_dropWhile]

theorem reads_space :
    space.Reads (Subtype.val : Space → _) (fun _ => ()) fun _ => Stops Text.isBlank :=
  (reads_run _).map fun _ => ()

theorem reads_letter (want : Char) :
    (letter want).Reads (fun c : Letter want => [c.1]) (fun _ => ()) fun _ _ => True := by
  refine .of_injective ?_ ?_ ?_
  · intro c d h
    exact Subtype.ext (List.singleton_inj.mp h)
  · rintro ⟨c, hc⟩ rest -
    simp only [List.singleton_append, letter, hc, if_true]
  · intro s a rest h
    unfold letter at h
    split at h
    · next c cs =>
        split at h
        · next hc =>
            cases h
            exact ⟨⟨c, hc⟩, rfl, rfl, trivial⟩
        · cases h
    · cases h

theorem keyword_eq_some {word s rest : List Char} :
    keyword word s = some ((), rest) ↔ ∃ w, s = w ++ rest ∧ Text.lower w = Text.lower word := by
  induction word generalizing s with
  | nil =>
      constructor
      · rintro ⟨⟩
        exact ⟨[], rfl, rfl⟩
      · rintro ⟨w, rfl, hw⟩
        obtain rfl := List.map_eq_nil_iff.mp hw
        rfl
  | cons c word ih =>
      rw [keyword, bind_apply, Option.bind_eq_some_iff]
      constructor
      · rintro ⟨⟨_, middle⟩, hc, hword⟩
        obtain ⟨⟨d, hd⟩, rfl, -, -⟩ := (reads_letter c).sound hc
        obtain ⟨w, rfl, hw⟩ := ih.mp hword
        refine ⟨d :: w, rfl, ?_⟩
        simp only [Text.sameLetter, beq_iff_eq] at hd
        rw [Text.lower, List.map_cons, hd]
        exact congrArg (_ :: ·) hw
      · rintro ⟨w, rfl, hw⟩
        obtain ⟨d, w, rfl, hd, hw⟩ := List.map_eq_cons_iff.mp hw
        refine ⟨((), w ++ rest), ?_, ih.mpr ⟨w, rfl, hw⟩⟩
        exact (reads_letter c).complete (d := ⟨d, by simpa [Text.sameLetter] using hd⟩) trivial

theorem reads_keyword (word : String) :
    (keyword word.toList).Reads (Subtype.val : Spelling word → _) (fun _ => ())
      fun _ _ => True := by
  refine .of_injective Subtype.val_injective ?_ ?_
  · rintro ⟨w, hw⟩ rest -
    exact keyword_eq_some.mpr ⟨w, rfl, by simpa [Text.sameWord] using hw⟩
  · rintro s ⟨⟩ rest h
    obtain ⟨w, rfl, hw⟩ := keyword_eq_some.mp h
    exact ⟨⟨w, by simpa [Text.sameWord] using hw⟩, rfl, rfl, trivial⟩

theorem reads_char (want : Char) :
    (char want).Reads (fun _ : Unit => [want]) (fun _ => ()) fun _ _ => True := by
  refine .of_injective (Function.injective_of_subsingleton _) ?_ ?_
  · rintro ⟨⟩ rest -
    simp only [List.singleton_append, char, if_true]
  · intro s a rest h
    unfold char at h
    split at h
    · next c cs =>
        split at h
        · next hc =>
            cases h
            exact ⟨(), by rw [hc]; rfl, rfl, trivial⟩
        · cases h
    · cases h

/-- A phrase behind a fixed character. -/
theorem Reads.behind {want : Char} {f : Unit → Scanner α} (hf : (f ()).Reads text value Stop) :
    (char want >>= f).Reads (fun d => want :: text d) value Stop :=
  ((reads_char want).bind fun _ => hf).equiv (Equiv.punitProd D).symm (fun _ => rfl)
    (fun _ => rfl) fun _ _ => Iff.of_eq (true_and _).symm

theorem finish_eq (s : List Char) :
    finish s = if s.dropWhile Text.isBlank = [] then some ((), []) else none := by
  change (if (s.dropWhile Text.isBlank).isEmpty then (pure () : Scanner Unit) else failure)
    (s.dropWhile Text.isBlank) = _
  cases s.dropWhile Text.isBlank with
  | nil => rfl
  | cons c rest => rfl

/-- Blanks up to the end of the line. -/
theorem reads_finish :
    finish.Reads (Subtype.val : Blanks → _) (fun _ => ()) fun _ rest => rest = [] := by
  refine .of_injective Subtype.val_injective ?_ ?_
  · rintro ⟨s, hs⟩ _ rfl
    rw [finish_eq, dropWhile_of_stops hs (stops_nil _), if_pos rfl]
  · intro s a rest h
    rw [finish_eq] at h
    split at h
    · next hblank =>
        cases h
        exact ⟨⟨s, List.dropWhile_eq_nil_iff.mp hblank⟩, (List.append_nil s).symm, rfl, rfl⟩
    · cases h

end Scanner

end Storyboard
