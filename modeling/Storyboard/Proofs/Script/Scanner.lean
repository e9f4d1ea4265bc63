import Mathlib
import Storyboard.Proofs.Number.Rounding
import Storyboard.Script.Statement
import Storyboard.Timeline.Check

/-!
What scanners give. A property of a scanner's meanings is proved along the scanner: a sequence gives
what its last part gives, where each part may rely on the properties of those before it. So a line
that is understood says something whose texts are in order; only its numbers may be too large.
-/

namespace Storyboard

/-! ### Blank texts -/

namespace Text

variable {c : Char} {s : List Char}

theorem mem_dropWhile_isBlank (hc : isBlank c = false) : c ∈ s.dropWhile isBlank ↔ c ∈ s := by
  constructor
  · intro h
    exact (List.dropWhile_sublist isBlank).subset h
  · intro h
    rw [← List.takeWhile_append_dropWhile (p := isBlank) (l := s)] at h
    rcases List.mem_append.mp h with htaken | hleft
    · rw [List.mem_takeWhile_imp htaken] at hc
      cases hc
    · exact hleft

theorem mem_trim (hc : isBlank c = false) : c ∈ trim s ↔ c ∈ s := by
  rw [trim, trimEnd, List.mem_reverse, mem_dropWhile_isBlank hc, List.mem_reverse, trimStart,
    mem_dropWhile_isBlank hc]

theorem trim_ne_nil_iff : trim s ≠ [] ↔ ∃ c ∈ s, isBlank c = false := by
  constructor
  · intro h
    by_contra hblank
    refine h ?_
    have hall : ∀ c ∈ s, isBlank c = true := by
      intro c hc
      by_contra hc'
      exact hblank ⟨c, hc, Bool.eq_false_iff.mpr hc'⟩
    rw [trim, trimStart, List.dropWhile_eq_nil_iff.mpr hall]
    rfl
  · rintro ⟨c, hmem, hc⟩
    exact List.ne_nil_of_mem ((mem_trim hc).mpr hmem)

theorem trim_trim_ne_nil (h : trim s ≠ []) : trim (trim s) ≠ [] := by
  obtain ⟨c, hmem, hc⟩ := trim_ne_nil_iff.mp h
  exact trim_ne_nil_iff.mpr ⟨c, (mem_trim hc).mpr hmem, hc⟩

end Text

/-! ### Scanners -/

namespace Scanner

variable {α β : Type}

/-- Whatever the scanner takes, its meaning has the property. -/
def Yields (p : Scanner α) (P : α → Prop) : Prop :=
  ∀ s a rest, p s = some (a, rest) → P a

theorem yields_true (p : Scanner α) : p.Yields fun _ => True :=
  fun _ _ _ _ => trivial

theorem yields_pure {P : α → Prop} {a : α} (h : P a) : Yields (pure a) P := by
  intro s b rest hb
  cases hb
  exact h

theorem yields_failure (P : α → Prop) : Yields failure P := by
  intro s b rest hb
  cases hb

theorem Yields.bind {p : Scanner α} {f : α → Scanner β} {P : α → Prop} {Q : β → Prop}
    (hp : p.Yields P) (hf : ∀ a, P a → (f a).Yields Q) : (p >>= f).Yields Q := by
  intro s b rest hb
  change (p s).bind (fun x => f x.1 x.2) = some (b, rest) at hb
  obtain ⟨⟨a, s'⟩, ha, hr⟩ := Option.bind_eq_some_iff.mp hb
  exact hf a (hp s a s' ha) s' b rest hr

/-- What follows a scanner whose meaning does not matter. -/
theorem yields_bind {p : Scanner α} {f : α → Scanner β} {Q : β → Prop}
    (hf : ∀ a, (f a).Yields Q) : (p >>= f).Yields Q :=
  (yields_true p).bind fun a _ => hf a

theorem yields_ite {c : Prop} [Decidable c] {p q : Scanner α} {P : α → Prop} (hp : p.Yields P)
    (hq : q.Yields P) : Yields (if c then p else q) P := by
  split
  · exact hp
  · exact hq

theorem Yields.maybe {p : Scanner α} {P : α → Prop} (hp : p.Yields P) :
    (maybe p).Yields fun o => ∀ a ∈ o, P a := by
  intro s o rest h
  unfold Scanner.maybe at h
  split at h
  · next a _ ha =>
      cases h
      intro b hb
      cases hb
      exact hp s a _ ha
  · cases h
    intro b hb
    cases hb

theorem yields_run (p : Char → Bool) : (run p).Yields fun s => s ≠ [] ∧ ∀ c ∈ s, p c = true := by
  intro s a rest h
  unfold run at h
  split at h
  · cases h
  · next c cs htaken =>
      cases h
      refine ⟨List.cons_ne_nil c cs, ?_⟩
      intro x hx
      rw [← htaken] at hx
      exact List.mem_takeWhile_imp hx

theorem Yields.onLine? {p : Scanner α} {P : α → Prop} (hp : p.Yields P) {line : List Char} {a : α}
    (h : p.onLine? line = some a) : P a := by
  obtain ⟨⟨b, rest⟩, hb, rfl⟩ := Option.map_eq_some_iff.mp h
  exact hp line b rest hb

end Scanner

/-! ### Lines -/

/-- An item whose texts are in order: what the checks ask of it apart from numbers that are too
large. -/
structure Item.Formed (i : Item) : Prop where
  card : ∀ c, i = .card c → c.title ≠ "" ∧ Binary64.zero.le c.seconds = true
  cast : ∀ c, i = .cast c → Text.trim c.path.toList ≠ []
  speech : ∀ c ∈ i.speech, Cue.isVoice c.voice = true
  audio : i.audio = []

namespace Statement
open Scanner

/-- A clip as a line gives it: without narration or sound. -/
def Silent : Statement → Prop
  | .card c => c.speech = [] ∧ c.audio = []
  | .cast c => c.speech = [] ∧ c.audio = []
  | _ => True

def Formed : Statement → Prop
  | .name n => Text.trim n.toList ≠ []
  | .card c => (Item.card c).Formed
  | .cast c => (Item.cast c).Formed
  | .say c => Cue.isVoice c.voice = true
  | .blank | .transition _ => True

theorem formed_nameLine : nameLine.Yields fun s => s.Silent ∧ s.Formed := by
  refine yields_bind fun _ => yields_bind fun _ => yields_bind fun _ => yields_bind fun rest => ?_
  dsimp only
  split
  · exact yields_failure _
  · next hname =>
      refine yields_pure ⟨trivial, ?_⟩
      rw [Formed, String.toList_ofList]
      exact Text.trim_trim_ne_nil fun h => hname (List.isEmpty_iff.mpr h)

theorem formed_fadeLine : fadeLine.Yields fun s => s.Silent ∧ s.Formed :=
  yields_bind fun _ => yields_bind fun _ => yields_bind fun _ => yields_bind fun _ =>
    yields_pure ⟨trivial, trivial⟩

theorem formed_swipeLine : swipeLine.Yields fun s => s.Silent ∧ s.Formed :=
  yields_bind fun _ => yields_bind fun _ => yields_bind fun _ => yields_bind fun _ =>
    yields_bind fun _ => yields_bind fun _ => yields_pure ⟨trivial, trivial⟩

theorem yields_number : number.Yields fun x => Binary64.zero.le x = true := by
  refine yields_bind fun s => ?_
  split
  · exact yields_pure (Binary64.zero_le_ofRatio _ _)
  · exact yields_failure _

theorem yields_seconds : seconds.Yields fun x => Binary64.zero.le x = true :=
  yields_bind fun _ => yields_bind fun _ => yields_bind fun _ => yields_number.bind fun _ hx =>
    yields_bind fun _ => yields_pure hx

theorem yields_quoted : quoted.Yields (· ≠ []) :=
  yields_bind fun _ => (yields_run _).bind fun _ hs => yields_bind fun _ => yields_pure hs.1

theorem formed_cardLine : cardLine.Yields fun s => s.Silent ∧ s.Formed := by
  refine yields_bind fun _ => yields_bind fun _ => yields_quoted.bind fun title htitle =>
    yields_bind fun _ => yields_seconds.maybe.bind fun secs hsecs => yields_bind fun _ =>
    yields_pure ⟨⟨rfl, rfl⟩, ?_, ?_, List.forall_mem_nil _, rfl⟩
  · rintro c ⟨⟩
    refine ⟨fun h => htitle (String.ofList_eq_empty_iff.mp h), ?_⟩
    cases secs with
    | none => exact Binary64.zero_le_finite Binary64.holds_zero
    | some x => exact hsecs x rfl
  · intro c hc
    cases hc

theorem formed_castLine : castLine.Yields fun s => s.Silent ∧ s.Formed := by
  refine yields_bind fun _ => yields_bind fun _ => (yields_run _).bind fun path hpath =>
    yields_bind fun _ => yields_bind fun _ => yields_bind fun _ => yields_bind fun _ =>
    yields_bind fun _ => yields_pure ⟨⟨rfl, rfl⟩, ?_, ?_, List.forall_mem_nil _, rfl⟩
  · intro c hc
    cases hc
  · rintro c ⟨⟩
    obtain ⟨hne, hall⟩ := hpath
    obtain ⟨x, hx⟩ := List.exists_mem_of_ne_nil path hne
    have hblank : Text.isBlank x = false := by simpa using hall x hx
    rw [String.toList_ofList]
    exact Text.trim_ne_nil_iff.mpr ⟨x, hx, hblank⟩

theorem yields_voice : voice.Yields fun v => Cue.isVoice v = true := by
  refine yields_bind fun _ => yields_bind fun _ => (yields_run _).bind fun s hs => yields_pure ?_
  obtain ⟨hne, hall⟩ := hs
  rw [Cue.isVoice, String.toList_ofList, List.isEmpty_eq_false_iff.mpr hne]
  exact List.all_eq_true.mpr hall

theorem yields_sayOptions : sayOptions.Yields fun o => ∀ v ∈ o.voice, Cue.isVoice v = true :=
  yields_bind fun _ => yields_voice.maybe.bind fun _ hvoice => yields_bind fun _ =>
    yields_bind fun _ => yields_pure hvoice

theorem voice_of_spoken? {s text : List Char} {o : SayOptions} (h : spoken? s = some (text, o)) :
    ∀ v ∈ o.voice, Cue.isVoice v = true := by
  -- Whichever quotation mark ends the text, the options stand behind it.
  fun_induction spoken? s generalizing text with
  | case1 => cases h
  | case2 rest options hoptions =>
      cases h
      exact yields_sayOptions.onLine? hoptions
  | case3 rest hoptions ih | case4 c rest hc ih =>
      obtain ⟨⟨text', o'⟩, htext, heq⟩ := Option.map_eq_some_iff.mp h
      cases heq
      exact ih htext

theorem formed_sayLine : sayLine.Yields fun s => s.Silent ∧ s.Formed := by
  refine yields_bind fun _ => yields_ite (yields_bind fun _ => ?_) ?_
  all_goals
    refine yields_bind fun _ => yields_bind fun _ => yields_bind fun _ => yields_bind fun s => ?_
    split
    · next text o hspoken =>
        refine yields_pure ⟨trivial, ?_⟩
        have hvoice := voice_of_spoken? hspoken
        rw [Formed]
        cases ho : o.voice with
        | none => exact (by decide : Cue.isVoice Cue.defaultVoice = true)
        | some v => exact hvoice v ho
    · exact yields_failure _

theorem formed_of_ofLine? {line : List Char} {s : Statement} (h : ofLine? line = some s) :
    s.Silent ∧ s.Formed := by
  obtain ⟨rule, hrule, happly⟩ := List.exists_of_findSome?_eq_some h
  simp only [rules, List.mem_cons, List.not_mem_nil, or_false] at hrule
  rcases hrule with rfl | rfl | rfl | rfl | rfl | rfl | rfl
  · unfold blankLine at happly
    split at happly <;> cases happly <;> exact ⟨trivial, trivial⟩
  · exact formed_nameLine.onLine? happly
  · exact formed_fadeLine.onLine? happly
  · exact formed_swipeLine.onLine? happly
  · exact formed_cardLine.onLine? happly
  · exact formed_castLine.onLine? happly
  · exact formed_sayLine.onLine? happly

/-- Clips open without narration or sound. -/
theorem silent_of_ofLine? {line : List Char} {s : Statement} (h : ofLine? line = some s) :
    s.Silent :=
  (formed_of_ofLine? h).1

end Statement

end Storyboard
