import Mathlib
import Storyboard.Proofs.Script.Blocks
import Storyboard.Proofs.Timeline.Check

/-!
Scripts and the checks before a build. What lines say is in order but for numbers that are too
large, and the compiler keeps it so; of the name only that it is not blank. So what a script can
still fail in the checks is told by its name and its numbers.
-/

namespace Storyboard

theorem Binary64.isLength_of_le {x : Binary64} (h : zero.le x = true) : x.isLength = x.isFinite := by
  rw [isLength, lt, h, Bool.not_true, Bool.and_false, Bool.not_false, Bool.and_true]

namespace Item

variable {i : Item}

/-- An item in order passes the checks if its numbers are finite. -/
theorem Formed.check_eq_ok (h : i.Formed) :
    i.check = .ok () ↔ (∀ c, i = .card c → c.seconds.isFinite = true) ∧
      ∀ c ∈ i.speech, c.offset.isFinite = true := by
  have hsound : i.checkSound = .ok () ↔ ∀ c ∈ i.speech, c.offset.isFinite = true := by
    rw [checkSound_eq_ok, h.audio]
    constructor
    · intro hcues c hc
      exact (Cue.check_eq_ok.mp (hcues.1 c hc)).2
    · intro hoffsets
      refine ⟨?_, List.forall_mem_nil _⟩
      intro c hc
      exact Cue.check_eq_ok.mpr ⟨h.speech c hc, hoffsets c hc⟩
  rw [← hsound]
  cases i with
  | transition t =>
      constructor
      · intro hcheck
        refine ⟨?_, hcheck⟩
        intro c hc
        cases hc
      · intro hboth
        exact hboth.2
  | card c =>
      obtain ⟨htitle, hseconds⟩ := h.card c rfl
      rw [check_card_eq_ok, Binary64.isLength_of_le hseconds]
      constructor
      · rintro ⟨-, hfinite, hrest⟩
        refine ⟨?_, hrest⟩
        rintro d ⟨⟩
        exact hfinite
      · rintro ⟨hfinite, hrest⟩
        exact ⟨htitle, hfinite c rfl, hrest⟩
  | cast c =>
      rw [check_cast_eq_ok]
      constructor
      · rintro ⟨-, hrest⟩
        refine ⟨?_, hrest⟩
        intro d hd
        cases hd
      · rintro ⟨-, hrest⟩
        exact ⟨h.cast c rfl, hrest⟩

theorem formed_transition (t : Transition) : (Item.transition t).Formed := by
  refine ⟨?_, ?_, List.forall_mem_nil _, rfl⟩
  · intro c hc
    cases hc
  · intro c hc
    cases hc

theorem Formed.say (h : i.Formed) {cue : Cue} (hcue : Cue.isVoice cue.voice = true) :
    (i.withSound (i.speech ++ [cue]) i.audio).Formed := by
  have hspeech : ∀ c ∈ i.speech ++ [cue], Cue.isVoice c.voice = true :=
    List.forall_mem_append.mpr ⟨h.speech, List.forall_mem_singleton.mpr hcue⟩
  cases i with
  | transition t => exact h
  | card c =>
      refine ⟨?_, fun d hd => (by cases hd), hspeech, h.audio⟩
      rintro d ⟨⟩
      exact h.card c rfl
  | cast c =>
      refine ⟨fun d hd => (by cases hd), ?_, hspeech, h.audio⟩
      rintro d ⟨⟩
      exact h.cast c rfl

end Item

namespace Script

/-- A draft in order: its name is not blank, and every item in it is in order. -/
structure Draft.Formed (d : Draft) : Prop where
  name : Text.trim d.name.toList ≠ []
  items : ∀ i ∈ d.allItems, i.Formed

namespace Draft

variable {d d' : Draft} {s : Statement}

theorem formed_empty : empty.Formed :=
  ⟨by decide, List.forall_mem_nil _⟩

theorem Formed.openClip (h : d.Formed) {clip : Item} (hclip : clip.Formed) :
    (d.openClip clip).Formed :=
  ⟨h.name, List.forall_mem_append.mpr ⟨h.items, List.forall_mem_singleton.mpr hclip⟩⟩

theorem Formed.take (h : d.Formed) (hs : s.Formed) (htake : d.take s = some d') : d'.Formed := by
  cases s with
  | blank =>
      cases htake
      exact h
  | name n =>
      cases htake
      exact ⟨hs, h.items⟩
  | transition t =>
      cases htake
      refine ⟨h.name, ?_⟩
      rw [allItems, Option.toList_none, List.append_nil]
      exact List.forall_mem_append.mpr
        ⟨h.items, List.forall_mem_singleton.mpr (Item.formed_transition t)⟩
  | card c =>
      cases htake
      exact h.openClip hs
  | cast c =>
      cases htake
      exact h.openClip hs
  | say cue =>
      obtain ⟨clip, hclip, rfl⟩ := Option.map_eq_some_iff.mp htake
      have hall : d.allItems = d.items ++ [clip] := by
        rw [allItems, hclip]
        rfl
      obtain ⟨hclosed, hopen⟩ := List.forall_mem_append.mp (hall ▸ h.items)
      have hsaid := (List.forall_mem_singleton.mp hopen).say hs
      exact ⟨h.name, List.forall_mem_append.mpr ⟨hclosed, List.forall_mem_singleton.mpr hsaid⟩⟩

end Draft

/-- Whatever lines it takes, the compiler keeps a draft in order. -/
theorem formed_compileLines {number : Nat} {d d' : Draft} {lines : List (List Char)}
    (hd : d.Formed) (h : compileLines number d lines = .ok d') : d'.Formed := by
  induction lines generalizing number d with
  | nil =>
      cases h
      exact hd
  | cons raw lines ih =>
      obtain ⟨s, next, hs, htake, hrest⟩ := compileLines_cons_ok h
      exact ih (hd.take (Statement.formed_of_ofLine? hs).2 htake) hrest

theorem formed_of_compile {script : String} {t : Timeline} (h : compile script = .ok t) :
    Text.trim t.name.toList ≠ [] ∧ ∀ i ∈ t.items, i.Formed := by
  unfold compile at h
  cases hd : compileLines 1 .empty (Text.lines script.toList) with
  | error e =>
      rw [hd] at h
      cases h
  | ok d =>
      rw [hd] at h
      cases h
      obtain ⟨hname, hitems⟩ := formed_compileLines Draft.formed_empty hd
      exact ⟨hname, hitems⟩

/-- A timeline from a script passes the checks if its name does as one part of a path and its
lengths and offsets are finite; nothing else that the checks ask for can be missing. -/
theorem check_of_compile {script : String} {t : Timeline} (h : compile script = .ok t) :
    (t.check = .ok () ↔
      t.name ≠ "." ∧ t.name ≠ ".." ∧ '/' ∉ t.name.toList ∧ '\\' ∉ t.name.toList ∧
      (∀ c, .card c ∈ t.items → c.seconds.isFinite = true) ∧
      ∀ i ∈ t.items, ∀ c ∈ i.speech, c.offset.isFinite = true) ∧
    Text.trim t.name.toList ≠ [] ∧ ∀ i ∈ t.items, i.Formed := by
  obtain ⟨hname, hitems⟩ := formed_of_compile h
  refine ⟨?_, hname, hitems⟩
  rw [Timeline.check_eq_ok, Timeline.checkName_eq_ok, and_iff_right hname, and_assoc, and_assoc,
    and_assoc]
  refine and_congr_right' (and_congr_right' (and_congr_right' (and_congr_right' ?_)))
  constructor
  · intro hall
    constructor
    · intro c hc
      exact ((hitems _ hc).check_eq_ok.mp (hall _ hc)).1 c rfl
    · intro i hi
      exact ((hitems i hi).check_eq_ok.mp (hall i hi)).2
  · rintro ⟨hseconds, hoffsets⟩ i hi
    refine (hitems i hi).check_eq_ok.mpr ⟨?_, hoffsets i hi⟩
    rintro c rfl
    exact hseconds c hi

/-- A script with a name that stands for the directory itself. -/
def dotted : String :=
  "timeline: .\ncard \"A\" @2\n  say \"hi\" @0.5 voice=bf_emma\n"

/-- Such a script compiles, and only the check of names stops it. -/
theorem check_of_compile_dotted :
    ∃ t, compile dotted = .ok t ∧ t.check ≠ .ok () ∧ ∀ i ∈ t.items, i.Formed := by
  let t : Timeline := ⟨".", [.card ⟨"A", none, .ofNat 2,
    [⟨"hi", "bf_emma", .inBegin, .ofRatio 1 2⟩], []⟩]⟩
  have hcompile : compile dotted = .ok t := by decide +kernel
  obtain ⟨hcheck, -, hitems⟩ := check_of_compile hcompile
  refine ⟨t, hcompile, ?_, hitems⟩
  intro hok
  exact (hcheck.mp hok).1 rfl

end Script

end Storyboard
