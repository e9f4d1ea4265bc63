import Mathlib
import Storyboard.Timeline.Check

/-!
What passes the checks: a timeline passes if its name and each of its items do, an item if its own
fields and each of its cues and sounds do.
-/

namespace Storyboard

theorem checkWhen_eq_ok {ε : Type} {bad : Bool} {fault : ε} :
    checkWhen bad fault = .ok () ↔ bad = false := by
  cases bad with
  | true => simp [checkWhen]
  | false => simp [checkWhen]

/-- A check behind another one. -/
theorem both_eq_ok {ε : Type} {x y : Except ε Unit} :
    (do x; y) = .ok () ↔ x = .ok () ∧ y = .ok () := by
  cases x with
  | error e => simp [bind, Except.bind]
  | ok u => simp [bind, Except.bind]

theorem forM_eq_ok {ε α : Type} {check : α → Except ε Unit} {xs : List α} :
    xs.forM check = .ok () ↔ ∀ x ∈ xs, check x = .ok () := by
  induction xs with
  | nil => exact ⟨fun _ => List.forall_mem_nil _, fun _ => rfl⟩
  | cons x xs ih =>
      change (do check x; xs.forM check) = .ok () ↔ _
      rw [both_eq_ok, ih, List.forall_mem_cons]

theorem Cue.check_eq_ok {c : Cue} :
    c.check = .ok () ↔ isVoice c.voice = true ∧ c.offset.isFinite = true := by
  rw [check, both_eq_ok, checkWhen_eq_ok, checkWhen_eq_ok, Bool.not_eq_false', Bool.not_eq_false']

/-- An attachment with nothing but a source, an anchor and a finite offset. -/
theorem Attachment.check_plain {source : String} {anchor : Anchor} {offset : Binary64}
    (hsource : source ≠ "") (hoffset : offset.isFinite) :
    (plain source anchor offset).check = .ok () := by
  have hnonempty : source.toList.isEmpty = false := by
    rw [List.isEmpty_eq_false_iff]
    exact fun h => hsource (String.toList_eq_nil_iff.mp h)
  simp only [check, plain, both_eq_ok, checkWhen_eq_ok, hnonempty, hoffset, Bool.not_true,
    Option.all_none, Bool.or_self, true_and]

namespace Item

theorem checkSound_eq_ok {i : Item} :
    i.checkSound = .ok () ↔ (∀ c ∈ i.speech, c.check = .ok ()) ∧ ∀ a ∈ i.audio, a.check = .ok () := by
  rw [checkSound, both_eq_ok, forM_eq_ok, forM_eq_ok]

theorem check_card_eq_ok {c : Card} :
    (Item.card c).check = .ok () ↔
      c.title ≠ "" ∧ c.seconds.isLength = true ∧ (Item.card c).checkSound = .ok () := by
  rw [check, both_eq_ok, both_eq_ok, checkWhen_eq_ok, checkWhen_eq_ok, Bool.not_eq_false',
    List.isEmpty_eq_false_iff, ne_eq, String.toList_eq_nil_iff]

theorem check_cast_eq_ok {c : Cast} :
    (Item.cast c).check = .ok () ↔
      Text.trim c.path.toList ≠ [] ∧ (Item.cast c).checkSound = .ok () := by
  rw [check, both_eq_ok, checkWhen_eq_ok, List.isEmpty_eq_false_iff]

/-- Another narration and other sounds pass the checks where they pass by themselves. -/
theorem check_withSound {i : Item} {speech : List Cue} {audio : List Attachment}
    (h : i.check = .ok ()) (hspeech : ∀ c ∈ speech, c.check = .ok ())
    (haudio : ∀ a ∈ audio, a.check = .ok ()) : (i.withSound speech audio).check = .ok () := by
  have hsound : (i.withSound speech audio).checkSound = .ok () := by
    cases i with
    | transition t => rfl
    | card c | cast c => exact checkSound_eq_ok.mpr ⟨hspeech, haudio⟩
  cases i with
  | transition t => rfl
  | card c =>
      obtain ⟨htitle, hseconds, -⟩ := check_card_eq_ok.mp h
      exact check_card_eq_ok.mpr ⟨htitle, hseconds, hsound⟩
  | cast c => exact check_cast_eq_ok.mpr ⟨(check_cast_eq_ok.mp h).1, hsound⟩

theorem checkSound_of_check {i : Item} (h : i.check = .ok ()) : i.checkSound = .ok () := by
  cases i with
  | transition t => rfl
  | card c => exact (check_card_eq_ok.mp h).2.2
  | cast c => exact (check_cast_eq_ok.mp h).2

end Item

namespace Timeline

theorem checkName_eq_ok {name : String} :
    checkName name = .ok () ↔ Text.trim name.toList ≠ [] ∧
      name ≠ "." ∧ name ≠ ".." ∧ '/' ∉ name.toList ∧ '\\' ∉ name.toList := by
  rw [checkName, both_eq_ok, checkWhen_eq_ok, checkWhen_eq_ok, List.isEmpty_eq_false_iff]
  refine and_congr_right' ?_
  simp only [Bool.or_eq_false_iff, decide_eq_false_iff_not, List.any_eq_false, isSeparator,
    Bool.or_eq_true, decide_eq_true_eq, not_or, and_assoc]
  refine and_congr_right' (and_congr_right' ?_)
  constructor
  · intro hall
    exact ⟨fun hc => (hall _ hc).1 rfl, fun hc => (hall _ hc).2 rfl⟩
  · rintro ⟨hslash, hback⟩ c hc
    exact ⟨fun he => hslash (he ▸ hc), fun he => hback (he ▸ hc)⟩

theorem checkItems_eq_ok {index : Nat} {items : List Item} :
    checkItems index items = .ok () ↔ ∀ i ∈ items, i.check = .ok () := by
  induction items generalizing index with
  | nil => exact ⟨fun _ => List.forall_mem_nil _, fun _ => rfl⟩
  | cons i items ih =>
      have hitem : i.check.mapError (Fault.item index) = .ok () ↔ i.check = .ok () := by
        cases i.check with
        | error fault => simp [Except.mapError]
        | ok u => simp [Except.mapError]
      rw [checkItems, both_eq_ok, ih, List.forall_mem_cons, hitem]

theorem check_eq_ok {t : Timeline} :
    t.check = .ok () ↔ checkName t.name = .ok () ∧ ∀ i ∈ t.items, i.check = .ok () := by
  rw [check, both_eq_ok, checkItems_eq_ok]

theorem isVoice_of_check {t : Timeline} (h : t.check = .ok ()) {i : Item} (hi : i ∈ t.items)
    {c : Cue} (hc : c ∈ i.speech) : Cue.isVoice c.voice = true := by
  have hitem := (check_eq_ok.mp h).2 i hi
  have hcues := (Item.checkSound_eq_ok.mp (Item.checkSound_of_check hitem)).1
  exact (Cue.check_eq_ok.mp (hcues c hc)).1

end Timeline

end Storyboard
