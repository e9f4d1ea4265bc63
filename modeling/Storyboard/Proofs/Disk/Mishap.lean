import Mathlib
import Storyboard.Proofs.Disk.Change

/-!
What stays of the files when they are changed and when that fails. A change leaves alone what does
not lie at the path that it is for; directories are made only where there is nothing. Amid a mishap,
the directories made before it and the bytes written before it stay, and nothing else is changed.
-/

namespace Storyboard

namespace Store

/-- What stands at some locations is the same. -/
def SameAt (X : Location → Prop) (s s' : Store) : Prop :=
  ∀ l, X l → s'.find? l = s.find? l

/-- Of the directories at some paths none has to be made at some locations. -/
def Clears (X : Location → Prop) (s : Store) (paths : List String) : Prop :=
  ∀ path ∈ paths, s.find? (Path.place path) = none → ¬ X (Path.place path)

variable {X Y : Location → Prop} {s s' s'' : Store} {path : String}
  {paths inner outer : List String}

namespace SameAt

protected theorem refl (X : Location → Prop) (s : Store) : SameAt X s s :=
  fun _ _ => rfl

protected theorem trans (h : SameAt X s s') (h' : SameAt X s' s'') : SameAt X s s'' :=
  fun l hl => (h' l hl).trans (h l hl)

theorem of_changesAt {l : Location} (h : s.ChangesAt l s') (hl : ¬ X l) : SameAt X s s' := by
  intro m hm
  refine h.find?_eq ?_
  rintro rfl
  exact hl hm

theorem of_write {content : ByteArray} (h : s.write path content = .ok s')
    (hpath : ¬ X (Path.place path)) : SameAt X s s' := by
  obtain ⟨l, hl, hwrite⟩ := write_eq_ok.mp h
  obtain rfl := locate_eq_ok (locate_of_locateNew hl)
  exact of_changesAt (changesAt_writeAt hwrite) hpath

theorem of_remove (h : s.remove path = .ok s') (hpath : ¬ X (Path.place path)) :
    SameAt X s s' := by
  obtain ⟨_, _, _, rfl⟩ := remove_eq_ok h
  exact of_changesAt changesAt_erase hpath

end SameAt

namespace Clears

theorem of_sameAt (h : s.Clears X paths) (hsame : s.SameAt X s') : s'.Clears X paths := by
  intro path hpath hnone hX
  exact h path hpath ((hsame _ hX).symm.trans hnone) hX

theorem mono (h : s.Clears X paths) (hYX : ∀ l, Y l → X l) : s.Clears Y paths :=
  fun path hpath hnone hY => h path hpath hnone (hYX _ hY)

end Clears

theorem sameAt_makeDirectory (h : s.makeDirectory path = .ok s')
    (hclear : s.find? (Path.place path) = none → ¬ X (Path.place path)) : s.SameAt X s' := by
  unfold makeDirectory at h
  cases hl : s.locateAlong path (Path.dropSlashes (Path.pieces path.toList)) with
  | error cause =>
      simp only [hl, bind, Except.bind] at h
      cases h
  | ok l =>
      obtain rfl := place_of_steps hl
      simp only [hl, bind, Except.bind] at h
      split at h
      · cases h
      · next hfree =>
          split at h
          · cases h
          · cases h
            rw [Bool.or_eq_true, not_or] at hfree
            have hnone := Option.not_isSome_iff_eq_none.mp hfree.2
            exact .of_changesAt (changesAt_put _) (hclear hnone)

theorem sameAt_makeEach (hclear : s.Clears X paths) : s.SameAt X (s.makeEach paths).2 := by
  induction paths generalizing s with
  | nil => exact .refl X s
  | cons path paths ih =>
      obtain ⟨hfirst, hrest⟩ := List.forall_mem_cons.mp hclear
      rw [makeEach]
      split
      · next s₁ hmade =>
          have hsame : s.SameAt X s₁ := sameAt_makeDirectory hmade hfirst
          exact hsame.trans (ih (Clears.of_sameAt hrest hsame))
      · split
        · exact ih hrest
        · exact .refl X s

theorem sameAt_makeAmong (hinner : s.Clears X inner) (houter : s.Clears X outer) :
    s.SameAt X (s.makeAmong inner outer).2 := by
  induction outer generalizing inner with
  | nil => exact sameAt_makeEach hinner
  | cons path outer ih =>
      obtain ⟨hfirst, hrest⟩ := List.forall_mem_cons.mp houter
      rw [makeAmong]
      split
      · next s₁ hmade =>
          have hsame : s.SameAt X s₁ := sameAt_makeDirectory hmade hfirst
          exact hsame.trans (sameAt_makeEach (hinner.of_sameAt hsame))
      · exact ih (List.forall_mem_cons.mpr ⟨hfirst, hinner⟩) hrest
      · split
        · exact sameAt_makeEach hinner
        · exact .refl X s

theorem sameAt_makeDirectories (hclear : s.Clears X (Path.lineage path)) :
    s.SameAt X (s.makeDirectories path).2 :=
  sameAt_makeAmong (List.forall_mem_nil _) hclear

/-! ### Changes amid mishaps -/

variable {content : ByteArray} {mishap : Option Mishap}

/-- A mishap leaves some of the directories made, from the outside in. -/
theorem makeDirectoriesAmid_snd (s : Store) (path : String) (mishap : Option Mishap) :
    (s.makeDirectoriesAmid path mishap).2 = (s.makeDirectories path).2 ∨
      ∃ n, (s.makeDirectoriesAmid path mishap).2 =
        (s.makeEach ((Path.lineage path).reverse.take n)).2 := by
  obtain _ | ⟨cause, progress⟩ := mishap
  · exact .inl rfl
  · refine .inr ⟨progress.getD 0, ?_⟩
    rw [makeDirectoriesAmid]
    split
    all_goals
      next hpart => rw [hpart]

/-- Directories are made amid a mishap only where there is none. -/
theorem makeDirectoriesAmid_eq_ok (h : s.makeDirectoriesAmid path mishap = (.ok (), s')) :
    s.makeDirectories path = (.ok (), s') := by
  obtain _ | ⟨cause, progress⟩ := mishap
  · exact h
  · rw [makeDirectoriesAmid] at h
    split at h <;> cases h

theorem addsDirectories_makeDirectoriesAmid (s : Store) (path : String) (mishap : Option Mishap) :
    s.AddsDirectories (s.makeDirectoriesAmid path mishap).2 := by
  obtain hmade | ⟨n, hmade⟩ := makeDirectoriesAmid_snd s path mishap
  · rw [hmade]
    exact addsDirectories_makeDirectories s path
  · rw [hmade]
    exact addsDirectories_makeEach s _

theorem sameAt_makeDirectoriesAmid (hclear : s.Clears X (Path.lineage path))
    (mishap : Option Mishap) : s.SameAt X (s.makeDirectoriesAmid path mishap).2 := by
  obtain hmade | ⟨n, hmade⟩ := makeDirectoriesAmid_snd s path mishap
  · rw [hmade]
    exact sameAt_makeDirectories hclear
  · rw [hmade]
    exact sameAt_makeEach fun outer houter =>
      hclear outer (List.mem_reverse.mp (List.mem_of_mem_take houter))

theorem writeAmid_eq_ok (h : s.writeAmid path content mishap = (.ok (), s')) :
    s.write path content = .ok s' := by
  obtain _ | ⟨cause, _ | n⟩ := mishap
  · rw [writeAmid] at h
    split at h
    · next s₁ hwrite =>
        cases h
        exact hwrite
    · cases h
  · cases h
  · rw [writeAmid] at h
    split at h <;> cases h

/-- Where a file could not be written, all is as it was, or a mishap came about when some bytes were
written. -/
theorem writeAmid_eq_error {cause : FileError}
    (h : s.writeAmid path content mishap = (.error cause, s')) :
    s' = s ∨ ∃ n, mishap = some ⟨cause, some n⟩ ∧ s.write path (content.extract 0 n) = .ok s' := by
  obtain _ | ⟨failure, _ | n⟩ := mishap
  · rw [writeAmid] at h
    split at h
    · cases h
    · cases h
      exact .inl rfl
  · cases h
    exact .inl rfl
  · rw [writeAmid] at h
    split at h
    · next s₁ hwrite =>
        cases h
        exact .inr ⟨n, rfl, hwrite⟩
    · cases h
      exact .inl rfl

/-- Writing leaves all as it was, or it leaves something written. -/
theorem writeAmid_snd (s : Store) (path : String) (content : ByteArray) (mishap : Option Mishap) :
    (s.writeAmid path content mishap).2 = s ∨
      ∃ part, s.write path part = .ok (s.writeAmid path content mishap).2 := by
  cases hdone : s.writeAmid path content mishap with
  | mk result s' =>
      cases result with
      | ok _ => exact .inr ⟨content, writeAmid_eq_ok hdone⟩
      | error cause => exact (writeAmid_eq_error hdone).imp_right fun ⟨n, _, hwrite⟩ => ⟨_, hwrite⟩

theorem sameAt_writeAmid (hpath : ¬ X (Path.place path)) :
    s.SameAt X (s.writeAmid path content mishap).2 := by
  obtain hsame | ⟨part, hwrite⟩ := writeAmid_snd s path content mishap
  · rw [hsame]
    exact .refl X s
  · exact .of_write hwrite hpath

theorem removeAmid_eq_ok (h : s.removeAmid path mishap = .ok s') :
    s.remove path = .ok s' := by
  cases mishap with
  | none => exact h
  | some mishap => cases h

end Store

end Storyboard
