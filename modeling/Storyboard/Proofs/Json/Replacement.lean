import Mathlib
import Storyboard.Proofs.Json.Rearrangement

/-!
Replacements inside records and lists that need not go both ways: the value of one field gives way
to another one, and where a reader took what was there, it takes the same from what came.
-/

namespace Storyboard.Json

/-- A record in one field of which, wherever it stands, a value is replaced. -/
inductive InField (name : String) (index : Nat) (R : Json → Json → Prop) : Json → Json → Prop where
  | member {before after : List (Option String × Json)} {v v' : Json} :
      R v v' → InField name index R (.object (before ++ (some name, v) :: after))
        (.object (before ++ (some name, v') :: after))
  | value {before after : List Json} {v v' : Json} :
      before.length = index → R v v' →
        InField name index R (.array (before ++ v :: after)) (.array (before ++ v' :: after))

/-! ### Acceptance -/

mutual

/-- What is accepted at a depth is accepted at a greater one. -/
theorem sound_mono {depth depth' : Nat} (hle : depth ≤ depth') :
    ∀ v : Json, v.sound depth → v.sound depth'
  | .null, _ | .bool _, _ => rfl
  | .number _, h | .text _, h => h
  | .array values, h => by
      rw [sound, Bool.and_eq_true, decide_eq_true_eq] at h ⊢
      exact ⟨h.1.trans_le hle, soundValues_mono (by omega) values h.2⟩
  | .object members, h => by
      rw [sound, Bool.and_eq_true, decide_eq_true_eq] at h ⊢
      exact ⟨h.1.trans_le hle, soundMembers_mono (by omega) members h.2⟩

theorem soundValues_mono {depth depth' : Nat} (hle : depth ≤ depth') :
    ∀ values : List Json, soundValues depth values → soundValues depth' values
  | [], _ => rfl
  | v :: values, h => by
      rw [soundValues, Bool.and_eq_true] at h ⊢
      exact ⟨sound_mono hle v h.1, soundValues_mono hle values h.2⟩

theorem soundMembers_mono {depth depth' : Nat} (hle : depth ≤ depth') :
    ∀ members : List (Option String × Json), soundMembers depth members → soundMembers depth' members
  | [], _ => rfl
  | (_, v) :: members, h => by
      rw [soundMembers, Bool.and_eq_true, Bool.and_eq_true] at h ⊢
      exact ⟨⟨h.1.1, sound_mono hle v h.1.2⟩, soundMembers_mono hle members h.2⟩

end

variable {R : Json → Json → Prop} {v v' : Json} {name : String} {index depth : Nat}

/-- A record is accepted after a replacement if the value that came is. -/
theorem InField.sound (h : InField name index R v v')
    (hR : ∀ w w', R w w' → w.sound (depth - 1) → w'.sound (depth - 1)) (hv : v.sound depth) :
    v'.sound depth := by
  cases h with
  | member hvv' =>
      have hnew := hR _ _ hvv'
      simp only [Json.sound, soundMembers_eq, List.all_append, List.all_cons, Bool.and_eq_true]
        at hv ⊢
      exact ⟨hv.1, hv.2.1, ⟨hv.2.2.1.1, hnew hv.2.2.1.2⟩, hv.2.2.2⟩
  | value _ hvv' =>
      have hnew := hR _ _ hvv'
      simp only [Json.sound, soundValues_eq, List.all_append, List.all_cons, Bool.and_eq_true]
        at hv ⊢
      exact ⟨hv.1, hv.2.1, hnew hv.2.2.1, hv.2.2.2⟩

/-! ### Readers -/

namespace Record

variable {fields : List Field} {f : Field} {α : Type} {a : α}

/-- Where the value of a field is replaced, records are alike up to what happened inside it. -/
theorem InField.alike (h : InField name index R v v') (hapart : Apart fields)
    (hf : fields[index]? = some ⟨[name], R⟩) : Alike fields v v' := by
  have hmem : (⟨[name], R⟩ : Field) ∈ fields := List.mem_of_getElem? hf
  cases h with
  | @member before after w w' hww' =>
      refine .named fun i f hi => ?_
      have hfirst : Rearranged fields (fun _ => False)
          (.object ((some name, w) :: (before ++ after)))
          (.object ((some name, w') :: (before ++ after))) :=
        .inMember hmem (List.mem_singleton_self name) hww'
      rw [field?_perm List.perm_middle, field?_perm List.perm_middle]
      exact hfirst.revised_named hapart (List.mem_of_getElem? hi) i
  | @value before after w w' hlength hww' =>
      subst hlength
      have hvalue : Rearranged fields (fun _ => False) (.array (before ++ w :: after))
          (.array (before ++ w' :: after)) := .inValue hf hww'
      exact .listed (by simp) fun _ _ hi => hvalue.revised_listed hi

/-- A reader that takes from a record what it took from one it agrees with. -/
theorem Alike.bind_ofJson?_eq_some {read : Record → Option α} (h : Alike fields v v')
    (hread : ∀ r r', Agree fields r r' → read r = some a → read r' = some a) (width : Nat)
    (ha : (ofJson? width v).bind read = some a) : (ofJson? width v').bind read = some a := by
  cases h with
  | named hagree => exact hread _ _ hagree ha
  | listed hlength hagree =>
      rw [ofJson?] at ha ⊢
      rw [← hlength]
      split at ha
      · next hwidth =>
          rw [if_pos hwidth]
          exact hread _ _ hagree ha
      · cases ha

theorem Agree.bind_eq_some {r r' : Record} {read : Option Json → Option α} (h : Agree fields r r')
    (i : Nat) (hf : fields[i]? = some f)
    (hread : ∀ w w', f.Inside w w' → read (some w) = some a → read (some w') = some a)
    (ha : (r.field? i f.names).bind read = some a) : (r'.field? i f.names).bind read = some a := by
  have hrevised := h i _ hf
  generalize r.field? i f.names = found at hrevised ha
  generalize r'.field? i f.names = found' at hrevised ⊢
  cases hrevised with
  | same => exact ha
  | inside hinside => exact hread _ _ hinside ha

end Record

theorem InList.toListOf?_eq_some {α : Type} {read : Json → Option α} {as : List α}
    (h : InList R v v') (hread : ∀ w w' a, R w w' → read w = some a → read w' = some a)
    (has : toListOf? read v = some as) : toListOf? read v' = some as := by
  obtain @⟨before, after, w, w', hww'⟩ := h
  simp only [toListOf?, toList?, Option.bind_some, List.mapM_append, List.mapM_cons] at has ⊢
  cases ha : read w with
  | none => simp [ha] at has
  | some a =>
      rw [hread w w' a hww' ha]
      rwa [ha] at has

end Storyboard.Json
