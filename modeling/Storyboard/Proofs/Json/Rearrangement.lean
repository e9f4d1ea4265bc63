import Mathlib
import Storyboard.Json.Record

/-!
Rearrangements of records. The members of an object may change places, one that no field goes by
may come in, one may take another name of its field, and what a field holds may be rearranged in
its turn. A record whose fields share no name finds the same in each of them, up to what happened
inside.
-/

namespace Storyboard.Json

/-- A list one of whose elements is changed. -/
inductive InList (R : Json → Json → Prop) : Json → Json → Prop where
  | element {before after : List Json} {v v' : Json} :
      R v v' → InList R (.array (before ++ v :: after)) (.array (before ++ v' :: after))

namespace Record

/-- A field: the names it goes by, and the changes inside its value. -/
structure Field where
  names : List String
  Inside : Json → Json → Prop

/-- A field whose value does not change. -/
def Field.fixed (names : List String) : Field :=
  ⟨names, fun _ _ => False⟩

def Field.singles (names : List String) : List Field :=
  names.map fun name => .fixed [name]

/-- One rearrangement of a record. Whatever comes in has a value of some kind. -/
inductive Rearranged (fields : List Field) (Extra : Json → Prop) : Json → Json → Prop where
  | permute {members members' : List (Option String × Json)} :
      members.Perm members' → Rearranged fields Extra (.object members) (.object members')
  | add {members : List (Option String × Json)} {key : String} {v : Json} :
      (∀ f ∈ fields, key ∉ f.names) → Extra v →
        Rearranged fields Extra (.object members) (.object ((some key, v) :: members))
  | rename {members : List (Option String × Json)} {f : Field} {key key' : String} {v : Json} :
      f ∈ fields → key ∈ f.names → key' ∈ f.names →
        Rearranged fields Extra (.object ((some key, v) :: members))
          (.object ((some key', v) :: members))
  | inMember {members : List (Option String × Json)} {f : Field} {key : String} {v v' : Json} :
      f ∈ fields → key ∈ f.names → f.Inside v v' →
        Rearranged fields Extra (.object ((some key, v) :: members))
          (.object ((some key, v') :: members))
  | inValue {before after : List Json} {f : Field} {v v' : Json} :
      fields[before.length]? = some f → f.Inside v v' →
        Rearranged fields Extra (.array (before ++ v :: after)) (.array (before ++ v' :: after))

/-- Fields no two of which share a name. -/
def Apart (fields : List Field) : Prop :=
  (fields.flatMap Field.names).Nodup

/-- What is found in a field before and after. -/
inductive Field.Revised (f : Field) : Option (Option Json) → Option (Option Json) → Prop where
  | same (found : Option (Option Json)) : Revised f found found
  | inside {v v' : Json} : f.Inside v v' → Revised f (some (some v)) (some (some v'))

/-- Whether two records hold the same in each field, up to what happened inside. -/
def Agree (fields : List Field) (r r' : Record) : Prop :=
  ∀ (i : Nat) (f : Field), fields[i]? = some f →
    f.Revised (r.field? i f.names) (r'.field? i f.names)

theorem Field.Revised.eq {f : Field} {found found' : Option (Option Json)}
    (h : f.Revised found found') (hfixed : ∀ w w', ¬ f.Inside w w') : found = found' := by
  cases h with
  | same => rfl
  | inside hinside => exact absurd hinside (hfixed _ _)

variable {fields : List Field} {Extra : Json → Prop} {f g : Field} {key : String}
  {members members' : List (Option String × Json)} {v v' : Json}

theorem Apart.eq_of_mem (h : Apart fields) (hf : f ∈ fields) (hg : g ∈ fields)
    (hkey : key ∈ f.names) (hkey' : key ∈ g.names) : f = g := by
  by_contra hne
  have hdisjoint := (List.nodup_flatMap.mp h).2
  have hsymm : Std.Symm (Function.onFun List.Disjoint Field.names) :=
    ⟨fun _ _ hdisjoint => hdisjoint.symm⟩
  exact hdisjoint.forall hf hg hne hkey hkey'

/-! ### What a field holds -/

/-- The value of the only member, if there are not several. -/
def only? : List (Option String × Json) → Option (Option Json)
  | [] => some none
  | [(_, v)] => some (some v)
  | _ => none

theorem field?_named (members : List (Option String × Json)) (i : Nat) (names : List String) :
    field? (.named members) i names = only? (members.filter fun m => m.1.any names.contains) :=
  rfl

theorem only?_perm (h : members.Perm members') : only? members = only? members' := by
  have hlength := h.length_eq
  match members, members' with
  | [], members' => rw [h.nil_eq]
  | [m], members' => rw [List.singleton_perm.mp h]
  | _ :: _ :: _, [] => cases hlength
  | _ :: _ :: _, [_] => cases hlength
  | _ :: _ :: _, _ :: _ :: _ => rfl

theorem only?_cons (m : Option String × Json) :
    only? (m :: members) =
      (only? members).bind fun found => found.elim (some (some m.2)) fun _ => none := by
  rcases members with _ | ⟨_, _ | ⟨_, _⟩⟩ <;> rfl

theorem field?_perm (h : members.Perm members') (i : Nat) (names : List String) :
    field? (.named members) i names = field? (.named members') i names :=
  only?_perm (h.filter _)

theorem field?_cons_of_not_mem {names : List String} (h : key ∉ names) (v : Json) (i : Nat) :
    field? (.named ((some key, v) :: members)) i names = field? (.named members) i names := by
  rw [field?_named, field?_named, List.filter_cons_of_neg (by simpa using h)]

/-- A member counts if no other one goes by a name of its field. -/
theorem field?_cons_of_mem {names : List String} (h : key ∈ names) (v : Json) (i : Nat) :
    field? (.named ((some key, v) :: members)) i names =
      (field? (.named members) i names).bind fun found => found.elim (some (some v)) fun _ => none := by
  rw [field?_named, field?_named, List.filter_cons_of_pos (by simpa using h), only?_cons]

theorem Rearranged.revised_named (h : Rearranged fields Extra (.object members) (.object members'))
    (hapart : Apart fields) (hf : f ∈ fields) (i : Nat) :
    f.Revised (field? (.named members) i f.names) (field? (.named members') i f.names) := by
  cases h with
  | permute hperm =>
      rw [field?_perm hperm]
      exact .same _
  | add hnew _ =>
      rw [field?_cons_of_not_mem (hnew f hf)]
      exact .same _
  -- the field of the member is `f` or shares no name with it
  | @rename members g key key' v hg hkey hkey' =>
      by_cases hmem : key ∈ f.names
      · obtain rfl := hapart.eq_of_mem hf hg hmem hkey
        rw [field?_cons_of_mem hkey, field?_cons_of_mem hkey']
        exact .same _
      · have hmem' : key' ∉ f.names := fun hk => hmem (hapart.eq_of_mem hf hg hk hkey' ▸ hkey)
        rw [field?_cons_of_not_mem hmem, field?_cons_of_not_mem hmem']
        exact .same _
  | @inMember members g key v v' hg hkey hinside =>
      by_cases hmem : key ∈ f.names
      · obtain rfl := hapart.eq_of_mem hf hg hmem hkey
        rw [field?_cons_of_mem hkey, field?_cons_of_mem hkey]
        rcases field? (.named members) i f.names with _ | _ | _
        exacts [.same none, .inside hinside, .same none]
      · rw [field?_cons_of_not_mem hmem, field?_cons_of_not_mem hmem]
        exact .same _

theorem Rearranged.revised_listed {values values' : List Json} {i : Nat}
    (h : Rearranged fields Extra (.array values) (.array values')) (hf : fields[i]? = some f) :
    f.Revised (field? (.listed values) i f.names) (field? (.listed values') i f.names) := by
  cases h with
  | @inValue before after g v v' hg hinside =>
      simp only [field?]
      rcases Nat.lt_trichotomy i before.length with hlt | rfl | hgt
      · rw [List.getElem?_append_left hlt, List.getElem?_append_left hlt]
        exact .same _
      · obtain rfl : f = g := Option.some.inj (hf.symm.trans hg)
        simpa using .inside hinside
      · rw [List.getElem?_append_right hgt.le, List.getElem?_append_right hgt.le]
        obtain ⟨k, hk⟩ := Nat.exists_eq_succ_of_ne_zero (Nat.sub_ne_zero_of_lt hgt)
        rw [hk, List.getElem?_cons_succ, List.getElem?_cons_succ]
        exact .same _

/-- Two values are records of one form that hold the same in each field, up to what happened
inside. -/
inductive Alike (fields : List Field) : Json → Json → Prop where
  | named {members members' : List (Option String × Json)}
      (hagree : Agree fields (.named members) (.named members')) :
      Alike fields (.object members) (.object members')
  | listed {values values' : List Json} (hlength : values.length = values'.length)
      (hagree : Agree fields (.listed values) (.listed values')) :
      Alike fields (.array values) (.array values')

/-- A rearranged record is like what it was. -/
theorem Rearranged.alike (h : Rearranged fields Extra v v') (hapart : Apart fields) :
    Alike fields v v' := by
  have hnamed {members members' : List (Option String × Json)}
      (h : Rearranged fields Extra (.object members) (.object members')) :
      Agree fields (.named members) (.named members') :=
    fun i _ hf => h.revised_named hapart (List.mem_of_getElem? hf) i
  have hlisted {values values' : List Json}
      (h : Rearranged fields Extra (.array values) (.array values')) :
      Agree fields (.listed values) (.listed values') :=
    fun _ _ hf => h.revised_listed hf
  cases h with
  | permute hperm => exact .named (hnamed (.permute hperm))
  | add hnew hextra => exact .named (hnamed (.add hnew hextra))
  | rename hf hkey hkey' => exact .named (hnamed (.rename hf hkey hkey'))
  | inMember hf hkey hinside => exact .named (hnamed (.inMember hf hkey hinside))
  | inValue hf hinside => exact .listed (by simp) (hlisted (.inValue hf hinside))

/-! ### Readers -/

variable {α : Type} {r r' : Record} {i : Nat}

/-- Readers that do not tell records apart that agree do not tell apart values that are alike. -/
theorem Alike.bind_ofJson? {read : Record → Option α} (h : Alike fields v v')
    (hread : ∀ r r', Agree fields r r' → read r = read r') (width : Nat) :
    (ofJson? width v).bind read = (ofJson? width v').bind read := by
  cases h with
  | named hagree => exact hread _ _ hagree
  | listed hlength hagree =>
      simp only [ofJson?, hlength]
      split
      · exact hread _ _ hagree
      · rfl

theorem Rearranged.bind_ofJson? {read : Record → Option α} (h : Rearranged fields Extra v v')
    (hapart : Apart fields) (hread : ∀ r r', Agree fields r r' → read r = read r') (width : Nat) :
    (ofJson? width v).bind read = (ofJson? width v').bind read :=
  (h.alike hapart).bind_ofJson? hread width

theorem Agree.field?_eq (h : Agree fields r r') (i : Nat) {names : List String}
    (hf : fields[i]? = some (.fixed names)) : r.field? i names = r'.field? i names := by
  have hrevised := h i _ hf
  exact hrevised.eq fun _ _ hinside => hinside

/-- A reader that does not tell apart what is rearranged inside. -/
theorem Agree.bind_eq {read : Option Json → Option α} (h : Agree fields r r') (i : Nat)
    (hf : fields[i]? = some f) (hread : ∀ w w', f.Inside w w' → read (some w) = read (some w')) :
    (r.field? i f.names).bind read = (r'.field? i f.names).bind read := by
  have hrevised := h i _ hf
  generalize r.field? i f.names = found at hrevised ⊢
  generalize r'.field? i f.names = found' at hrevised ⊢
  cases hrevised with
  | same => rfl
  | inside hinside => exact hread _ _ hinside

/-! ### Records whose values do not change -/

theorem Field.not_inside_of_mem_singles {names : List String} (h : f ∈ singles names)
    (w w' : Json) : ¬ f.Inside w w' := by
  obtain ⟨name, -, rfl⟩ := List.mem_map.mp h
  exact id

theorem apart_singles {names : List String} (h : names.Nodup) : Apart (Field.singles names) := by
  rw [Apart, Field.singles, List.flatMap_map]
  exact (List.flatMap_singleton' names).symm ▸ h

theorem Rearranged.exists_object {names : List String}
    (h : Rearranged (Field.singles names) Extra v v') :
    ∃ members members', v = .object members ∧ v' = .object members' := by
  cases h with
  | permute | add | rename | inMember => exact ⟨_, _, rfl, rfl⟩
  | inValue hf hinside =>
      exact absurd hinside (Field.not_inside_of_mem_singles (List.mem_of_getElem? hf) _ _)

end Record

/-! ### Lists -/

section
variable {R : Json → Json → Prop} {v v' : Json}

theorem InList.toListOf?_eq {α : Type} {read : Json → Option α} (h : InList R v v')
    (hread : ∀ w w', R w w' → read w = read w') : toListOf? read v = toListOf? read v' := by
  obtain ⟨hvv'⟩ := h
  simp only [toListOf?, toList?, Option.bind_some, List.mapM_append, List.mapM_cons,
    hread _ _ hvv']

/-! ### Acceptance -/

theorem soundValues_eq (depth : Nat) (values : List Json) :
    soundValues depth values = values.all (·.sound depth) := by
  induction values with
  | nil => rfl
  | cons v values ih => rw [soundValues, ih, List.all_cons]

theorem soundMembers_eq (depth : Nat) (members : List (Option String × Json)) :
    soundMembers depth members = members.all fun m => m.1.isSome && m.2.sound depth := by
  induction members with
  | nil => rfl
  | cons m members ih => rw [soundMembers, ih, List.all_cons]

theorem sound_of_mem {values : List Json} {depth : Nat} (h : (array values).sound depth)
    (hv : v ∈ values) : v.sound (depth - 1) := by
  rw [sound, Bool.and_eq_true, soundValues_eq, List.all_eq_true] at h
  exact h.2 v hv

theorem sound_of_find? {key : String} {w : Json} {depth : Nat} (h : v.sound depth)
    (hw : v.find? key = some w) : w.sound (depth - 1) := by
  cases v with
  | object members =>
      obtain ⟨m, hm, rfl⟩ := Option.map_eq_some_iff.mp hw
      have hmem : m ∈ members := List.mem_reverse.mp (List.mem_of_find?_eq_some hm)
      rw [sound, Bool.and_eq_true, soundMembers_eq, List.all_eq_true] at h
      exact ((Bool.and_eq_true _ _).mp (h.2 m hmem)).2
  | _ => cases hw

theorem InList.sound_eq {depth : Nat} (h : InList R v v')
    (hR : ∀ w w', R w w' → w.sound (depth - 1) = w'.sound (depth - 1)) :
    v.sound depth = v'.sound depth := by
  obtain ⟨hvv'⟩ := h
  simp only [sound, soundValues_eq, List.all_append, List.all_cons, hR _ _ hvv']

/-- Acceptance is kept if what comes in is accepted and what happens inside keeps it. -/
theorem Record.Rearranged.sound_eq {fields : List Record.Field} {Extra : Json → Prop} {depth : Nat}
    (h : Record.Rearranged fields Extra v v') (hextra : ∀ w, Extra w → w.sound (depth - 1))
    (hinside : ∀ f ∈ fields, ∀ w w', f.Inside w w' → w.sound (depth - 1) = w'.sound (depth - 1)) :
    v.sound depth = v'.sound depth := by
  cases h with
  | permute hperm => simp only [sound, soundMembers_eq, hperm.all_eq]
  | add _ hv => simp [sound, soundMembers_eq, hextra _ hv]
  | rename => simp [sound, soundMembers_eq]
  | inMember hf _ hvv' => simp only [sound, soundMembers_eq, List.all_cons, hinside _ hf _ _ hvv']
  | inValue hf hvv' =>
      simp only [sound, soundValues_eq, List.all_append, List.all_cons,
        hinside _ (List.mem_of_getElem? hf) _ _ hvv']

theorem Record.Rearranged.sound_eq_of_singles {names : List String} {depth : Nat}
    (h : Record.Rearranged (Record.Field.singles names) (fun w => w.sound (depth - 1)) v v') :
    v.sound depth = v'.sound depth :=
  h.sound_eq (fun _ hw => hw) fun _ hf _ _ hinside =>
    absurd hinside (Record.Field.not_inside_of_mem_singles hf _ _)

end

end Storyboard.Json
