import Mathlib
import Storyboard.Json.Record
import Storyboard.Proofs.Json.RoundTrip

/-!
Laws of records: a field is found under its name among members with distinct names, a field that
was left out reads as absent, and what is built of sound values is sound.
-/

namespace Storyboard

namespace Json

/-! ### Fields -/

/-- The members that an object keeps. -/
def present (members : List (String × Option Json)) : List (Option String × Json) :=
  members.filterMap fun (key, value?) => value?.map (some key, ·)

theorem ofMembers_eq (members : List (String × Option Json)) :
    ofMembers members = .object (present members) :=
  rfl

theorem present_cons (key : String) (value? : Option Json) (rest : List (String × Option Json)) :
    present ((key, value?) :: rest) = (value?.map (some key, ·)).toList ++ present rest := by
  cases value? <;> rfl

theorem filter_present (p : String → Bool) (members : List (String × Option Json)) :
    (present members).filter (fun m => m.1.any p) = present (members.filter fun m => p m.1) := by
  induction members with
  | nil => rfl
  | cons member rest ih =>
      obtain ⟨key, value?⟩ := member
      rw [present_cons, List.filter_append, ih, List.filter_cons]
      by_cases hp : p key
      · rw [if_pos hp, present_cons]
        cases value? <;> simp [hp]
      · rw [if_neg hp]
        cases value? <;> simp [hp]

/-- A field that goes by one of its names only is found under that name. -/
theorem field?_present (i : Nat) {names : List String} {members : List (String × Option Json)}
    {key : String} {value? : Option Json}
    (h : members.filter (fun m => names.contains m.1) = [(key, value?)]) :
    Record.field? (.named (present members)) i names = some value? := by
  rw [Record.field?, filter_present, h]
  cases value? <;> rfl

@[simp] theorem toString?_ofString (s : String) : (ofString s).toString? = some s :=
  rfl

theorem toCount?_ofNat (n : UInt32) : (ofNat n.toNat).toCount? = some n := by
  simp [ofNat, toCount?, n.toNat_lt]

/-- The name of an alternative stands for it. -/
theorem toAlternative?_ofString {α : Type} (ofName? : String → Option α) (name : String) :
    toAlternative? ofName? (ofString name) = ofName? name :=
  rfl

namespace Record

section
variable {α : Type} (value : α) (read : Json → Option α) (v : Json)

@[simp] theorem required_some : required read (some v) = read v :=
  rfl

@[simp] theorem defaulted_none : defaulted value read none = some value :=
  rfl

@[simp] theorem defaulted_some : defaulted value read (some v) = read v :=
  rfl

end

/-- An option that is written where there is one and read where it is not null. -/
theorem nullable_map {α : Type} {read : Json → Option α} {write : α → Json} {o : Option α}
    (hnull : read .null = none) (h : ∀ a ∈ o, read (write a) = some a) :
    nullable read (o.map write) = some o := by
  cases o with
  | none => rfl
  | some a =>
      have ha := h a rfl
      rw [Option.map_some, nullable, ha]
      · rfl
      · intro hwrite
        rw [hwrite, hnull] at ha
        cases ha

end Record

/-! ### Lists -/

/-- A list one of whose elements is refused is refused. -/
theorem toListOf?_map_ite {α β : Type} {read : Json → Option β} {write : α → Json} {p : α → Bool}
    {f : α → β} {xs : List α}
    (h : ∀ x ∈ xs, read (write x) = if p x then some (f x) else none) :
    toListOf? read (.array (xs.map write)) = if xs.all p then some (xs.map f) else none := by
  change (xs.map write).mapM read = _
  induction xs with
  | nil => rfl
  | cons x xs ih =>
      rw [List.map_cons, List.mapM_cons, h x List.mem_cons_self,
        ih fun y hy => h y (List.mem_cons_of_mem x hy)]
      cases hx : p x <;> cases hxs : xs.all p <;> simp [hx, hxs]

theorem toListOf?_map {α β : Type} {read : Json → Option β} {write : α → Json} {f : α → β}
    {xs : List α} (h : ∀ x ∈ xs, read (write x) = some (f x)) :
    toListOf? read (.array (xs.map write)) = some (xs.map f) := by
  simpa using toListOf?_map_ite (p := fun _ => true) h

/-- Every element of a list that was read was read from some value. -/
theorem exists_of_mem_toListOf? {α : Type} {read : Json → Option α} {v : Json} {xs : List α}
    (h : toListOf? read v = some xs) : ∀ x ∈ xs, ∃ w, read w = some x := by
  obtain ⟨values, _, hvalues⟩ := Option.bind_eq_some_iff.mp h
  clear * - hvalues
  induction values generalizing xs with
  | nil =>
      cases hvalues
      exact List.forall_mem_nil _
  | cons w values ih =>
      simp only [List.mapM_cons, Option.bind_eq_bind, Option.bind_eq_some_iff, Option.pure_def,
        Option.some.injEq] at hvalues
      obtain ⟨y, hy, ys, hys, rfl⟩ := hvalues
      exact List.forall_mem_cons.mpr ⟨⟨w, hy⟩, ih hys⟩

/-! ### Acceptance -/

theorem sound_array {depth : Nat} {values : List Json} (h : ∀ v ∈ values, v.sound depth) :
    (array values).sound (depth + 1) := by
  have hvalues : soundValues depth values := by
    induction values with
    | nil => rfl
    | cons v values ih =>
        rw [soundValues, h v List.mem_cons_self, ih fun w hw => h w (List.mem_cons_of_mem v hw)]
        rfl
  simp [sound, hvalues]

theorem sound_ofMembers {depth : Nat} {members : List (String × Option Json)}
    (h : ∀ m ∈ members, ∀ v ∈ m.2, v.sound depth) : (ofMembers members).sound (depth + 1) := by
  have hmembers : soundMembers depth (present members) := by
    induction members with
    | nil => rfl
    | cons member members ih =>
        obtain ⟨key, value?⟩ := member
        have hrest := ih fun m hm => h m (List.mem_cons_of_mem _ hm)
        rw [present_cons]
        cases value? with
        | none => exact hrest
        | some v =>
            have hv := h _ List.mem_cons_self v rfl
            simp [soundMembers, hv, hrest]
  simp [ofMembers_eq, sound, hmembers]

end Json

end Storyboard
