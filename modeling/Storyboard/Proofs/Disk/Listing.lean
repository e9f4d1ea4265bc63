import Mathlib
import Storyboard.Proofs.Disk.Change

/-!
Stores that list the same entries in another order. Nothing that is found under a location or along
a path depends on the order, and a change that can be made in one of the stores can be made in the
other, after which they still list the same entries.
-/

namespace Storyboard.Store

variable {s t : Store} {l : Location} {path : String}

theorem lookup_eq_some_iff {entries : List (Location × Node)} (h : (entries.map (·.1)).Nodup)
    {n : Node} : lookup entries l = some n ↔ (l, n) ∈ entries := by
  induction entries with
  | nil => simp [lookup]
  | cons e rest ih =>
      obtain ⟨place, old⟩ := e
      obtain ⟨hfresh, hrest⟩ := List.nodup_cons.mp h
      rw [lookup, List.mem_cons, ← ih hrest]
      by_cases hplace : place = l
      · subst hplace
        have hmissing : lookup rest place ≠ some n := fun hn =>
          hfresh (List.mem_map.mpr ⟨_, (ih hrest).mp hn, rfl⟩)
        simp [hmissing, eq_comm]
      · simp [hplace, Ne.symm hplace]

theorem perm_replace {entries : List (Location × Node)} (h : (entries.map (·.1)).Nodup)
    (l : Location) (n : Node) :
    (replace entries l n).Perm ((l, n) :: entries.filter fun e => e.1 ≠ l) := by
  induction entries with
  | nil => exact .refl _
  | cons e rest ih =>
      obtain ⟨place, old⟩ := e
      obtain ⟨hfresh, hrest⟩ := List.nodup_cons.mp h
      by_cases hplace : place = l
      · subst hplace
        have hothers : rest.filter (fun e => e.1 ≠ place) = rest := by
          refine List.filter_eq_self.mpr fun e he => decide_eq_true ?_
          rintro rfl
          exact hfresh (List.mem_map.mpr ⟨e, he, rfl⟩)
        rw [replace, if_pos rfl, List.filter_cons_of_neg (by simp), hothers]
      · rw [replace, if_neg hplace, List.filter_cons_of_pos (by simpa using hplace)]
        exact ((ih hrest).cons _).trans (.swap _ _ _)

/-- The stores have the same entries, in whatever order each of them lists these. -/
def Relisted (s t : Store) : Prop :=
  s.entries.Perm t.entries

namespace Relisted

/-! ### What is found -/

theorem find?_eq (h : s.Relisted t) (l : Location) : s.find? l = t.find? l := by
  have hlookup : lookup s.entries l = lookup t.entries l := by
    refine Option.ext fun n => ?_
    rw [lookup_eq_some_iff s.nodup, lookup_eq_some_iff t.nodup]
    exact h.mem_iff
  unfold find?
  rw [hlookup]

theorem walk_eq (h : s.Relisted t) (here : Location) (pieces : List (List Char)) :
    s.walk here pieces = t.walk here pieces := by
  induction pieces generalizing here with
  | nil => rfl
  | cons piece rest ih =>
      unfold walk
      rw [h.find?_eq here]
      simp only [ih]

theorem locateAlong_eq (h : s.Relisted t) (path : String) (pieces : List (List Char)) :
    s.locateAlong path pieces = t.locateAlong path pieces := by
  rw [locateAlong, locateAlong, h.walk_eq]

theorem locate_eq (h : s.Relisted t) (path : String) : s.locate path = t.locate path :=
  h.locateAlong_eq path _

theorem locateNew_eq (h : s.Relisted t) (path : String) : s.locateNew path = t.locateNew path := by
  rw [locateNew, locateNew, h.locateAlong_eq]

theorem node_eq (h : s.Relisted t) (path : String) : s.node path = t.node path := by
  rw [node, node, h.locate_eq]
  simp only [h.find?_eq]

theorem contains_eq (h : s.Relisted t) (path : String) : s.contains path = t.contains path := by
  rw [contains, contains, h.node_eq]

theorem isDirectory_eq (h : s.Relisted t) (path : String) :
    s.isDirectory path = t.isDirectory path := by
  rw [isDirectory, isDirectory, h.node_eq]

theorem readText_eq (h : s.Relisted t) (path : String) : s.readText path = t.readText path :=
  readText_congr (h.node_eq path)

theorem children_perm (h : s.Relisted t) (here : Location) :
    (s.children here).Perm (t.children here) :=
  List.Perm.filterMap _ h

/-! ### What is changed -/

theorem put (h : s.Relisted t) (l : Location) (n : Node) : (s.put l n).Relisted (t.put l n) :=
  (perm_replace s.nodup l n).trans
    (((List.Perm.filter _ h).cons _).trans (perm_replace t.nodup l n).symm)

theorem erase (h : s.Relisted t) (l : Location) : (s.erase l).Relisted (t.erase l) :=
  List.Perm.filter _ h

end Relisted

/-- Two changes fail for one cause, or both end with the same entries. -/
def BothChange (x y : Except FileError Store) : Prop :=
  (∃ cause, x = .error cause ∧ y = .error cause) ∨
    ∃ s t, x = .ok s ∧ y = .ok t ∧ s.Relisted t

namespace BothChange

protected theorem error (cause : FileError) : BothChange (.error cause) (.error cause) :=
  .inl ⟨cause, rfl, rfl⟩

protected theorem ok (h : s.Relisted t) : BothChange (.ok s) (.ok t) :=
  .inr ⟨s, t, rfl, rfl, h⟩

theorem ite {c : Prop} [Decidable c] {x x' y y' : Except FileError Store}
    (hx : BothChange x x') (hy : BothChange y y') :
    BothChange (if c then x else y) (if c then x' else y') := by
  split
  · exact hx
  · exact hy

theorem bind {α : Type} (x : Except FileError α) {f g : α → Except FileError Store}
    (hfg : ∀ a, BothChange (f a) (g a)) : BothChange (x >>= f) (x >>= g) := by
  cases x with
  | error cause => exact .error cause
  | ok a => exact hfg a

end BothChange

namespace Relisted

theorem writeAt (h : s.Relisted t) (l : Location) (content : ByteArray) :
    BothChange (s.writeAt l content) (t.writeAt l content) := by
  have hput : ∀ isProgram, BothChange
      (if l.isLocked then .error l.writingError else .ok (s.put l (.file content isProgram)))
      (if l.isLocked then .error l.writingError else .ok (t.put l (.file content isProgram))) :=
    fun isProgram => .ite (.error _) (.ok (h.put l _))
  unfold Store.writeAt
  rw [h.find?_eq l]
  cases t.find? l with
  | none => exact hput false
  | some n =>
      cases n with
      | directory => exact .error _
      | file old isProgram => exact hput isProgram
      | device d =>
          cases d
          case full => exact .ite (.ok h) (.error _)
          all_goals exact .ok h

theorem writeText (h : s.Relisted t) (path text : String) :
    BothChange (s.writeText path text) (t.writeText path text) := by
  rw [Store.writeText, Store.writeText, write, write, h.locateNew_eq]
  exact .bind _ fun l => h.writeAt l _

theorem remove (h : s.Relisted t) (path : String) :
    BothChange (s.remove path) (t.remove path) := by
  rw [Store.remove, Store.remove, h.locate_eq]
  refine .bind _ fun l => ?_
  rw [h.find?_eq l]
  cases t.find? l with
  | none => exact .error _
  | some n =>
      cases n with
      | directory | device d => exact .error _
      | file old isProgram => exact .ite (.error _) (.ok (h.erase l))

theorem makeDirectory (h : s.Relisted t) (path : String) :
    BothChange (s.makeDirectory path) (t.makeDirectory path) := by
  rw [Store.makeDirectory, Store.makeDirectory, h.locateAlong_eq]
  refine .bind _ fun l => ?_
  rw [h.find?_eq l]
  exact .ite (.error _) (.ite (.error _) (.ok (h.put l _)))

theorem makeEach (h : s.Relisted t) (paths : List String) :
    (s.makeEach paths).1 = (t.makeEach paths).1 ∧
      (s.makeEach paths).2.Relisted (t.makeEach paths).2 := by
  induction paths generalizing s t with
  | nil => exact ⟨rfl, h⟩
  | cons path rest ih =>
      unfold Store.makeEach
      rcases h.makeDirectory path with ⟨cause, hs, ht⟩ | ⟨s', t', hs, ht, hmade⟩
      · rw [hs, ht, h.isDirectory_eq path]
        dsimp only
        split
        · exact ih h
        · exact ⟨rfl, h⟩
      · rw [hs, ht]
        exact ih hmade

theorem makeAmong (h : s.Relisted t) (inner outer : List String) :
    (s.makeAmong inner outer).1 = (t.makeAmong inner outer).1 ∧
      (s.makeAmong inner outer).2.Relisted (t.makeAmong inner outer).2 := by
  induction outer generalizing inner with
  | nil => exact h.makeEach inner
  | cons path rest ih =>
      unfold Store.makeAmong
      rcases h.makeDirectory path with ⟨cause, hs, ht⟩ | ⟨s', t', hs, ht, hmade⟩
      · rw [hs, ht, h.isDirectory_eq path]
        cases cause
        case missing => exact ih (path :: inner)
        all_goals
          dsimp only
          split
          · exact h.makeEach inner
          · exact ⟨rfl, h⟩
      · rw [hs, ht]
        exact hmade.makeEach inner

theorem makeDirectories (h : s.Relisted t) (path : String) :
    (s.makeDirectories path).1 = (t.makeDirectories path).1 ∧
      (s.makeDirectories path).2.Relisted (t.makeDirectories path).2 :=
  h.makeAmong [] (Path.lineage path)

end Relisted

end Storyboard.Store
