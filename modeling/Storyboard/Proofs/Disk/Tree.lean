import Mathlib
import Storyboard.Proofs.Disk.Folder

/-!
Trees of files: whatever stands somewhere stands in a directory. And paths that go on from others
by a name: their pieces, their places, and the directories that they lie in.
-/

namespace Storyboard

/-! ### Trees -/

theorem Machine.mem_of_lookup {α : Type} {table : List (List String × α)} {names : List String}
    (h : (table.lookup names).isSome) : ∃ e ∈ table, e.1 = names := by
  by_contra hnone
  simp only [not_exists, not_and] at hnone
  have hmissing : table.lookup names = none :=
    List.lookup_eq_none_iff.mpr fun e he => by simpa using Ne.symm (hnone e he)
  rw [hmissing] at h
  cases h

/-- What is known of the machine stands in directories that are known. -/
theorem Machine.nodeAt?_dropLast {names : List String} (h : (nodeAt? names).isSome) :
    nodeAt? names.dropLast = some .directory := by
  unfold nodeAt? at h
  split at h
  · rfl
  · rfl
  · split at h
    · next hdeep =>
        have hall : ∀ names ∈ deepFolders, nodeAt? names.dropLast = some .directory := by decide
        exact hall _ (List.contains_iff_mem.mp hdeep)
    · split at h
      · next hstream =>
          obtain ⟨e, he, rfl⟩ := mem_of_lookup hstream
          have hall : ∀ e ∈ streamPlaces, nodeAt? e.1.dropLast = some .directory := by decide
          exact hall e he
      · split at h
        · next d hdevice =>
            have hknown : (devices.lookup names).isSome := by rw [hdevice]; rfl
            obtain ⟨e, he, rfl⟩ := mem_of_lookup hknown
            have hall : ∀ e ∈ devices, nodeAt? e.1.dropLast = some .directory := by decide
            exact hall e he
        · rw [Option.isSome_map] at h
          obtain ⟨program, hprogram⟩ := Option.isSome_iff_exists.mp h
          unfold programAt? at hprogram
          have hinstalled := List.find?_some hprogram
          obtain ⟨folder, hfolder, hsame⟩ := List.any_eq_true.mp hinstalled
          have hall : ∀ folder ∈ programFolders, nodeAt? folder = some .directory := by decide
          rw [← beq_iff_eq.mp hsame, List.dropLast_concat]
          exact hall folder hfolder

theorem Location.fixed?_concat {l : Location} {name : String} (h : (l ++ [name]).fixed?.isSome) :
    l.fixed? = some .directory := by
  cases l with
  | nil => rfl
  | cons first rest =>
      rw [List.cons_append, fixed?] at h
      rw [fixed?]
      split at h
      · next habove =>
          rw [if_pos habove]
          split at h
          · next hall =>
              rw [isAbove, List.all_append, Bool.and_eq_true] at hall
              rw [isAbove, if_pos hall.1]
          · cases h
      · next hbelow =>
          rw [if_neg hbelow]
          split at h
          · next hroot =>
              have hrest := Machine.nodeAt?_dropLast h
              rw [List.dropLast_concat] at hrest
              rw [if_pos hroot, hrest]
          · cases h

namespace Path

variable {path parent name : String}

/-! ### Names behind a path -/

/-- A path goes on from the one that it lies in by a name. -/
structure Below (parent path name : String) : Prop where
  isName : IsName name
  parent_eq : parent? path = some parent
  start : Store.startOf path = Store.startOf parent
  steps : ∃ front idle idle', (∀ piece ∈ idle, isIdle piece) ∧ (∀ piece ∈ idle', isIdle piece) ∧
    pieces parent.toList = front ++ idle ∧ pieces path.toList = front ++ (idle' ++ [name.toList])

theorem below_of_parent? {others : List (List Char)} (hparent : parent? path = some parent)
    (hname : IsName name) (hpieces : pieces path.toList = others ++ [name.toList]) :
    Below parent path name := by
  obtain ⟨hstart, front, idle, idle', last, tail, hidle, hidle', htail, hfront, hpath⟩ :=
    parent?_pieces hparent
  have hsame : (front ++ idle') ++ last :: tail = others ++ [name.toList] := by
    rw [← hpieces, hpath, List.append_assoc]
  have hnone : tail = [] := by
    rcases List.eq_nil_or_concat' tail with hnil | ⟨init, piece, rfl⟩
    · exact hnil
    · rw [← List.cons_append, ← List.append_assoc] at hsame
      have hpiece := htail piece (by simp)
      rw [List.singleton_inj.mp (List.append_inj' hsame rfl).2, hname.step] at hpiece
      cases hpiece
  subst hnone
  refine ⟨hname, hparent, hstart, front, idle, idle', hidle, hidle', hfront, ?_⟩
  rw [hpath, List.singleton_inj.mp (List.append_inj' hsame rfl).2]

theorem exists_parent? {others : List (List Char)} (hname : IsName name)
    (hpieces : pieces path.toList = others ++ [name.toList]) :
    ∃ parent, parent? path = some parent := by
  cases others with
  | nil =>
      obtain ⟨c, rest, hrest⟩ := List.exists_cons_of_ne_nil hname.ne_nil
      rw [hrest] at hpieces
      exact ⟨"", by simp [parent?, trimmed, hpieces, dropIdleEnd]⟩
  | cons first others =>
      have hkept : dropIdleEnd (others ++ [name.toList]) = others ++ [name.toList] := by
        simp [dropIdleEnd, hname.step]
      obtain ⟨second, rest, hrest⟩ :=
        List.exists_cons_of_ne_nil (List.append_ne_nil_of_right_ne_nil others (List.cons_ne_nil name.toList []))
      rw [List.cons_append] at hpieces
      rw [hrest] at hpieces hkept
      rw [parent?, trimmed, hpieces]
      simp only [hkept]
      split
      · exact ⟨_, rfl⟩
      · exact ⟨_, rfl⟩

theorem below_join_join (base : String) {part : String} (hpart : IsName part)
    (hname : IsName name) :
    Below (join base part) (join (join base part) name) name := by
  obtain ⟨front, _, hpieces, _, _⟩ := exists_pieces_join (join base part) hname.slash
  exact below_of_parent? (parent?_join_join base hpart hname) hname hpieces

namespace Below

variable (h : Below parent path name)

include h

theorem ne_empty : path ≠ "" := by
  rintro rfl
  have hparent := h.parent_eq
  cases hparent

theorem place_eq : place path = (place parent).child name := by
  obtain ⟨front, idle, idle', hidle, hidle', hfront, hpath⟩ := h.steps
  rw [place, place, h.start, hfront, hpath, Location.follow_append, Location.follow_append,
    Location.follow_append, Location.follow_of_idle hidle, Location.follow_of_idle hidle',
    Location.follow_name h.isName.step h.isName.down, String.ofList_toList]

theorem dropSlashes_eq : dropSlashes (pieces path.toList) = pieces path.toList := by
  obtain ⟨front, _, idle', _, _, _, hpath⟩ := h.steps
  simp [hpath, dropSlashes, h.isName.ne_nil, ← List.append_assoc]

theorem endsWithSlash_eq : endsWithSlash path = false := by
  obtain ⟨front, _, idle', _, _, _, hpath⟩ := h.steps
  rw [endsWithSlash, beq_eq_false_iff_ne]
  intro hlast
  obtain ⟨init, hinit⟩ := List.getLast?_eq_some_iff.mp hlast
  rw [hinit, pieces_append_slash, ← List.append_assoc] at hpath
  exact h.isName.ne_nil (List.singleton_inj.mp (List.append_inj' hpath rfl).2).symm

end Below

end Path

namespace Store

variable {s s' t t' : Store} {l : Location} {path parent name : String}

/-- Whatever stands somewhere stands in a directory. -/
def Housed (s : Store) : Prop :=
  ∀ l name, (s.find? (l ++ [name])).isSome → s.find? l = some .directory

theorem Housed.find?_of_prefix {s : Store} {l m : Location} (hs : s.Housed)
    (hsome : (s.find? l).isSome) (hm : m <+: l) (hne : m ≠ l) : s.find? m = some .directory := by
  induction l using List.reverseRecOn with
  | nil => exact absurd (List.prefix_nil.mp hm) hne
  | append_singleton front name ih =>
      have hdir := hs front name hsome
      have hfront := (List.prefix_concat_iff.mp hm).resolve_left hne
      by_cases hsame : m = front
      · rw [hsame, hdir]
      · exact ih (by rw [hdir]; rfl) hfront hsame

/-- The entries lie in directories, each under a name. -/
def IsTree (s : Store) : Prop :=
  ∀ e ∈ s.entries, ∃ name ∈ e.1.getLast?, '/' ∉ name.toList ∧
    s.find? e.1.dropLast = some .directory

instance (s : Store) : Decidable s.IsTree :=
  inferInstanceAs (Decidable (∀ e ∈ s.entries, ∃ name ∈ e.1.getLast?, _))

theorem mem_of_lookup {entries : List (Location × Node)} {n : Node}
    (h : lookup entries l = some n) : (l, n) ∈ entries := by
  induction entries with
  | nil => cases h
  | cons e rest ih =>
      obtain ⟨place, old⟩ := e
      rw [lookup] at h
      split at h
      · next hplace =>
          cases h
          rw [hplace]
          exact List.mem_cons_self
      · exact List.mem_cons_of_mem _ (ih h)

theorem IsTree.housed (h : s.IsTree) : s.Housed := by
  intro l name hsome
  rw [find?] at hsome
  cases hfixed : (l ++ [name]).fixed? with
  | some n =>
      have hsome : (l ++ [name]).fixed?.isSome := by rw [hfixed]; rfl
      rw [find?, Location.fixed?_concat hsome]
  | none =>
      rw [hfixed] at hsome
      obtain ⟨n, hn⟩ := Option.isSome_iff_exists.mp hsome
      obtain ⟨_, _, _, hdir⟩ := h _ (mem_of_lookup hn)
      rwa [List.dropLast_concat] at hdir

end Store

end Storyboard
