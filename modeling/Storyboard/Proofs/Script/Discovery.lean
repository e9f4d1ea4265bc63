import Mathlib
import Storyboard.Proofs.Disk.Listing
import Storyboard.Proofs.Script.Removal
import Storyboard.Proofs.Text.Order

/-!
The scripts of a directory, in the order of the bytes of their names. They are the files that the
directory lists under names with the extension of scripts, of those whose paths the system takes;
in which order the directory lists its entries makes no difference.
-/

namespace Storyboard

/-- An extension is what stands behind the last point of a name, if something stands before it. -/
theorem Path.extensionOfName?_eq_some_iff {name e : List Char} :
    extensionOfName? name = some e ↔ '.' ∉ e ∧ ∃ stem, stem ≠ [] ∧ name = stem ++ '.' :: e := by
  constructor
  · intro h
    obtain ⟨hdot, stem, rfl⟩ := extensionOfName?_eq_some h
    refine ⟨hdot, stem, ?_, rfl⟩
    rintro rfl
    rw [extensionOfName?, takeWhile_reverse_append hdot] at h
    simp at h
  · rintro ⟨hdot, stem, hstem, rfl⟩
    have hlength := List.length_pos_iff.mpr hstem
    rw [extensionOfName?, takeWhile_reverse_append hdot, if_pos (by simp; omega),
      List.reverse_reverse]

theorem Path.le_utf8ByteSize_join {base part : String} (h : isAbsolute part = false) :
    base.utf8ByteSize + part.utf8ByteSize ≤ (join base part).utf8ByteSize := by
  rw [join, h, Bool.false_or]
  split
  · next hempty => simp [String.isEmpty_iff.mp hempty]
  · split <;> simp only [String.utf8ByteSize_append] <;> omega

namespace Script

/-- A name has the extension of scripts, in any case, and something before it. -/
def HasExtension (name : String) : Prop :=
  ∃ stem e, stem ≠ [] ∧ '.' ∉ e ∧ name.toList = stem ++ '.' :: e ∧ Text.lower e = extension

theorem isScript_iff {name : String} {n : Node} :
    isScript (name, n) ↔
      (∃ content isProgram, n = .file content isProgram) ∧ HasExtension name := by
  have hlower : Text.lower extension = extension := by decide
  cases n with
  | directory | device d => simp [isScript]
  | file content isProgram =>
      rw [isScript, Option.any_eq_true]
      constructor
      · rintro ⟨e, he, hsame⟩
        obtain ⟨hdot, stem, hstem, hname⟩ := Path.extensionOfName?_eq_some_iff.mp he
        refine ⟨⟨content, isProgram, rfl⟩, stem, e, hstem, hdot, hname, ?_⟩
        rw [← hlower]
        exact (beq_iff_eq.mp hsame).symm
      · rintro ⟨_, stem, e, hstem, hdot, hname, he⟩
        refine ⟨e, Path.extensionOfName?_eq_some_iff.mpr ⟨hdot, stem, hstem, hname⟩, ?_⟩
        rw [Text.sameWord, he, hlower, beq_self_eq_true]

variable {s t : Store} {folder name : String} {names : List String}

/-- These names are the ones of the scripts that a directory lists and whose paths the system takes,
each once, in the order of their bytes. -/
structure Lists (s : Store) (folder : String) (names : List String) : Prop where
  sorted : names.Pairwise fun a b => Text.bytes a < Text.bytes b
  mem_iff : ∀ name, name ∈ names ↔
    (∃ content isProgram, (name, .file content isProgram) ∈ s.children (Path.place folder)) ∧
      HasExtension name ∧ (Path.join folder name).utf8ByteSize ≤ Store.pathLimit

/-- The names of the scripts of a directory whose paths the system takes. -/
def listed (s : Store) (folder : String) : List String :=
  (select (s.children (Path.place folder))).filter fun name => isReachable (Path.join folder name)

theorem lists_listed (s : Store) (folder : String) : Lists s folder (listed s folder) := by
  constructor
  · have hsorted : (select (s.children (Path.place folder))).Pairwise (· < ·) :=
      (pairwise_select _).imp₂ (fun _ _ => lt_of_le_of_ne) (nodup_select s _)
    exact (hsorted.imp Text.bytes_lt).filter _
  · intro name
    rw [listed, List.mem_filter, mem_select, isReachable, decide_eq_true_iff]
    constructor
    · rintro ⟨⟨n, hmem, hscript⟩, hlimit⟩
      obtain ⟨⟨content, isProgram, rfl⟩, hextension⟩ := isScript_iff.mp hscript
      exact ⟨⟨content, isProgram, hmem⟩, hextension, hlimit⟩
    · rintro ⟨⟨content, isProgram, hmem⟩, hextension, hlimit⟩
      exact ⟨⟨_, hmem, isScript_iff.mpr ⟨⟨content, isProgram, rfl⟩, hextension⟩⟩, hlimit⟩

theorem discover_eq_listed (h : s.isDirectory folder) :
    discover s folder = .ok ((listed s folder).map (Path.join folder)) := by
  unfold Store.isDirectory Store.node at h
  cases hlocate : s.locate folder with
  | error cause =>
      rw [hlocate] at h
      cases h
  | ok here =>
      obtain rfl := Store.locate_eq_ok hlocate
      rw [hlocate] at h
      simp only [bind, Except.bind] at h
      cases hnode : s.find? (Path.place folder) with
      | none =>
          rw [hnode] at h
          cases h
      | some n =>
          rw [hnode] at h
          cases n with
          | directory =>
              simp only [discover, hlocate, hnode, listed, List.filter_map, Function.comp_def]
          | file content isProgram | device d => cases h

/-- What is discovered is listed. -/
theorem exists_lists_of_discover {scripts : List String} (h : discover s folder = .ok scripts) :
    ∃ names, Lists s folder names ∧ scripts = names.map (Path.join folder) := by
  obtain ⟨_, _, rfl⟩ := discover_eq_ok h
  exact ⟨listed s folder, lists_listed s folder, List.filter_map⟩

/-- No two lists of names are those of the scripts of one directory. -/
theorem Lists.unique {others : List String} (h : Lists s folder names)
    (hothers : Lists s folder others) : names = others := by
  have hirrefl : ∀ a b, Text.bytes a < Text.bytes b → a ≠ b := by
    rintro a _ hlt rfl
    exact List.lt_irrefl _ hlt
  have hperm : names.Perm others := by
    refine (List.perm_ext_iff_of_nodup (h.sorted.imp fun hlt => hirrefl _ _ hlt)
      (hothers.sorted.imp fun hlt => hirrefl _ _ hlt)).mpr fun name => ?_
    rw [h.mem_iff, hothers.mem_iff]
  exact hperm.eq_of_pairwise (fun _ _ _ _ hab hba => absurd hba (List.lt_asymm hab)) h.sorted
    hothers.sorted

theorem Lists.relisted (h : Lists s folder names) (hst : s.Relisted t) : Lists t folder names :=
  ⟨h.sorted, fun name => by simp only [h.mem_iff, (hst.children_perm _).mem_iff]⟩

end Script

/-- In whatever order the entries of a directory are listed, the same scripts are discovered. -/
theorem Store.Relisted.discover_eq {s t : Store} (h : s.Relisted t) (folder : String) :
    Script.discover s folder = Script.discover t folder := by
  have hlisted : (Script.listed s folder).map (Path.join folder) =
      (Script.listed t folder).map (Path.join folder) :=
    congrArg _ (((Script.lists_listed s folder).relisted h).unique (Script.lists_listed t folder))
  simp only [Script.listed, ← Function.comp_def (Script.isReachable) (Path.join folder),
    ← List.filter_map] at hlisted
  unfold Script.discover
  rw [h.locate_eq]
  cases hlocate : t.locate folder with
  | error cause => rfl
  | ok here =>
      obtain rfl := Store.locate_eq_ok hlocate
      simp only [h.find?_eq, hlisted]

namespace Script

/-! ### A directory from afar -/

/-- A directory with one script. -/
def oneListed : Store :=
  (Store.empty.put ["t"] .directory).put ["t", "a.timeline"] (.file "".toUTF8 false)

/-- A path to it with some steps in front that lead nowhere. -/
def roundabout : Nat → String
  | 0 => "t"
  | steps + 1 => "./" ++ roundabout steps

theorem toList_roundabout_succ (steps : Nat) :
    (roundabout (steps + 1)).toList = ['.'] ++ '/' :: (roundabout steps).toList := by
  rw [roundabout, String.toList_append]
  rfl

theorem utf8ByteSize_roundabout (steps : Nat) :
    (roundabout steps).utf8ByteSize = 2 * steps + 1 := by
  induction steps with
  | zero => rfl
  | succ steps ih =>
      rw [roundabout, String.utf8ByteSize_append, ih]
      change 2 + _ = _
      omega

theorem walk_roundabout (steps : Nat) :
    oneListed.walk [] (Path.pieces (roundabout steps).toList) = .ok ["t"] := by
  induction steps with
  | zero => decide +kernel
  | succ steps ih =>
      rw [toList_roundabout_succ, Path.pieces_append_slash]
      exact ih

theorem not_mem_roundabout (steps : Nat) : '\x00' ∉ (roundabout steps).toList := by
  induction steps with
  | zero => decide
  | succ steps ih => simp [toList_roundabout_succ, ih]

theorem locate_roundabout {steps : Nat} (h : 2 * steps + 1 ≤ Store.pathLimit) :
    oneListed.locate (roundabout steps) = .ok ["t"] := by
  have hstart : Store.startOf (roundabout steps) = [] := by
    cases steps with
    | zero => decide
    | succ steps => simp [Store.startOf, Path.isAbsolute, toList_roundabout_succ]
  have hsize := utf8ByteSize_roundabout steps
  have hempty : ¬ (roundabout steps).isEmpty := by
    rw [String.isEmpty_iff, ← String.utf8ByteSize_eq_zero_iff]
    omega
  rw [Store.locate, Store.locateAlong, if_neg (not_mem_roundabout steps), if_neg (by omega),
    if_neg hempty, hstart, walk_roundabout]

/-- From too far away, the script of a directory is not discovered, though the path of the directory
is one that the system takes. -/
theorem discover_roundabout : oneListed.isDirectory (roundabout 2045) ∧
    oneListed.children (Path.place (roundabout 2045)) =
      [("a.timeline", .file "".toUTF8 false)] ∧
    HasExtension "a.timeline" ∧ discover oneListed (roundabout 2045) = .ok [] := by
  have hlocate : oneListed.locate (roundabout 2045) = .ok ["t"] := locate_roundabout (by decide)
  have hdir : oneListed.isDirectory (roundabout 2045) := by
    rw [Store.isDirectory, Store.node, hlocate]
    decide +kernel
  have hplace := Store.locate_eq_ok hlocate
  refine ⟨hdir, ?_, ⟨['a'], extension, by decide, by decide, by decide, by decide⟩, ?_⟩
  · rw [← hplace]
    decide +kernel
  · have hfar : isReachable (Path.join (roundabout 2045) "a.timeline") = false := by
      have hlong : (roundabout 2045).utf8ByteSize + "a.timeline".utf8ByteSize ≤
          (Path.join (roundabout 2045) "a.timeline").utf8ByteSize :=
        Path.le_utf8ByteSize_join (by decide)
      rw [utf8ByteSize_roundabout] at hlong
      exact decide_eq_false (Nat.not_le.mpr (lt_of_lt_of_le (by decide) hlong))
    have hselect : select (oneListed.children ["t"]) = ["a.timeline"] := by decide +kernel
    rw [discover_eq_listed hdir, listed, ← hplace, hselect,
      List.filter_cons_of_neg (by simp [hfar])]
    rfl

end Script

end Storyboard
