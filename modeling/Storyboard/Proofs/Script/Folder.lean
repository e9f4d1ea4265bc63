import Mathlib
import Storyboard.Proofs.Disk.Change
import Storyboard.Script.Folder

/-!
What the scripts of a folder depend on: the directory and the script files among the entries. The
name to which the path of a script leads has the extension of scripts.
-/

namespace Storyboard

theorem Path.extensionOfName?_eq_some {name e : List Char} (h : extensionOfName? name = some e) :
    '.' ∉ e ∧ ∃ front, name = front ++ '.' :: e := by
  unfold extensionOfName? at h
  simp only [Option.ite_none_right_eq_some, Option.some.injEq] at h
  obtain ⟨hlength, rfl⟩ := h
  have hname := List.takeWhile_append_dropWhile (p := (· != '.')) (l := name.reverse)
  have hdot := List.head?_dropWhile_not (· != '.') name.reverse
  refine ⟨fun hmem => ?_, ?_⟩
  · simpa using List.mem_takeWhile_imp (List.mem_reverse.mp hmem)
  · cases hrest : name.reverse.dropWhile (· != '.') with
    | nil =>
        rw [hrest, List.append_nil] at hname
        rw [hname, List.length_reverse] at hlength
        omega
    | cons c front =>
        rw [hrest] at hname hdot
        obtain rfl : c = '.' := by simpa using hdot
        have hsplit := congrArg List.reverse hname
        rw [List.reverse_reverse] at hsplit
        exact ⟨front.reverse, hsplit.symm.trans (by simp)⟩

namespace Script

/-- Whether the last name of a location has the extension of scripts. -/
def isPlace (l : Location) : Bool :=
  Text.sameWord extension l.ending

/-- Whether an entry is a script file. -/
def isEntry (e : Location × Node) : Bool :=
  e.1.getLast?.any fun name => isScript (name, e.2)

theorem isEntry_directory (l : Location) : isEntry (l, .directory) = false :=
  (Option.any_eq_false _ _).mpr fun _ _ => rfl

theorem exists_of_isScript {name : String} {n : Node} (h : isScript (name, n)) :
    ∃ front e, name.toList = front ++ '.' :: e ∧ '.' ∉ e ∧ Text.sameWord extension e := by
  cases n with
  | directory | device d => cases h
  | file content isProgram =>
      obtain ⟨e, he, hsame⟩ := (Option.any_eq_true _ _).mp h
      obtain ⟨hdot, front, hname⟩ := Path.extensionOfName?_eq_some he
      exact ⟨front, e, hname, hdot, hsame⟩

theorem isPlace_of_isEntry {l : Location} {n : Node} (h : isEntry (l, n)) : isPlace l := by
  obtain ⟨name, hname, hscript⟩ := (Option.any_eq_true _ _).mp h
  obtain ⟨front, e, hsplit, hdot, hsame⟩ := exists_of_isScript hscript
  have hending : l.ending = e := by
    obtain ⟨others, rfl⟩ := List.getLast?_eq_some_iff.mp hname
    exact Location.ending_concat others hsplit hdot
  rw [isPlace, hending]
  exact hsame

/-- The extension of scripts, in any case, has no slash and is not empty. -/
theorem not_mem_of_sameWord {e : List Char} (h : Text.sameWord extension e) :
    '/' ∉ e ∧ e ≠ [] := by
  have hlower : Text.lower extension = Text.lower e := beq_iff_eq.mp h
  refine ⟨fun hmem => ?_, ?_⟩
  · have hslash : '/'.toLower ∈ Text.lower extension := hlower ▸ List.mem_map_of_mem hmem
    exact absurd hslash (by decide)
  · rintro rfl
    cases hlower

theorem filter_children (s : Store) (here : Location) :
    (s.children here).filter isScript = (s.entries.filter isEntry).filterMap fun e =>
      match e.1.getLast? with
      | some name => if e.1.dropLast = here then some (name, e.2) else none
      | none => none := by
  rw [Store.children, List.filter_filterMap, List.filterMap_filter]
  refine List.filterMap_congr fun e _ => ?_
  cases hname : e.1.getLast? with
  | none => simp [isEntry, hname]
  | some name =>
      by_cases hhere : e.1.dropLast = here
      · simp [isEntry, hname, hhere, Option.filter]
      · simp [hname, hhere, Option.filter]

/-- Where the directories and the script files are the same, the scripts are. -/
theorem discover_congr {s s' : Store} {directory : String} {scripts : List String}
    (hdir : ∀ l, s.find? l = some .directory → s'.find? l = some .directory)
    (hentries : s'.entries.filter isEntry = s.entries.filter isEntry)
    (h : discover s directory = .ok scripts) : discover s' directory = .ok scripts := by
  unfold discover at h ⊢
  split at h
  · cases h
  · next here hhere =>
      rw [Store.locate_mono hdir hhere]
      split at h
      · next hnode =>
          have hselect : select (s'.children here) = select (s.children here) := by
            rw [select, select, filter_children, filter_children, hentries]
          simp only [hdir here hnode, hselect]
          exact h
      · cases h

/-- Scripts that a directory lists in their order are discovered as they are listed. -/
theorem discover_of_pairwise {s : Store} {directory : String} (here : Location)
    (names : List String) (hhere : s.locate directory = .ok here)
    (hdir : s.find? here = some .directory)
    (hnames : ((s.children here).filter isScript).map (·.1) = names)
    (hsorted : names.Pairwise fun a b => nameBefore a b)
    (hreachable : ∀ path ∈ names.map (Path.join directory), isReachable path) :
    discover s directory = .ok (names.map (Path.join directory)) := by
  simp only [discover, hhere, hdir, select, hnames, List.mergeSort_of_pairwise hsorted,
    List.filter_eq_self.mpr hreachable]

theorem isPlace_of_mem_discover {s : Store} {directory : String} {scripts : List String}
    (h : discover s directory = .ok scripts) : ∀ path ∈ scripts, isPlace (Path.place path) := by
  unfold discover at h
  split at h
  · cases h
  · split at h
    · cases h
      intro path hpath
      obtain ⟨name, hname, rfl⟩ := List.mem_map.mp (List.mem_filter.mp hpath).1
      rw [select, List.mem_mergeSort] at hname
      obtain ⟨⟨name, n⟩, hmem, rfl⟩ := List.mem_map.mp hname
      obtain ⟨front, e, hsplit, hdot, hsame⟩ := exists_of_isScript (List.mem_filter.mp hmem).2
      obtain ⟨hslash, hne⟩ := not_mem_of_sameWord hsame
      rw [isPlace, Path.ending_place_join directory hsplit hne hdot hslash]
      exact hsame
    · cases h

end Script

end Storyboard
