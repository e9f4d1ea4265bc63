import Mathlib
import Storyboard.Proofs.Disk.Likeness
import Storyboard.Proofs.Script.Folder

/-!
Taking a script away. The other scripts of its directory are discovered as before, and each of them
reads as before, whatever is made of the files beside it.
-/

namespace Storyboard

theorem Store.isSome_of_mem {s : Store} {l : Location} {n : Node} (h : (l, n) ∈ s.entries) :
    (s.find? l).isSome := by
  have hlookup : ∀ {entries : List (Location × Node)}, (l, n) ∈ entries →
      (lookup entries l).isSome := by
    intro entries hmem
    induction entries with
    | nil => cases hmem
    | cons e rest ih =>
        rw [lookup]
        split
        · rfl
        · next hne =>
            rcases List.mem_cons.mp hmem with rfl | hrest
            · exact absurd rfl hne
            · exact ih hrest
  unfold find?
  split
  · rfl
  · exact hlookup h

namespace Script

variable {s : Store} {folder path name : String} {here : Location} {scripts : List String}
  {entries : List (String × Node)} {n : Node}

/-- The scripts of a directory are listed by their names. -/
theorem discover_eq_ok (h : discover s folder = .ok scripts) :
    s.locate folder = .ok (Path.place folder) ∧ s.find? (Path.place folder) = some .directory ∧
      scripts = ((select (s.children (Path.place folder))).map (Path.join folder)).filter
        isReachable := by
  unfold discover at h
  split at h
  · cases h
  · next here hhere =>
      obtain rfl := Store.locate_eq_ok hhere
      split at h
      · next hdir =>
          cases h
          exact ⟨hhere, hdir, rfl⟩
      · cases h

theorem mem_select : name ∈ select entries ↔ ∃ n, (name, n) ∈ entries ∧ isScript (name, n) := by
  simp [select, List.mem_mergeSort]

theorem pairwise_select (entries : List (String × Node)) :
    (select entries).Pairwise fun a b => a ≤ b := by
  have hle : ∀ {a b : String}, nameBefore a b ↔ a ≤ b := by
    intro a b
    rw [nameBefore, Bool.not_eq_true', decide_eq_false_iff_not, String.not_lt]
  have htrans : ∀ a b c : String, nameBefore a b → nameBefore b c → nameBefore a c := by
    intro a b c
    simp only [hle]
    exact le_trans
  have htotal : ∀ a b : String, nameBefore a b || nameBefore b a := by
    intro a b
    rw [Bool.or_eq_true, hle, hle]
    exact le_total a b
  exact (List.pairwise_mergeSort htrans htotal _).imp hle.mp

/-- Without the entries of one name, the others are selected as before. -/
theorem select_filter (entries : List (String × Node)) (name : String) :
    select (entries.filter (·.1 ≠ name)) = (select entries).filter (· ≠ name) := by
  have hperm : (select (entries.filter (·.1 ≠ name))).Perm ((select entries).filter (· ≠ name)) := by
    have hsame : ((entries.filter (·.1 ≠ name)).filter isScript).map (·.1) =
        ((entries.filter isScript).map (·.1)).filter (· ≠ name) := by
      rw [List.filter_map, List.filter_filter, List.filter_filter]
      simp only [Function.comp_def, Bool.and_comm]
    rw [select, hsame]
    exact (List.mergeSort_perm _ _).trans ((List.mergeSort_perm _ _).symm.filter _)
  exact hperm.eq_of_pairwise (fun a b _ _ hab hba => le_antisymm hab hba) (pairwise_select _)
    ((pairwise_select entries).filter _)

/-- The name of an entry, if it is one of a directory. -/
def childOf (here : Location) (e : Location × Node) : Option (String × Node) :=
  match e.1.getLast? with
  | some name => if e.1.dropLast = here then some (name, e.2) else none
  | none => none

theorem children_eq (s : Store) (here : Location) :
    s.children here = s.entries.filterMap (childOf here) :=
  rfl

theorem childOf_eq_some {e : Location × Node} :
    childOf here e = some (name, n) ↔ e = (here ++ [name], n) := by
  obtain ⟨l, m⟩ := e
  constructor
  · intro h
    unfold childOf at h
    split at h
    · next last hlast =>
        obtain ⟨front, hfront⟩ := List.getLast?_eq_some_iff.mp hlast
        dsimp only at hfront
        subst hfront
        rw [Option.ite_none_right_eq_some] at h
        obtain ⟨rfl, h⟩ := h
        cases h
        simp
    · cases h
  · rintro h
    cases h
    simp [childOf]

theorem mem_children : (name, n) ∈ s.children here ↔ (here ++ [name], n) ∈ s.entries := by
  simp [children_eq, List.mem_filterMap, childOf_eq_some]

theorem children_erase (s : Store) (here : Location) (name : String) :
    (s.erase (here ++ [name])).children here = (s.children here).filter (·.1 ≠ name) := by
  rw [children_eq, children_eq, Store.erase, Store.keep, List.filter_filterMap,
    List.filterMap_filter]
  refine List.filterMap_congr fun e _ => ?_
  obtain ⟨l, m⟩ := e
  cases hchild : childOf here (l, m) with
  | none => simp
  | some child =>
      obtain ⟨last, k⟩ := child
      obtain ⟨rfl, rfl⟩ := Prod.mk.inj (childOf_eq_some.mp hchild)
      by_cases hname : last = name <;> simp [hname, Option.filter]

/-- No name is found twice in a directory. -/
theorem nodup_select (s : Store) (here : Location) : (select (s.children here)).Nodup := by
  have hentries : s.entries.Pairwise fun a b => a.1 ≠ b.1 := List.pairwise_map.mp s.nodup
  have hchildren : (s.children here).Pairwise fun a b => a.1 ≠ b.1 := by
    refine hentries.filterMap _ ?_
    rintro e e' hne ⟨name, n⟩ hname ⟨name', n'⟩ hname' hsame
    rw [childOf_eq_some.mp hname, childOf_eq_some.mp hname'] at hne
    exact hne (congrArg (fun name => here ++ [name]) hsame)
  refine (List.mergeSort_perm _ _).nodup_iff.mpr ?_
  exact List.pairwise_map.mpr (hchildren.filter _)

end Script

/-- A script that stands under a name in a directory that is there. -/
structure Store.Stocks (s : Store) (folder name : String) : Prop where
  isName : Path.IsName name
  leads : s.Leads folder
  place_eq : Path.place (Path.join folder name) = Path.place folder ++ [name]
  isPlace : Script.isPlace (Path.place (Path.join folder name))
  there : (s.find? (Path.place (Path.join folder name))).isSome

namespace Script

variable {s : Store} {folder path name : String} {here : Location} {scripts : List String}
  {entries : List (String × Node)} {n : Node}

theorem stocks_of_mem_select (htree : s.IsTree) (hfolder : s.Leads folder)
    (hname : name ∈ select (s.children (Path.place folder))) : s.Stocks folder name := by
  obtain ⟨n, hchild, hscript⟩ := mem_select.mp hname
  have hentry := mem_children.mp hchild
  obtain ⟨name', hlast, hslash, _⟩ := htree _ hentry
  rw [List.getLast?_concat] at hlast
  obtain rfl := Option.some.inj hlast
  obtain ⟨front, e, hsplit, hdot, hsame⟩ := exists_of_isScript hscript
  have hne := (not_mem_of_sameWord hsame).2
  have hplace := Path.place_join_named folder hsplit hne hdot hslash
  refine ⟨Path.isName_of_dot hsplit hne hdot hslash, hfolder, hplace, ?_, ?_⟩
  · rw [hplace, isPlace, Location.ending_concat _ hsplit hdot]
    exact hsame
  · rw [hplace]
    exact Store.isSome_of_mem hentry

/-- What is discovered in a tree stands in the directory. -/
theorem stocks_of_discover (htree : s.IsTree) (h : discover s folder = .ok scripts)
    (hpath : path ∈ scripts) : ∃ name, path = Path.join folder name ∧ s.Stocks folder name := by
  obtain ⟨hlocate, hdir, rfl⟩ := discover_eq_ok h
  obtain ⟨name, hname, rfl⟩ := List.mem_map.mp (List.mem_filter.mp hpath).1
  exact ⟨name, rfl, stocks_of_mem_select htree ⟨Store.walk_of_locateAlong hlocate, hdir⟩ hname⟩

theorem eq_of_place (hname : s.Stocks folder name) {other : String}
    (hother : s.Stocks folder other)
    (h : Path.place (Path.join folder name) = Path.place (Path.join folder other)) :
    name = other := by
  rw [hname.place_eq, hother.place_eq] at h
  exact List.singleton_inj.mp (List.append_cancel_left h)

theorem nodup_discover (htree : s.IsTree) (h : discover s folder = .ok scripts) :
    scripts.Nodup := by
  obtain ⟨hlocate, hdir, rfl⟩ := discover_eq_ok h
  refine ((nodup_select s _).map_on fun name hname other hother hsame => ?_).filter _
  have hfolder : s.Leads folder := ⟨Store.walk_of_locateAlong hlocate, hdir⟩
  exact eq_of_place (stocks_of_mem_select htree hfolder hname)
    (stocks_of_mem_select htree hfolder hother) (congrArg Path.place hsame)

/-- Without one of its scripts, a directory has the other ones. -/
theorem discover_erase (htree : s.IsTree) (h : discover s folder = .ok scripts)
    (hpath : path ∈ scripts) (hfile : s.find? (Path.place path) ≠ some .directory) :
    discover (s.erase (Path.place path)) folder = .ok (scripts.filter (· ≠ path)) := by
  obtain ⟨hlocate, hdir, rfl⟩ := discover_eq_ok h
  obtain ⟨name, hname, rfl⟩ := List.mem_map.mp (List.mem_filter.mp hpath).1
  have hfolder : s.Leads folder := ⟨Store.walk_of_locateAlong hlocate, hdir⟩
  have hstocks := stocks_of_mem_select htree hfolder hname
  have hkept : ∀ l, s.find? l = some .directory →
      (s.erase (Path.place (Path.join folder name))).find? l = some .directory := by
    intro l hl
    rwa [Store.find?_erase_of_ne]
    rintro rfl
    exact hfile hl
  have hothers : ((select (s.children (Path.place folder))).map (Path.join folder)).filter
      (· ≠ Path.join folder name) =
        ((select (s.children (Path.place folder))).filter (· ≠ name)).map (Path.join folder) := by
    rw [List.filter_map]
    refine congrArg _ (List.filter_congr fun other hother => ?_)
    have hiff : Path.join folder other = Path.join folder name ↔ other = name :=
      ⟨fun h => eq_of_place (stocks_of_mem_select htree hfolder hother) hstocks
        (congrArg Path.place h), fun h => by rw [h]⟩
    simp [hiff]
  rw [List.filter_comm, hothers, ← select_filter, ← children_erase, ← hstocks.place_eq]
  simp only [discover, Store.locate_mono hkept hlocate, hkept _ hdir]

end Script

theorem Store.not_isLocked_of_remove {s s' : Store} {path : String}
    (h : s.remove path = .ok s') : ¬ (Path.place path).isLocked := by
  unfold remove at h
  cases hl : s.locate path with
  | error e =>
      rw [hl] at h
      cases h
  | ok l =>
      obtain rfl := locate_eq_ok hl
      simp only [hl, bind, Except.bind] at h
      split at h
      · cases h
      · cases h
      · split at h
        · cases h
        · assumption
      · cases h

/-- A script reads as it did, where it has been kept. -/
theorem Store.Grown.readText_eq {base s : Store} {K : Location → Prop} {folder name : String}
    (h : base.Grown K s) (hscript : base.Stocks folder name)
    (hK : K (Path.place (Path.join folder name))) :
    s.readText (Path.join folder name) = base.readText (Path.join folder name) := by
  obtain ⟨parent, hbelow, _, hparent⟩ := exists_below_join folder hscript.isName
  have hleads := hparent base hscript.leads
  have hlocate : s.locate (Path.join folder name) = base.locate (Path.join folder name) :=
    (hbelow.locate_of_leads (h.leads hleads)).trans (hbelow.locate_of_leads hleads).symm
  refine readText_congr ?_
  rw [node, node, hlocate]
  cases hl : base.locate (Path.join folder name) with
  | error cause => rfl
  | ok l =>
      obtain rfl := locate_eq_ok hl
      simp only [bind, Except.bind, h.kept hK hscript.there]

end Storyboard
