import Mathlib
import Storyboard.Disk.Store

/-!
Places: where a path leads if it leads anywhere. A walk asks of the files only that its steps end in
directories, so its end is told from the path alone, and a walk that arrives still does so wherever
the directories have been kept.
-/

namespace Storyboard

theorem Path.takeWhile_reverse_append {e : List Char} (h : '.' ∉ e) (stem : List Char) :
    (stem ++ '.' :: e).reverse.takeWhile (· != '.') = e.reverse := by
  have hall : ∀ c ∈ e.reverse, (c != '.') = true := by
    intro c hc
    exact bne_iff_ne.mpr fun hsame => h (hsame ▸ List.mem_reverse.mp hc)
  rw [List.reverse_append, List.reverse_cons, List.append_assoc,
    List.takeWhile_append_of_pos hall]
  simp

namespace Location

/-- The location to which some pieces lead where they lead anywhere. -/
def follow (here : Location) : List (List Char) → Location
  | [] => here
  | piece :: rest =>
    if Path.isIdle piece then follow here rest
    else if piece = ['.', '.'] then follow here.up rest
    else follow (here.child (String.ofList piece)) rest

theorem follow_append (here : Location) (xs ys : List (List Char)) :
    here.follow (xs ++ ys) = (here.follow xs).follow ys := by
  induction xs generalizing here with
  | nil => rfl
  | cons piece xs ih =>
      rw [List.cons_append, follow, follow]
      split
      · exact ih here
      · split
        · exact ih here.up
        · exact ih _

theorem follow_of_idle {here : Location} {pieces : List (List Char)}
    (h : ∀ piece ∈ pieces, Path.isIdle piece) : here.follow pieces = here := by
  induction pieces with
  | nil => rfl
  | cons piece pieces ih =>
      obtain ⟨hpiece, hpieces⟩ := List.forall_mem_cons.mp h
      rw [follow, if_pos hpiece, ih hpieces]

/-- The name of a step, and the location to which it leads. -/
theorem follow_name {here : Location} {piece : List Char} (hidle : Path.isIdle piece = false)
    (hup : piece ≠ ['.', '.']) : here.follow [piece] = here.child (String.ofList piece) := by
  rw [follow, hidle, if_neg Bool.false_ne_true, if_neg hup]
  rfl

/-- A step that is no link leads straight down. -/
theorem child_of_no_link {here : Location} {name : String}
    (h : ∀ link ∈ links, link.1 ≠ here ++ [name]) : here.child name = here ++ [name] := by
  have hnone : links.lookup (here ++ [name]) = none :=
    List.lookup_eq_none_iff.mpr fun link hlink => by
      simpa using (h link hlink).symm
  rw [child, hnone]
  rfl

theorem child_eq {here : Location} {name : String} (hcwd : name ≠ "cwd") (hroot : name ≠ "root") :
    here.child name = here ++ [name] := by
  refine child_of_no_link fun link hlink hl => ?_
  have hlast : link.1.getLast? = some name := by rw [hl, List.getLast?_concat]
  rcases List.mem_pair.mp hlink with rfl | rfl
  · exact hcwd (Option.some.inj hlast).symm
  · exact hroot (Option.some.inj hlast).symm

/-- All links lie in directories of one name. -/
theorem child_concat {here : Location} {folder name : String} (hself : folder ≠ "self") :
    (here ++ [folder]).child name = here ++ [folder] ++ [name] := by
  refine child_of_no_link fun link hlink hl => ?_
  have hfolder : link.1.dropLast.getLast? = some folder := by
    rw [hl, List.dropLast_concat, List.getLast?_concat]
  rcases List.mem_pair.mp hlink with rfl | rfl
  all_goals exact hself (Option.some.inj hfolder).symm

/-- What stands behind the last dot of the last name. -/
def ending (l : Location) : List Char :=
  ((l.getLast?.getD "").toList.reverse.takeWhile (· != '.')).reverse

theorem ending_concat (l : Location) {name : String} {front e : List Char}
    (hname : name.toList = front ++ '.' :: e) (hdot : '.' ∉ e) : (l ++ [name]).ending = e := by
  rw [ending, List.getLast?_concat, Option.getD_some, hname,
    Path.takeWhile_reverse_append hdot, List.reverse_reverse]

end Location

namespace Path

/-- The pieces of a path but for the slashes at its end. -/
theorem exists_dropSlashes_append (pieces : List (List Char)) :
    ∃ empties, (∀ piece ∈ empties, piece.isEmpty) ∧ pieces = dropSlashes pieces ++ empties := by
  refine ⟨(pieces.reverse.takeWhile (·.isEmpty)).reverse, fun piece hpiece => ?_, ?_⟩
  · exact List.mem_takeWhile_imp (List.mem_reverse.mp hpiece)
  · rw [dropSlashes, ← List.reverse_append, List.takeWhile_append_dropWhile, List.reverse_reverse]

/-- The location to which a path leads where it leads anywhere. -/
def place (path : String) : Location :=
  (Store.startOf path).follow (pieces path.toList)

theorem follow_dropSlashes (path : String) :
    (Store.startOf path).follow (dropSlashes (pieces path.toList)) = place path := by
  obtain ⟨empties, hempty, hpieces⟩ := exists_dropSlashes_append (pieces path.toList)
  have hidle : ∀ piece ∈ empties, isIdle piece := by
    intro piece hpiece
    rw [isIdle, hempty piece hpiece, Bool.true_or]
  conv_rhs => rw [place, hpieces, Location.follow_append, Location.follow_of_idle hidle]

/-! ### Names at the end of a path -/

/-- Characters without a slash lengthen the last piece. -/
theorem pieces_append {s t : List Char} (ht : '/' ∉ t) :
    ∃ front last, pieces s = front ++ [last] ∧ pieces (s ++ t) = front ++ [last ++ t] := by
  induction s with
  | nil => exact ⟨[], [], rfl, pieces_eq_self ht⟩
  | cons c s ih =>
      obtain ⟨front, last, hs, hst⟩ := ih
      by_cases hc : c = '/'
      · exact ⟨[] :: front, last, by simp [pieces, hc, hs], by simp [pieces, hc, hst]⟩
      · cases front with
        | nil => exact ⟨[], c :: last, by simp [pieces, hc, hs], by simp [pieces, hc, hst]⟩
        | cons piece front =>
            exact ⟨(c :: piece) :: front, last, by simp [pieces, hc, hs], by simp [pieces, hc, hst]⟩

/-- Only slashes at the end of a path leave empty pieces there. -/
theorem dropSlashes_pieces {s : List Char} (hne : s ≠ []) (hend : s.getLast? ≠ some '/') :
    dropSlashes (pieces s) = pieces s := by
  obtain ⟨init, c, rfl⟩ := (List.eq_nil_or_concat' s).resolve_left hne
  rw [List.getLast?_concat] at hend
  have hslash : '/' ∉ [c] := by
    intro hmem
    exact hend (congrArg some (List.mem_singleton.mp hmem).symm)
  obtain ⟨front, last, -, hpieces⟩ := pieces_append (s := init) hslash
  simp [hpieces, dropSlashes]

/-- A name with a dot and something behind it is a step straight down. -/
theorem follow_named (here : Location) {front e : List Char} (hne : e ≠ []) (hdot : '.' ∉ e) :
    here.follow [front ++ '.' :: e] = here ++ [String.ofList (front ++ '.' :: e)] := by
  have hproper : ∀ piece : List Char, piece.getLast? = some '.' → front ++ '.' :: e ≠ piece := by
    rintro piece hpiece rfl
    obtain ⟨init, c, rfl⟩ := (List.eq_nil_or_concat' e).resolve_left hne
    rw [← List.cons_append, ← List.append_assoc, List.getLast?_concat, Option.some.injEq] at hpiece
    exact hdot (hpiece ▸ List.mem_append_right _ List.mem_cons_self)
  have hidle : isIdle (front ++ '.' :: e) = false := by
    simpa [isIdle] using hproper ['.'] rfl
  have hnolink : ∀ name : String, '.' ∉ name.toList → String.ofList (front ++ '.' :: e) ≠ name := by
    rintro name hname rfl
    simp at hname
  rw [Location.follow_name hidle (hproper ['.', '.'] rfl),
    Location.child_eq (hnolink "cwd" (by decide)) (hnolink "root" (by decide))]

/-- A path that ends with a dot and some characters leads to a name that does. -/
theorem ending_place {path : String} {front e : List Char} (hpath : path.toList = front ++ '.' :: e)
    (hne : e ≠ []) (hdot : '.' ∉ e) (hslash : '/' ∉ e) : (place path).ending = e := by
  have hend : '/' ∉ '.' :: e := by simp [hslash]
  obtain ⟨others, last, -, hpieces⟩ := pieces_append (s := front) hend
  rw [place, hpath, hpieces, Location.follow_append, follow_named _ hne hdot]
  exact Location.ending_concat _ String.toList_ofList hdot

/-- A part below a base stands at the end of its path. -/
theorem exists_toList_join (base part : String) :
    ∃ front, (join base part).toList = front ++ part.toList := by
  unfold join
  split
  · exact ⟨[], rfl⟩
  · split
    · exact ⟨base.toList, String.toList_append⟩
    · exact ⟨base.toList ++ ['/'], by simp⟩

theorem ending_place_join (base : String) {part : String} {front e : List Char}
    (hpart : part.toList = front ++ '.' :: e) (hne : e ≠ []) (hdot : '.' ∉ e)
    (hslash : '/' ∉ e) : (place (join base part)).ending = e := by
  obtain ⟨before, hjoin⟩ := exists_toList_join base part
  rw [hpart, ← List.append_assoc] at hjoin
  exact ending_place hjoin hne hdot hslash

theorem isAbsolute_of_not_mem {part : String} (hslash : '/' ∉ part.toList) :
    isAbsolute part = false := by
  rw [isAbsolute, beq_eq_false_iff_ne]
  exact fun h => hslash (List.mem_of_head? h)

/-- The path of a part below a base lengthens the base, by a slash where none is. -/
theorem exists_join_eq {base part : String} (hslash : '/' ∉ part.toList) (hbase : base ≠ "") :
    ∃ between, (between = "" ∧ endsWithSlash base ∨ between = "/") ∧
      join base part = base ++ between ++ part := by
  have hnonempty : base.isEmpty = false := String.isEmpty_eq_false_iff.mpr hbase
  rw [join, isAbsolute_of_not_mem hslash, hnonempty, if_neg (by decide)]
  split
  · next hend => exact ⟨"", .inl ⟨rfl, hend⟩, by rw [String.append_empty]⟩
  · exact ⟨"/", .inr rfl, rfl⟩

theorem join_empty (part : String) : join "" part = part := by
  simp [join]

/-- A part without slashes is one more piece, in place of the empty one behind a last slash. -/
theorem exists_pieces_join (base : String) {part : String} (hslash : '/' ∉ part.toList) :
    ∃ front idle, pieces (join base part).toList = front ++ [part.toList] ∧
      pieces base.toList = front ++ idle ∧ ∀ piece ∈ idle, isIdle piece := by
  have hpart : pieces part.toList = [part.toList] := pieces_eq_self hslash
  by_cases hbase : base = ""
  · subst hbase
    exact ⟨[], [[]], by rw [join_empty, hpart]; rfl, rfl, by decide⟩
  obtain ⟨between, ⟨rfl, hend⟩ | rfl, hjoin⟩ := exists_join_eq hslash hbase
  · rw [String.append_empty] at hjoin
    have hne : base.toList ≠ [] := fun h => hbase (String.toList_eq_nil_iff.mp h)
    obtain ⟨front, c, hfront⟩ := (List.eq_nil_or_concat' base.toList).resolve_left hne
    obtain rfl : c = '/' := by
      rw [endsWithSlash, hfront, List.getLast?_concat] at hend
      simpa using hend
    refine ⟨pieces front, [[]], ?_, ?_, by decide⟩
    · rw [hjoin, String.toList_append, hfront, List.append_assoc, List.singleton_append,
        pieces_append_slash, hpart]
    · rw [hfront, pieces_append_slash]
      rfl
  · refine ⟨pieces base.toList, [], ?_, by rw [List.append_nil], by simp⟩
    have htext : (base ++ "/" ++ part).toList = base.toList ++ '/' :: part.toList := by simp
    rw [hjoin, htext, pieces_append_slash, hpart]

theorem startOf_join (base : String) {part : String} (hslash : '/' ∉ part.toList) :
    Store.startOf (join base part) = Store.startOf base := by
  by_cases hbase : base = ""
  · subst hbase
    rw [join_empty, Store.startOf, isAbsolute_of_not_mem hslash]
    rfl
  obtain ⟨between, _, hjoin⟩ := exists_join_eq hslash hbase
  have hne : base.toList ≠ [] := fun h => hbase (String.toList_eq_nil_iff.mp h)
  rw [Store.startOf, Store.startOf, isAbsolute, isAbsolute, hjoin, String.append_assoc,
    String.toList_append, List.head?_append_of_ne_nil _ hne]

/-- A part without slashes is one more step. -/
theorem place_join (base : String) {part : String} (hslash : '/' ∉ part.toList) :
    place (join base part) = (place base).follow [part.toList] := by
  obtain ⟨front, idle, hjoin, hbase, hidle⟩ := exists_pieces_join base hslash
  rw [place, place, startOf_join base hslash, hjoin, hbase, Location.follow_append,
    Location.follow_append, Location.follow_of_idle hidle]

/-- A part without slashes that ends with a dot and something is the last name of its place. -/
theorem place_join_named (base : String) {part : String} {front e : List Char}
    (hpart : part.toList = front ++ '.' :: e) (hne : e ≠ []) (hdot : '.' ∉ e)
    (hslash : '/' ∉ part.toList) : place (join base part) = place base ++ [part] := by
  rw [place_join base hslash, hpart, follow_named _ hne hdot, ← hpart, String.ofList_toList]

end Path

namespace Store

/-! ### Walks -/

variable {s s' : Store} {l : Location} {path : String}

theorem walk_eq_ok {here : Location} {pieces : List (List Char)} (h : s.walk here pieces = .ok l) :
    l = here.follow pieces := by
  induction pieces generalizing here with
  | nil =>
      cases h
      rfl
  | cons piece pieces ih =>
      rw [walk] at h
      rw [Location.follow]
      split at h
      · cases h
      · cases h
      · cases h
      · split at h
        · next hidle => rw [if_pos hidle, ih h]
        · next hidle =>
            rw [if_neg hidle]
            split at h
            · next hup => rw [if_pos hup, ih h]
            · next hup =>
                split at h
                · cases h
                · rw [if_neg hup, ih h]

/-- Where the directories have been kept, a walk that arrives still does. -/
theorem walk_mono (hdir : ∀ l, s.find? l = some .directory → s'.find? l = some .directory)
    {here : Location} {pieces : List (List Char)} (h : s.walk here pieces = .ok l) :
    s'.walk here pieces = .ok l := by
  induction pieces generalizing here with
  | nil => exact h
  | cons piece pieces ih =>
      rw [walk] at h
      split at h
      · cases h
      · cases h
      · cases h
      · next hhere =>
          simp only [walk, hdir here hhere]
          split at h
          · next hidle => rw [if_pos hidle, ih h]
          · next hidle =>
              rw [if_neg hidle]
              split at h
              · next hup => rw [if_pos hup, ih h]
              · next hup =>
                  split at h
                  · cases h
                  · next hshort => rw [if_neg hup, if_neg hshort, ih h]

theorem walk_append {here : Location} {xs ys : List (List Char)} :
    s.walk here (xs ++ ys) = (s.walk here xs).bind (s.walk · ys) := by
  induction xs generalizing here with
  | nil => rfl
  | cons piece xs ih =>
      rw [List.cons_append, walk, walk]
      split
      · rfl
      · rfl
      · rfl
      · split
        · exact ih
        · split
          · exact ih
          · split
            · rfl
            · exact ih

/-- Pieces that are no step can be walked in a directory. -/
theorem walk_idle (hl : s.find? l = some .directory) {pieces : List (List Char)}
    (h : ∀ piece ∈ pieces, Path.isIdle piece) : s.walk l pieces = .ok l := by
  induction pieces with
  | nil => rfl
  | cons piece pieces ih =>
      obtain ⟨hpiece, hpieces⟩ := List.forall_mem_cons.mp h
      simp only [walk, hl, hpiece, if_true, ih hpieces]

theorem walk_of_locateAlong {pieces : List (List Char)}
    (h : s.locateAlong path pieces = .ok l) : s.walk (startOf path) pieces = .ok l := by
  unfold locateAlong at h
  split at h
  · cases h
  · split at h
    · cases h
    · split at h
      · cases h
      · exact h

/-- Whether a path is one that the system takes does not depend on the files. -/
theorem locateAlong_of_walk {pieces others : List (List Char)} {m : Location}
    (h : s.locateAlong path pieces = .ok l) (hwalk : s'.walk (startOf path) others = .ok m) :
    s'.locateAlong path others = .ok m := by
  unfold locateAlong at h ⊢
  split at h
  · cases h
  · next hnull =>
      rw [if_neg hnull]
      split at h
      · cases h
      · next hlong =>
          rw [if_neg hlong]
          split at h
          · cases h
          · next hempty => rw [if_neg hempty, hwalk]

theorem locate_eq_ok (h : s.locate path = .ok l) : l = Path.place path :=
  walk_eq_ok (walk_of_locateAlong h)

theorem locate_mono (hdir : ∀ l, s.find? l = some .directory → s'.find? l = some .directory)
    (h : s.locate path = .ok l) : s'.locate path = .ok l :=
  locateAlong_of_walk h (walk_mono hdir (walk_of_locateAlong h))

/-- The location of a file to be made is named by the path without slashes at its end. -/
theorem locateNew_eq_ok (h : s.locateNew path = .ok l) :
    s.locateAlong path (Path.dropSlashes (Path.pieces path.toList)) = .ok l ∧
      Path.endsWithSlash path = false := by
  unfold locateNew at h
  cases hl : s.locateAlong path (Path.dropSlashes (Path.pieces path.toList)) with
  | error e =>
      rw [hl] at h
      cases h
  | ok m =>
      simp only [hl, bind, Except.bind] at h
      split at h
      · cases h
      · next hend =>
          cases h
          exact ⟨rfl, Bool.eq_false_iff.mpr hend⟩

theorem locate_of_locateNew (h : s.locateNew path = .ok l) : s.locate path = .ok l := by
  obtain ⟨hl, hend⟩ := locateNew_eq_ok h
  have hne : path.toList ≠ [] := by
    intro hnil
    have hempty : path.isEmpty := by
      rw [String.isEmpty_iff, ← String.toList_inj, hnil]
      rfl
    unfold locateAlong at hl
    split_ifs at hl
  have hslash : path.toList.getLast? ≠ some '/' := by
    intro hlast
    simp [Path.endsWithSlash, hlast] at hend
  rw [Path.dropSlashes_pieces hne hslash] at hl
  exact hl

theorem place_of_steps
    (h : s.locateAlong path (Path.dropSlashes (Path.pieces path.toList)) = .ok l) :
    l = Path.place path :=
  (walk_eq_ok (walk_of_locateAlong h)).trans (Path.follow_dropSlashes path)

theorem locateNew_mono (hdir : ∀ l, s.find? l = some .directory → s'.find? l = some .directory)
    (h : s.locateNew path = .ok l) : s'.locateNew path = .ok l := by
  obtain ⟨hl, hend⟩ := locateNew_eq_ok h
  have hl' := locateAlong_of_walk hl (walk_mono hdir (walk_of_locateAlong hl))
  rw [locateNew, hl', hend]
  rfl

/-- A directory is found with and without slashes at the end of its path. -/
theorem locate_iff_steps (hl : s.find? l = some .directory) :
    s.locate path = .ok l ↔
      s.locateAlong path (Path.dropSlashes (Path.pieces path.toList)) = .ok l := by
  obtain ⟨empties, hempty, hpieces⟩ := Path.exists_dropSlashes_append (Path.pieces path.toList)
  have hidle : ∀ piece ∈ empties, Path.isIdle piece := fun piece hpiece => by
    rw [Path.isIdle, hempty piece hpiece, Bool.true_or]
  constructor
  · intro h
    refine locateAlong_of_walk h ?_
    have hwalk := walk_of_locateAlong h
    rw [hpieces, walk_append] at hwalk
    cases hm : s.walk (startOf path) (Path.dropSlashes (Path.pieces path.toList)) with
    | error e =>
        rw [hm] at hwalk
        cases hwalk
    | ok m =>
        rw [hm] at hwalk
        rw [walk_eq_ok hwalk, Location.follow_of_idle hidle]
  · intro h
    refine locateAlong_of_walk h ?_
    rw [hpieces, walk_append, walk_of_locateAlong h]
    exact walk_idle hl hidle

/-! ### What a path names -/

theorem node_eq_ok {n : Node} :
    s.node path = .ok n ↔ ∃ l, s.locate path = .ok l ∧ s.find? l = some n := by
  unfold node
  cases hl : s.locate path with
  | error e => simp [bind, Except.bind]
  | ok l =>
      cases hn : s.find? l with
      | none => simp [bind, Except.bind, hn]
      | some m => simp [bind, Except.bind, hn]

theorem contains_iff :
    s.contains path ↔ ∃ l, s.locate path = .ok l ∧ (s.find? l).isSome := by
  have hok : s.contains path ↔ ∃ n, s.node path = .ok n := by
    unfold contains
    cases s.node path with
    | error e => simp [Except.isOk, Except.toBool]
    | ok n => simp [Except.isOk, Except.toBool]
  rw [hok]
  simp only [node_eq_ok, Option.isSome_iff_exists]
  exact ⟨fun ⟨n, l, hl, hn⟩ => ⟨l, hl, n, hn⟩, fun ⟨l, hl, n, hn⟩ => ⟨n, l, hl, hn⟩⟩

theorem isDirectory_iff :
    s.isDirectory path ↔ ∃ l, s.locate path = .ok l ∧ s.find? l = some .directory := by
  rw [← node_eq_ok]
  unfold isDirectory
  split
  · next h => simp [h]
  · next h => simpa using h

theorem readText_congr (h : s'.node path = s.node path) : s'.readText path = s.readText path := by
  simp only [readText, read, h]

/-- Where the directories are kept and what stands at its place is, a text is read again. -/
theorem readText_mono {text : String}
    (hdir : ∀ l, s.find? l = some .directory → s'.find? l = some .directory)
    (hkept : ∀ {n}, s.find? (Path.place path) = some n → s'.find? (Path.place path) = some n)
    (h : s.readText path = .ok text) : s'.readText path = .ok text := by
  cases hn : s.node path with
  | error cause =>
      rw [readText, read, hn] at h
      cases h
  | ok n =>
      obtain ⟨l, hl, hnode⟩ := node_eq_ok.mp hn
      have hn' : s'.node path = .ok n := by
        refine node_eq_ok.mpr ⟨l, locate_mono hdir hl, ?_⟩
        rw [locate_eq_ok hl] at hnode ⊢
        exact hkept hnode
      rw [readText_congr (hn'.trans hn.symm), h]

end Store

end Storyboard
