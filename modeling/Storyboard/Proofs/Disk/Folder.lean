import Mathlib
import Storyboard.Proofs.Disk.Change

/-!
Folders. The path that a path lies in is a front part of its text and leads to where the path steps
on from; so a path that can be walked lies in directories all the way, and nothing has to be made
for it. Below a directory, making a folder is one step.
-/

namespace Storyboard

namespace Path

/-! ### Names -/

/-- A text that stands for one step down. -/
structure IsName (part : String) : Prop where
  slash : '/' ∉ part.toList
  step : isIdle part.toList = false
  down : part.toList ≠ ['.', '.']

theorem IsName.ne_nil {part : String} (h : IsName part) : part.toList ≠ [] := by
  intro hnil
  have hstep := h.step
  rw [hnil] at hstep
  cases hstep

theorem isName_of_dot {part : String} {front e : List Char}
    (hpart : part.toList = front ++ '.' :: e) (hne : e ≠ []) (hdot : '.' ∉ e)
    (hslash : '/' ∉ part.toList) : IsName part := by
  obtain ⟨init, c, rfl⟩ := (List.eq_nil_or_concat' e).resolve_left hne
  have hlast : part.toList.getLast? = some c := by
    rw [hpart, ← List.cons_append, ← List.append_assoc, List.getLast?_concat]
  have hc : c ≠ '.' := by
    rintro rfl
    exact hdot (List.mem_append_right _ List.mem_cons_self)
  have hproper : ∀ piece : List Char, piece.getLast? ≠ some c → part.toList ≠ piece := by
    rintro piece hpiece rfl
    exact hpiece hlast
  have hnil := hproper [] (by simp)
  have hhere := hproper ['.'] (by simpa using hc.symm)
  exact ⟨hslash, by simp [isIdle, hnil, hhere], hproper ['.', '.'] (by simpa using hc.symm)⟩

theorem place_join_name (base : String) {part : String} (hpart : IsName part) :
    place (join base part) = (place base).child part := by
  rw [place_join base hpart.slash, Location.follow_name hpart.step hpart.down,
    String.ofList_toList]

/-! ### The path that a path lies in -/

theorem joined_append_cons (xs : List (List Char)) {y : List Char} {ys : List (List Char)}
    (hxs : xs ≠ []) : joined (xs ++ y :: ys) = joined xs ++ '/' :: joined (y :: ys) := by
  induction xs with
  | nil => exact absurd rfl hxs
  | cons x xs ih =>
      cases xs with
      | nil => rfl
      | cons x' xs =>
          have hrest := ih (List.cons_ne_nil _ _)
          simp only [List.cons_append, joined] at hrest ⊢
          rw [hrest, List.append_assoc, List.cons_append]

theorem not_mem_of_mem_pieces {s piece : List Char} (h : piece ∈ pieces s) : '/' ∉ piece := by
  induction s generalizing piece with
  | nil =>
      obtain rfl := List.mem_singleton.mp h
      exact List.not_mem_nil
  | cons c s ih =>
      rw [pieces] at h
      split at h
      · rcases List.mem_cons.mp h with rfl | h
        · exact List.not_mem_nil
        · exact ih h
      · next hc =>
          split at h
          · next hnil => exact absurd hnil (pieces_ne_nil s)
          · next first others hfirst =>
              rw [hfirst] at ih
              rcases List.mem_cons.mp h with rfl | h
              · intro hmem
                rcases List.mem_cons.mp hmem with rfl | hmem
                · exact hc rfl
                · exact ih List.mem_cons_self hmem
              · exact ih (List.mem_cons_of_mem _ h)

/-- Pieces without slashes are read off their text again. -/
theorem pieces_joined {xs : List (List Char)} (hne : xs ≠ []) (h : ∀ x ∈ xs, '/' ∉ x) :
    pieces (joined xs) = xs := by
  induction xs with
  | nil => exact absurd rfl hne
  | cons x xs ih =>
      obtain ⟨hx, hxs⟩ := List.forall_mem_cons.mp h
      cases xs with
      | nil => exact pieces_eq_self hx
      | cons y ys =>
          have htext : joined (x :: y :: ys) = x ++ '/' :: joined (y :: ys) := rfl
          rw [htext, pieces_append_slash, pieces_eq_self hx, ih (List.cons_ne_nil _ _) hxs,
            List.singleton_append]

theorem exists_dropIdleEnd_append (xs : List (List Char)) :
    ∃ idle, (∀ piece ∈ idle, isIdle piece) ∧ xs = dropIdleEnd xs ++ idle := by
  refine ⟨(xs.reverse.takeWhile isIdle).reverse, ?_, ?_⟩
  · intro piece hpiece
    exact List.mem_takeWhile_imp (List.mem_reverse.mp hpiece)
  · rw [dropIdleEnd, ← List.reverse_append, List.takeWhile_append_dropWhile, List.reverse_reverse]

theorem isIdle_of_dropIdleEnd {xs ys : List (List Char)} {x : List Char}
    (h : dropIdleEnd xs = ys ++ [x]) : isIdle x = false := by
  have hreverse : xs.reverse.dropWhile isIdle = x :: ys.reverse := by
    rw [← List.reverse_inj, ← dropIdleEnd, h]
    simp
  have hhead := List.head?_dropWhile_not isIdle xs.reverse
  rw [hreverse] at hhead
  simpa using hhead

theorem joined_ne_nil {xs : List (List Char)} (hne : xs ≠ []) (hempty : xs ≠ [[]]) :
    joined xs ≠ [] := by
  cases xs with
  | nil => exact absurd rfl hne
  | cons x xs =>
      cases xs with
      | nil =>
          rintro (hnil : x = [])
          exact hempty (by rw [hnil])
      | cons y ys => simp [joined]

/-- The path that a path lies in is empty, the root, or has the pieces of the path but for the last
ones. -/
theorem parent?_cases {path parent : String} (h : parent? path = some parent) :
    (parent = "" ∧ ∃ first idle, first ≠ [] ∧ (∀ piece ∈ idle, isIdle piece) ∧
      pieces path.toList = first :: idle) ∨
    ∃ front idle last idle', (∃ first inner, front = first :: dropIdleEnd inner) ∧
      (parent = "/" ∧ front = [[]] ∨ front ≠ [[]] ∧ parent = String.ofList (joined front)) ∧
      (∀ piece ∈ idle, isIdle piece) ∧ isIdle last = false ∧ (∀ piece ∈ idle', isIdle piece) ∧
      pieces path.toList = front ++ (idle ++ last :: idle') := by
  obtain ⟨first, pieces', hpieces⟩ := List.exists_cons_of_ne_nil (pieces_ne_nil path.toList)
  obtain ⟨idle, hidle, htail⟩ := exists_dropIdleEnd_append pieces'
  have htrimmed : trimmed path = (first, dropIdleEnd pieces') := by
    rw [trimmed, hpieces]
  rw [parent?, htrimmed] at h
  cases hrest : dropIdleEnd pieces' with
  | nil =>
      rw [hrest] at h htail
      cases first with
      | nil => cases h
      | cons c first =>
          cases h
          exact .inl ⟨rfl, _, idle, List.cons_ne_nil _ _, hidle, by rw [hpieces, htail]; rfl⟩
  | cons r rest =>
      rw [hrest] at h htail
      obtain ⟨inner, last, hinner⟩ : ∃ inner last, r :: rest = inner ++ [last] :=
        ⟨_, _, (List.dropLast_append_getLast (List.cons_ne_nil r rest)).symm⟩
      have hlast : isIdle last = false := isIdle_of_dropIdleEnd (hrest.trans hinner)
      obtain ⟨idle', hidle', hback⟩ := exists_dropIdleEnd_append inner
      have hinit : (r :: rest).dropLast = inner := by rw [hinner, List.dropLast_concat]
      rw [hinner, hback] at htail
      have hall : pieces path.toList = (first :: dropIdleEnd inner) ++ (idle' ++ last :: idle) := by
        rw [hpieces, htail]
        simp
      refine .inr ⟨_, idle', last, idle, ⟨first, inner, rfl⟩, ?_, hidle', hlast, hidle, hall⟩
      cases first with
      | nil =>
          dsimp only at h
          rw [hinit] at h
          cases hkept : dropIdleEnd inner with
          | nil =>
              rw [hkept] at h
              cases h
              exact .inl ⟨rfl, rfl⟩
          | cons k kept =>
              rw [hkept] at h
              cases h
              exact .inr ⟨by simp, rfl⟩
      | cons c first =>
          dsimp only at h
          rw [hinit] at h
          cases h
          exact .inr ⟨by simp, rfl⟩

theorem parent?_front {path parent : String} (h : parent? path = some parent) :
    parent.toList <+: path.toList ∧ parent.length < path.length := by
  suffices ∃ c rest, path.toList = parent.toList ++ c :: rest by
    obtain ⟨c, rest, hpath⟩ := this
    refine ⟨⟨_, hpath.symm⟩, ?_⟩
    rw [← String.length_toList, ← String.length_toList, hpath, List.length_append,
      List.length_cons]
    omega
  rcases parent?_cases h with ⟨rfl, first, idle, hne, _, hpieces⟩ |
    ⟨_, idle, last, idle', ⟨first, inner, rfl⟩, hparent, _, hlast, _, hpieces⟩
  · refine List.exists_cons_of_ne_nil fun hnil => hne ?_
    rw [hnil] at hpieces
    exact (List.cons.inj hpieces).1.symm
  · have hne : first :: dropIdleEnd inner ≠ [] := List.cons_ne_nil _ _
    have hlast' : last ≠ [] := by
      rintro rfl
      cases hlast
    have hback : idle ++ last :: idle' ≠ [] := by simp
    have hback' : idle ++ last :: idle' ≠ [[]] := by
      cases idle with
      | nil => simp [hlast']
      | cons piece idle => simp
    obtain ⟨y, ys, hys⟩ := List.exists_cons_of_ne_nil hback
    obtain ⟨c, rest, hrest⟩ := List.exists_cons_of_ne_nil (joined_ne_nil hback hback')
    have htext : path.toList = joined (first :: dropIdleEnd inner) ++ '/' :: c :: rest := by
      rw [← joined_pieces path.toList, hpieces, hys, joined_append_cons _ hne, ← hys, hrest]
    rcases hparent with ⟨rfl, hroot⟩ | ⟨_, rfl⟩
    · rw [hroot] at htext
      exact ⟨c, rest, htext⟩
    · exact ⟨'/', c :: rest, by rw [String.toList_ofList, htext]⟩

/-- A path and the one that it lies in start at one location and have pieces in common. Behind them,
the one that it lies in makes no step. -/
theorem parent?_pieces {path parent : String} (h : parent? path = some parent) :
    Store.startOf path = Store.startOf parent ∧
    ∃ front idle idle' last tail, (∀ piece ∈ idle, isIdle piece) ∧ (∀ piece ∈ idle', isIdle piece) ∧
      (∀ piece ∈ tail, isIdle piece) ∧ pieces parent.toList = front ++ idle ∧
      pieces path.toList = front ++ (idle' ++ last :: tail) := by
  have hstart : parent ≠ "" → Store.startOf path = Store.startOf parent := by
    intro hne
    obtain ⟨rest, hrest⟩ := (parent?_front h).1
    have hne' : parent.toList ≠ [] := fun hnil => hne (String.toList_eq_nil_iff.mp hnil)
    rw [Store.startOf, Store.startOf, isAbsolute, isAbsolute, ← hrest,
      List.head?_append_of_ne_nil _ hne']
  rcases parent?_cases h with ⟨rfl, first, idle, hne, hidle, hpieces⟩ |
    ⟨front, idle, last, idle', hfirst, hparent, hidle, hlast, hidle', hpieces⟩
  · refine ⟨?_, [], [[]], [], first, idle, by decide, by simp, hidle, rfl, hpieces⟩
    have habsolute : isAbsolute path = false := by
      rw [isAbsolute, beq_eq_false_iff_ne]
      intro hhead
      obtain ⟨rest, hrest⟩ := List.head?_eq_some_iff.mp hhead
      rw [hrest, pieces, if_pos rfl] at hpieces
      exact hne (List.cons.inj hpieces).1.symm
    rw [Store.startOf, habsolute]
    rfl
  · have hfront : ∀ piece ∈ front, '/' ∉ piece := by
      intro piece hpiece
      refine not_mem_of_mem_pieces (s := path.toList) ?_
      rw [hpieces]
      exact List.mem_append_left _ hpiece
    have hne : front ≠ [] := by
      obtain ⟨first, inner, rfl⟩ := hfirst
      exact List.cons_ne_nil _ _
    rcases hparent with ⟨rfl, rfl⟩ | ⟨hempty, rfl⟩
    · exact ⟨hstart (by decide), [[]], [[]], idle, last, idle', by decide, hidle, hidle', rfl, hpieces⟩
    · refine ⟨hstart ?_, front, [], idle, last, idle', by simp, hidle, hidle', ?_, hpieces⟩
      · intro hnil
        rw [String.ofList_eq_empty_iff] at hnil
        exact joined_ne_nil hne hempty hnil
      · rw [String.toList_ofList, pieces_joined hne hfront, List.append_nil]

/-- The path that a path lies in makes no step at all, or ends with one. -/
theorem parent?_ending {path parent : String} (h : parent? path = some parent) :
    (∀ piece ∈ pieces parent.toList, isIdle piece) ∨
      ∃ others last, isIdle last = false ∧ pieces parent.toList = others ++ [last] := by
  rcases parent?_cases h with ⟨rfl, _⟩ |
    ⟨front, idle, last, idle', ⟨first, inner, hfirst⟩, hparent, _, _, _, hpieces⟩
  · exact .inl (by decide)
  · have hslash : ∀ piece ∈ front, '/' ∉ piece := by
      intro piece hpiece
      refine not_mem_of_mem_pieces (s := path.toList) ?_
      rw [hpieces]
      exact List.mem_append_left _ hpiece
    rcases hparent with ⟨rfl, _⟩ | ⟨_, rfl⟩
    · exact .inl (by decide)
    · rw [String.toList_ofList, pieces_joined (hfirst ▸ List.cons_ne_nil _ _) hslash, hfirst]
      rcases List.eq_nil_or_concat' (dropIdleEnd inner) with hnil | ⟨init, last, hinit⟩
      · rw [hnil]
        cases hidle : isIdle first with
        | true => exact .inl (by simpa using hidle)
        | false => exact .inr ⟨[], first, hidle, rfl⟩
      · exact .inr ⟨first :: init, last, isIdle_of_dropIdleEnd hinit, by rw [hinit]; rfl⟩

/-- Where a path ends with two steps, the one that it lies in ends with the first of them. -/
theorem parent?_of_pieces {path : String} {front : List (List Char)} {step last : List Char}
    (hstep : isIdle step = false) (hlast : isIdle last = false)
    (hpieces : pieces path.toList = front ++ [step, last]) :
    parent? path = some (String.ofList (joined (front ++ [step]))) := by
  cases front with
  | nil =>
      cases step with
      | nil => cases hstep
      | cons c step => simp [parent?, trimmed, hpieces, dropIdleEnd, hlast]
  | cons first front =>
      have hrest : dropIdleEnd (front ++ [step, last]) = front ++ [step, last] := by
        simp [dropIdleEnd, hlast]
      have hinit : dropIdleEnd (front ++ [step, last]).dropLast = front ++ [step] := by
        rw [List.dropLast_append_of_ne_nil (List.cons_ne_nil _ _)]
        simp [dropIdleEnd, hstep]
      obtain ⟨x, xs, hx⟩ := List.exists_cons_of_ne_nil
        (List.append_ne_nil_of_right_ne_nil front (List.cons_ne_nil step [last]))
      obtain ⟨y, ys, hy⟩ := List.exists_cons_of_ne_nil
        (List.append_ne_nil_of_right_ne_nil front (List.cons_ne_nil step []))
      rw [List.cons_append] at hpieces
      rw [hx] at hrest hinit hpieces
      rw [hy] at hinit
      rw [List.cons_append, hy]
      cases first <;> simp only [parent?, trimmed, hpieces, hrest, hinit]

/-- A name in a folder that is a name itself lies in that folder. -/
theorem parent?_join_join (base : String) {part file : String} (hpart : IsName part)
    (hfile : IsName file) : parent? (join (join base part) file) = some (join base part) := by
  obtain ⟨front, _, hfolder, _, _⟩ := exists_pieces_join base hpart.slash
  obtain ⟨front', idle, hjoin, hsame, hidle⟩ := exists_pieces_join (join base part) hfile.slash
  have hnone : idle = [] := by
    rcases List.eq_nil_or_concat' idle with hnil | ⟨init, piece, rfl⟩
    · exact hnil
    · rw [hfolder, ← List.append_assoc] at hsame
      have hpiece := hidle piece (by simp)
      rw [← List.singleton_inj.mp (List.append_inj' hsame rfl).2, hpart.step] at hpiece
      cases hpiece
  rw [hnone, List.append_nil] at hsame
  rw [← hsame, hfolder, List.append_assoc] at hjoin
  rw [parent?_of_pieces hpart.step hfile.step hjoin, ← hfolder, joined_pieces,
    String.ofList_toList]

theorem lineageWithin_congr {fuel fuel' : Nat} {path : String} (h : path.length < fuel)
    (h' : path.length < fuel') : lineageWithin fuel path = lineageWithin fuel' path := by
  induction fuel generalizing fuel' path with
  | zero => exact absurd h (Nat.not_lt_zero _)
  | succ fuel ih =>
      cases fuel' with
      | zero => exact absurd h' (Nat.not_lt_zero _)
      | succ fuel' =>
          rw [lineageWithin, lineageWithin]
          cases hparent : parent? path with
          | none => rfl
          | some parent =>
              have hshorter := (parent?_front hparent).2
              have hrest : lineageWithin fuel parent = lineageWithin fuel' parent :=
                ih (by omega) (by omega)
              simp only [hrest]

theorem lineage_of_parent? {path parent : String} (h : parent? path = some parent) :
    lineage path = path :: lineage parent := by
  have hshorter := (parent?_front h).2
  rw [lineage, lineageWithin, h]
  simp only [lineage, lineageWithin_congr hshorter (Nat.lt_succ_self parent.length)]

theorem lineage_eq_nil_iff {path : String} : lineage path = [] ↔ parent? path = none := by
  rw [lineage, lineageWithin]
  cases parent? path <;> simp

/-! ### Paths that the system takes -/

/-- Why the system takes no such path, whatever there is. -/
def fault? (path : String) : Option FileError :=
  if '\x00' ∈ path.toList then some .nullInName
  else if path.utf8ByteSize > Store.pathLimit then some .nameTooLong
  else if path.isEmpty then some .missing
  else none

theorem fault?_of_front {path front : String} (hne : front ≠ "")
    (hfront : front.toList <+: path.toList) (h : fault? path = none) : fault? front = none := by
  obtain ⟨rest, hpath⟩ := hfront
  have htext : path = front ++ String.ofList rest := by
    rw [← String.toList_inj, String.toList_append, String.toList_ofList, hpath]
  unfold fault? at h ⊢
  split_ifs at h with hnull hlong hempty
  have hnull' : '\x00' ∉ front.toList := fun hmem => hnull (hpath ▸ List.mem_append_left _ hmem)
  have hlong' : ¬ front.utf8ByteSize > Store.pathLimit := by
    rw [htext, String.utf8ByteSize_append] at hlong
    omega
  rw [if_neg hnull', if_neg hlong', if_neg]
  simpa using hne

end Path

namespace Store

variable {s s' : Store} {l : Location} {path parent : String}

theorem locateAlong_eq (s : Store) (path : String) (pieces : List (List Char)) :
    s.locateAlong path pieces =
      match Path.fault? path with
      | some cause => .error cause
      | none => s.walk (startOf path) pieces := by
  unfold locateAlong Path.fault?
  split_ifs <;> rfl

theorem find?_of_walk_cons {here : Location} {piece : List Char} {rest : List (List Char)}
    (h : s.walk here (piece :: rest) = .ok l) : s.find? here = some .directory := by
  rw [walk] at h
  split at h
  · cases h
  · cases h
  · cases h
  · assumption

/-- A path leads to a directory, whether or not the system takes it. -/
def Leads (s : Store) (path : String) : Prop :=
  s.walk (startOf path) (Path.pieces path.toList) = .ok (Path.place path) ∧
    s.find? (Path.place path) = some .directory

theorem isDirectory_iff_leads : s.isDirectory path ↔ Path.fault? path = none ∧ s.Leads path := by
  rw [isDirectory_iff]
  constructor
  · rintro ⟨l, hl, hdir⟩
    obtain rfl := locate_eq_ok hl
    refine ⟨?_, walk_of_locateAlong hl, hdir⟩
    rw [locate, locateAlong_eq] at hl
    split at hl
    · cases hl
    · assumption
  · rintro ⟨hfault, hwalk, hdir⟩
    refine ⟨_, ?_, hdir⟩
    rw [locate, locateAlong_eq, hfault]
    exact hwalk

theorem Leads.mono (hdir : ∀ l, s.find? l = some .directory → s'.find? l = some .directory)
    (h : s.Leads path) : s'.Leads path :=
  ⟨walk_mono hdir h.1, hdir _ h.2⟩

/-- Whoever walks along a path passes the one that it lies in. -/
theorem leads_of_parent? (hparent : Path.parent? path = some parent)
    (hwalk : s.walk (startOf path) (Path.pieces path.toList) = .ok l) : s.Leads parent := by
  obtain ⟨hstart, front, idle, idle', last, tail, hidle, _, _, hfront, hpieces⟩ :=
    Path.parent?_pieces hparent
  rw [hpieces, walk_append, hstart] at hwalk
  cases hhere : s.walk (startOf parent) front with
  | error cause =>
      rw [hhere] at hwalk
      cases hwalk
  | ok here =>
      rw [hhere] at hwalk
      have hdir : s.find? here = some .directory := by
        obtain ⟨y, ys, hback⟩ :=
          List.exists_cons_of_ne_nil (List.append_ne_nil_of_right_ne_nil idle' (List.cons_ne_nil last tail))
        rw [hback] at hwalk
        exact find?_of_walk_cons hwalk
      have hwalk' : s.walk (startOf parent) (Path.pieces parent.toList) = .ok here := by
        rw [hfront, walk_append, hhere]
        exact walk_idle hdir hidle
      obtain rfl := walk_eq_ok hwalk'
      exact ⟨hwalk', hdir⟩

/-- For the path that a walkable path lies in, nothing has to be made. -/
theorem furnished_of_leads (hleads : s.Leads path)
    (hfault : path ≠ "" → Path.fault? path = none) : s.Furnished path := by
  unfold Furnished
  rw [Path.lineage_eq_nil_iff]
  by_cases hne : path = ""
  · exact .inl (hne ▸ rfl)
  · exact .inr (isDirectory_iff_leads.mpr ⟨hfault hne, hleads⟩)

theorem fault?_of_locate (h : s.locate path = .ok l) : Path.fault? path = none := by
  rw [locate, locateAlong_eq] at h
  split at h
  · cases h
  · assumption

theorem furnished_of_locate (hparent : Path.parent? path = some parent)
    (h : s.locate path = .ok l) : s.Furnished parent :=
  furnished_of_leads (leads_of_parent? hparent (walk_of_locateAlong h)) fun hne =>
    Path.fault?_of_front hne (Path.parent?_front hparent).1 (fault?_of_locate h)

end Store

end Storyboard
