import Mathlib
import Storyboard.Proofs.Disk.Tree

/-!
Walks by names. In a tree, a path that goes on from a directory by names alone leads to what stands at
its place; it fails to lead there where a name is too long or where something else than a directory
stands in the way.
-/

namespace Storyboard

namespace Store

variable {s s' t t' : Store} {l : Location} {path parent name : String}

/-- Why no step can be made from where no directory is. -/
def obstacle (s : Store) (l : Location) : FileError :=
  match s.find? l with
  | none => .missing
  | some _ => .notDirectory

theorem walk_cons_of_ne {here : Location} (hhere : s.find? here ≠ some .directory)
    (piece : List Char) (rest : List (List Char)) :
    s.walk here (piece :: rest) = .error (s.obstacle here) := by
  rw [walk, obstacle]
  split
  · next hnone => rw [hnone]
  · next hfile => rw [hfile]
  · next hdevice => rw [hdevice]
  · next hdir => exact absurd hdir hhere

theorem walk_ne_taken {here : Location} {pieces : List (List Char)} :
    s.walk here pieces ≠ .error .taken := by
  induction pieces generalizing here with
  | nil => rintro ⟨⟩
  | cons piece pieces ih =>
      rw [walk]
      split
      · rintro ⟨⟩
      · rintro ⟨⟩
      · rintro ⟨⟩
      · split
        · exact ih
        · split
          · exact ih
          · split
            · rintro ⟨⟩
            · exact ih

theorem walk_name {here : Location} (hname : Path.IsName name)
    (hhere : s.find? here = some .directory) :
    s.walk here [name.toList] =
      if name.utf8ByteSize > nameLimit then .error .nameTooLong else .ok (here.child name) := by
  simp only [walk, hhere, hname.step, if_neg hname.down, String.ofList_toList]
  rfl

/-- Whether a path leads to a directory can be told without the pieces that are no step. -/
theorem leads_iff {front idle : List (List Char)} (hpath : Path.pieces path.toList = front ++ idle)
    (hidle : ∀ piece ∈ idle, Path.isIdle piece) :
    s.Leads path ↔ s.walk (startOf path) front = .ok (Path.place path) ∧
      s.find? (Path.place path) = some .directory := by
  unfold Leads
  rw [hpath, walk_append]
  constructor
  · rintro ⟨hwalk, hdir⟩
    refine ⟨?_, hdir⟩
    cases hhere : s.walk (startOf path) front with
    | error cause =>
        rw [hhere] at hwalk
        cases hwalk
    | ok here =>
        rw [Path.place, hpath, Location.follow_append, Location.follow_of_idle hidle,
          walk_eq_ok hhere]
  · rintro ⟨hwalk, hdir⟩
    refine ⟨?_, hdir⟩
    rw [hwalk]
    exact walk_idle hdir hidle

/-- A name in a folder goes on from a path that leads wherever the folder leads. -/
theorem exists_below_join (base : String) (hname : Path.IsName name) :
    ∃ parent, Path.Below parent (Path.join base name) name ∧
      Path.place parent = Path.place base ∧ ∀ s : Store, s.Leads base → s.Leads parent := by
  obtain ⟨front, idle, hpieces, hbase, hidle⟩ := Path.exists_pieces_join base hname.slash
  obtain ⟨parent, hparent⟩ := Path.exists_parent? hname hpieces
  have hbelow := Path.below_of_parent? hparent hname hpieces
  obtain ⟨front', idle₁, idle₂, hidle₁, hidle₂, hparentPieces, hpath⟩ := hbelow.steps
  have hfront : front = front' ++ idle₂ := by
    rw [hpieces, ← List.append_assoc] at hpath
    exact (List.append_inj' hpath rfl).1
  have hstart : startOf parent = startOf base := by
    rw [← hbelow.start, Path.startOf_join base hname.slash]
  have hbase' : Path.pieces base.toList = front' ++ (idle₂ ++ idle) := by
    rw [hbase, hfront, List.append_assoc]
  have hidle' : ∀ piece ∈ idle₂ ++ idle, Path.isIdle piece := by
    intro piece hpiece
    exact (List.mem_append.mp hpiece).elim (hidle₂ piece) (hidle piece)
  have hplace : Path.place parent = Path.place base := by
    rw [Path.place, Path.place, hparentPieces, hbase', hstart, Location.follow_append,
      Location.follow_append, Location.follow_of_idle hidle₁, Location.follow_of_idle hidle']
  refine ⟨parent, hbelow, hplace, fun s hleads => ?_⟩
  rw [leads_iff hbase' hidle', ← hplace, ← hstart] at hleads
  exact (leads_iff hparentPieces hidle₁).mpr hleads

end Store

namespace Path.Below

variable {s : Store} {path parent name : String} (h : Path.Below parent path name)

include h

/-- Whoever walks along a path comes to the one that it lies in and makes one step more. -/
theorem walk_eq : s.walk (Store.startOf path) (pieces path.toList) =
    (s.walk (Store.startOf parent) (pieces parent.toList)).bind (s.walk · [name.toList]) := by
  obtain ⟨front, idle, idle', hidle, hidle', hfront, hpath⟩ := h.steps
  rw [hpath, hfront, h.start, Store.walk_append, Store.walk_append]
  cases s.walk (Store.startOf parent) front with
  | error cause => rfl
  | ok here =>
      change s.walk here (idle' ++ [name.toList]) = (s.walk here idle).bind _
      by_cases hhere : s.find? here = some .directory
      · rw [Store.walk_append, Store.walk_idle hhere hidle, Store.walk_idle hhere hidle']
      · obtain ⟨piece, rest, hrest⟩ := List.exists_cons_of_ne_nil
          (List.append_ne_nil_of_right_ne_nil idle' (List.cons_ne_nil name.toList []))
        rw [hrest, Store.walk_cons_of_ne hhere]
        cases idle with
        | nil => exact (Store.walk_cons_of_ne hhere _ _).symm
        | cons piece idle => rw [Store.walk_cons_of_ne hhere]; rfl

theorem walk_of_leads (hleads : s.Leads parent) :
    s.walk (Store.startOf path) (pieces path.toList) =
      if name.utf8ByteSize > Store.nameLimit then .error .nameTooLong else .ok (place path) := by
  rw [h.walk_eq, hleads.1, h.place_eq]
  exact Store.walk_name h.isName hleads.2

/-- A path below a directory is located by the path alone. -/
theorem locate_of_leads (hleads : s.Leads parent) : s.locate path =
    match fault? path with
    | some cause => .error cause
    | none =>
      if name.utf8ByteSize > Store.nameLimit then .error .nameTooLong else .ok (place path) := by
  rw [Store.locate, Store.locateAlong_eq]
  cases fault? path with
  | none => exact h.walk_of_leads hleads
  | some cause => rfl

theorem locateNew_of_leads (hleads : s.Leads parent) : s.locateNew path =
    match fault? path with
    | some cause => .error cause
    | none =>
      if name.utf8ByteSize > Store.nameLimit then .error .nameTooLong else .ok (place path) := by
  rw [← h.locate_of_leads hleads, Store.locateNew, h.dropSlashes_eq, h.endsWithSlash_eq]
  change (s.locate path).bind (fun l => .ok l) = _
  cases s.locate path <;> rfl

end Path.Below

/-- All names are ones that the system takes. -/
def Location.Short (l : Location) : Prop :=
  ∀ name ∈ l, name.utf8ByteSize ≤ Store.nameLimit

theorem Location.short_concat {l : Location} {name : String} :
    (l ++ [name]).Short ↔ l.Short ∧ name.utf8ByteSize ≤ Store.nameLimit := by
  simp [Short, or_imp, forall_and]

theorem Location.Short.child {l : Location} {name : String} (hl : l.Short)
    (hname : name.utf8ByteSize ≤ Store.nameLimit) : (l.child name).Short := by
  have hnext : (l ++ [name]).Short := short_concat.mpr ⟨hl, hname⟩
  rw [Location.child]
  cases hlink : links.lookup (l ++ [name]) with
  | none => exact hnext
  | some target =>
      have htargets : ∀ link ∈ links, ∀ name ∈ link.2, name.utf8ByteSize ≤ Store.nameLimit := by
        decide
      obtain ⟨front, back, hlinks, -⟩ := List.lookup_eq_some_iff.mp hlink
      exact htargets (l ++ [name], target) (by rw [hlinks]; simp)

theorem Location.Short.up {l : Location} (hl : l.Short) : l.up.Short := by
  unfold Location.up
  split
  · exact hl
  · split
    · exact short_concat.mpr ⟨hl, by decide⟩
    · exact fun name hname => hl name (List.dropLast_subset l hname)

/-- A path goes on by names from one of some others. -/
inductive Path.Descends (B : String → Prop) : String → Prop
  | here {path : String} : B path → Descends B path
  | step {path parent name : String} : Below parent path name →
      place path = place parent ++ [name] → Descends B parent → Descends B path

namespace Store

variable {s s' : Store} {B : String → Prop} {l : Location} {path parent name : String}

theorem short_of_walk {here : Location} {pieces : List (List Char)} (hhere : here.Short)
    (h : s.walk here pieces = .ok l) : l.Short := by
  induction pieces generalizing here with
  | nil =>
      cases h
      exact hhere
  | cons piece pieces ih =>
      rw [walk] at h
      split at h
      · cases h
      · cases h
      · cases h
      · split at h
        · exact ih hhere h
        · split at h
          · exact ih hhere.up h
          · split at h
            · cases h
            · next hshort => exact ih (hhere.child (not_lt.mp hshort)) h

theorem Leads.short (h : s.Leads path) : (Path.place path).Short := by
  refine short_of_walk ?_ h.1
  rw [startOf]
  split
  · intro name hname
    rw [List.mem_singleton.mp hname]
    decide
  · exact List.forall_mem_nil _

/-- In a tree, what stands at the place of a path is found, unless a name on the way is too long. -/
theorem Housed.walk_eq (hs : s.Housed) (hB : ∀ q, B q → s.Leads q) (hpath : Path.Descends B path)
    (hsome : (s.find? (Path.place path)).isSome) :
    ((Path.place path).Short →
      s.walk (startOf path) (Path.pieces path.toList) = .ok (Path.place path)) ∧
    (¬ (Path.place path).Short →
      s.walk (startOf path) (Path.pieces path.toList) = .error .nameTooLong) := by
  induction hpath with
  | here hbase =>
      have hleads := hB _ hbase
      exact ⟨fun _ => hleads.1, fun hlong => absurd hleads.short hlong⟩
  | @step path parent name hbelow hplace hparent ih =>
      rw [hplace] at hsome ⊢
      have hdir := hs _ _ hsome
      obtain ⟨hshort, hlong⟩ := ih (by rw [hdir]; rfl)
      rw [Location.short_concat]
      constructor
      · rintro ⟨hl, hname⟩
        rw [hbelow.walk_of_leads ⟨hshort hl, hdir⟩, if_neg (not_lt.mpr hname), hplace]
      · intro hfail
        by_cases hl : (Path.place parent).Short
        · rw [hbelow.walk_of_leads ⟨hshort hl, hdir⟩, if_pos]
          exact not_le.mp fun hname => hfail ⟨hl, hname⟩
        · rw [hbelow.walk_eq, hlong hl]
          rfl

/-- A path that makes no step leads where it starts. -/
theorem leads_of_idle (h : ∀ piece ∈ Path.pieces path.toList, Path.isIdle piece) :
    s.Leads path := by
  have hstart : s.find? (startOf path) = some .directory := by
    rw [startOf]
    split <;> rfl
  have hplace : Path.place path = startOf path := Location.follow_of_idle h
  exact ⟨hplace ▸ walk_idle hstart h, hplace ▸ hstart⟩

/-- Where a link stands, there is a directory, and so is where the link leads. -/
theorem find?_of_link {here : Location} (h : here.child name ≠ here ++ [name]) :
    (here ++ [name]).Short ∧ s.find? here = some .directory ∧
      s.find? (here.child name) = some .directory := by
  obtain ⟨link, hlink, hkey⟩ : ∃ link ∈ Location.links, link.1 = here ++ [name] := by
    by_contra hnone
    push Not at hnone
    exact h (Location.child_of_no_link hnone)
  have hall : ∀ link ∈ Location.links, (∀ name ∈ link.1, name.utf8ByteSize ≤ nameLimit) ∧
      Location.fixed? link.1.dropLast = some .directory ∧
      (Location.child link.1.dropLast (link.1.getLast?.getD "")).fixed? = some .directory := by
    decide
  obtain ⟨hshort, hhere, htarget⟩ := hall link hlink
  rw [hkey] at hshort
  rw [hkey, List.dropLast_concat] at hhere htarget
  rw [List.getLast?_concat, Option.getD_some] at htarget
  exact ⟨hshort, by rw [find?, hhere], by rw [find?, htarget]⟩

/-- In a tree, a path without steps up goes on by names from where it leads. -/
theorem Housed.descends (hs : s.Housed) {others : List (List Char)} (hname : Path.IsName name)
    (hpieces : Path.pieces path.toList = others ++ [name.toList])
    (hup : ['.', '.'] ∉ Path.pieces path.toList) : Path.Descends s.Leads path := by
  obtain ⟨n, hn⟩ : ∃ n, n = path.length := ⟨_, rfl⟩
  induction n using Nat.strong_induction_on generalizing path name others with
  | _ n ih =>
      obtain ⟨parent, hparent⟩ := Path.exists_parent? hname hpieces
      have hbelow := Path.below_of_parent? hparent hname hpieces
      have hdescends : Path.Descends s.Leads parent := by
        rcases Path.parent?_ending hparent with hidle | ⟨init, last, hlast, hinit⟩
        · exact .here (leads_of_idle hidle)
        · obtain ⟨front, idle, idle', hidle, _, hfront, hpath⟩ := hbelow.steps
          have hslash : '/' ∉ last :=
            Path.not_mem_of_mem_pieces (s := parent.toList) (by rw [hinit]; simp)
          have hparentUp : ['.', '.'] ∉ Path.pieces parent.toList := by
            rw [hfront]
            intro hmem
            rcases List.mem_append.mp hmem with hmem | hmem
            · exact hup (hpath ▸ List.mem_append_left _ hmem)
            · exact absurd (hidle _ hmem) (by decide)
          have hdown : last ≠ ['.', '.'] := by
            rintro rfl
            exact hparentUp (by rw [hinit]; simp)
          have hlastName : Path.IsName (String.ofList last) := by
            constructor <;> rw [String.toList_ofList] <;> assumption
          refine ih parent.length ?_ hlastName (by rw [String.toList_ofList]; exact hinit)
            hparentUp rfl
          exact hn ▸ (Path.parent?_front hparent).2
      by_cases hplain : Path.place path = Path.place parent ++ [name]
      · exact .step hbelow hplain hdescends
      · rw [hbelow.place_eq] at hplain
        obtain ⟨hshort, hdir, htarget⟩ := find?_of_link (s := s) hplain
        obtain ⟨hfront, hlast⟩ := Location.short_concat.mp hshort
        have hwalk := (hs.walk_eq (fun _ => id) hdescends (by rw [hdir]; rfl)).1 hfront
        refine .here ⟨?_, hbelow.place_eq ▸ htarget⟩
        rw [hbelow.walk_of_leads ⟨hwalk, hdir⟩, if_neg (not_lt.mpr hlast)]

/-- Below a folder, one goes on by names from directories that are there. -/
def Reaches (s : Store) (folder : String) : Prop :=
  ∀ ⦃part parent : String⦄, Path.Below parent (Path.join folder part) part →
    Path.Descends s.Leads parent

theorem Leads.reaches (h : s.Leads path) : s.Reaches path := by
  intro part parent hbelow
  obtain ⟨parent', hbelow', _, hleads⟩ := exists_below_join path hbelow.isName
  obtain rfl := Option.some.inj (hbelow.parent_eq.symm.trans hbelow'.parent_eq)
  exact .here (hleads s h)

theorem Housed.reaches (hs : s.Housed) (hup : ['.', '.'] ∉ Path.pieces path.toList) :
    s.Reaches path := by
  intro part parent hbelow
  obtain ⟨front, idle, hpieces, hfolder, _⟩ := Path.exists_pieces_join path hbelow.isName.slash
  have hdescends : Path.Descends s.Leads (Path.join path part) := by
    refine hs.descends hbelow.isName hpieces ?_
    rw [hpieces, List.mem_append, List.mem_singleton]
    rintro (hmem | hmem)
    · exact hup (hfolder ▸ List.mem_append_left _ hmem)
    · exact hbelow.isName.down hmem.symm
  cases hdescends with
  | here hleads => exact .here (leads_of_parent? hbelow.parent_eq hleads.1)
  | step hbelow' _ hparent =>
      obtain rfl := Option.some.inj (hbelow.parent_eq.symm.trans hbelow'.parent_eq)
      exact hparent

theorem Reaches.exists_below (h : s.Reaches path) (hname : Path.IsName name)
    (hplace : Path.place (Path.join path name) = Path.place path ++ [name]) :
    ∃ parent, Path.Below parent (Path.join path name) name ∧
      Path.place (Path.join path name) = Path.place parent ++ [name] ∧
      Path.Descends s.Leads parent := by
  obtain ⟨parent, hbelow, hsame, _⟩ := exists_below_join path hname
  exact ⟨parent, hbelow, hplace.trans (by rw [hsame]), h hbelow⟩

theorem Reaches.descends (h : s.Reaches path) (hname : Path.IsName name)
    (hplace : Path.place (Path.join path name) = Path.place path ++ [name]) :
    Path.Descends s.Leads (Path.join path name) := by
  obtain ⟨parent, hbelow, hplain, hparent⟩ := h.exists_below hname hplace
  exact .step hbelow hplain hparent

end Store

end Storyboard
