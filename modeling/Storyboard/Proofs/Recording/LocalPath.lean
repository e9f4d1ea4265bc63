import Mathlib
import Storyboard.Recording.Folder
import Storyboard.Proofs.Disk.Folder

/-!
Local paths stay below the root. What is accepted is a list of names, each of which is one step
down, so that a recording is read where its root leads on by exactly these names; what is refused
can be told from the source alone.
-/

namespace Storyboard

theorem Text.contains_iff_infix {part s : List Char} : contains part s = true ↔ part <:+: s := by
  induction s with
  | nil => simp [contains]
  | cons c s ih =>
      rw [contains, Bool.or_eq_true, List.isPrefixOf_iff_prefix, ih, List.infix_cons_iff]

namespace Path

theorem pieces_eq_splitOn (s : List Char) : pieces s = s.splitOn '/' := by
  induction s with
  | nil => rfl
  | cons c s ih =>
      rw [pieces, List.splitOn_cons_eq_if_modifyHead, ← ih]
      by_cases hc : c = '/'
      · simp [hc]
      · obtain ⟨piece, others, hpieces⟩ := List.exists_cons_of_ne_nil (pieces_ne_nil s)
        simp [hc, hpieces]

/-! ### Relative parts -/

variable {part : String}

theorem exists_join_of_relative (base : String) (hpart : isAbsolute part = false) :
    ∃ between, join base part = base ++ between ++ part ∧
      (between = "" ∧ (base = "" ∨ endsWithSlash base) ∨ between = "/") := by
  by_cases hbase : base = ""
  · subst hbase
    exact ⟨"", by simp [join_empty], .inl ⟨rfl, .inl rfl⟩⟩
  have hnonempty : base.isEmpty = false := String.isEmpty_eq_false_iff.mpr hbase
  rw [join, hpart, hnonempty, if_neg (by decide)]
  split
  · next hend => exact ⟨"", by rw [String.append_empty], .inl ⟨rfl, .inr hend⟩⟩
  · exact ⟨"/", rfl, .inr rfl⟩

/-- The pieces of a relative part take the place of the empty one behind a last slash. -/
theorem exists_pieces_join_of_relative (base : String) (hpart : isAbsolute part = false) :
    ∃ front idle, pieces base.toList = front ++ idle ∧ (∀ piece ∈ idle, isIdle piece) ∧
      pieces (join base part).toList = front ++ pieces part.toList := by
  obtain ⟨between, hjoin, ⟨rfl, rfl | hend⟩ | rfl⟩ := exists_join_of_relative base hpart
  · exact ⟨[], [[]], rfl, by decide, by rw [join_empty, List.nil_append]⟩
  · rw [endsWithSlash, beq_iff_eq] at hend
    obtain ⟨front, hfront⟩ := List.getLast?_eq_some_iff.mp hend
    refine ⟨pieces front, [[]], ?_, by decide, ?_⟩
    · rw [hfront, pieces_append_slash]
      rfl
    · rw [hjoin, String.append_empty, String.toList_append, hfront, List.append_assoc,
        List.singleton_append, pieces_append_slash]
  · have htext : (base ++ "/" ++ part).toList = base.toList ++ '/' :: part.toList := by simp
    exact ⟨pieces base.toList, [], by rw [List.append_nil], by simp,
      by rw [hjoin, htext, pieces_append_slash]⟩

theorem startOf_join_of_relative (base : String) (hpart : isAbsolute part = false) :
    Store.startOf (join base part) = Store.startOf base := by
  by_cases hbase : base = ""
  · subst hbase
    rw [join_empty, Store.startOf, hpart]
    rfl
  obtain ⟨between, hjoin, -⟩ := exists_join_of_relative base hpart
  have hne : base.toList ≠ [] := fun h => hbase (String.toList_eq_nil_iff.mp h)
  rw [Store.startOf, Store.startOf, isAbsolute, isAbsolute, hjoin, String.append_assoc,
    String.toList_append, List.head?_append_of_ne_nil _ hne]

end Path

/-- Names lead down, one after the other. -/
theorem Location.follow_names (here : Location) {names : List String}
    (h : ∀ name ∈ names, Path.IsName name) :
    here.follow (names.map String.toList) = names.foldl Location.child here := by
  induction names generalizing here with
  | nil => rfl
  | cons name names ih =>
      obtain ⟨hname, hnames⟩ := List.forall_mem_cons.mp h
      rw [List.map_cons, ← List.singleton_append, Location.follow_append,
        Location.follow_name hname.step hname.down, String.ofList_toList, ih _ hnames,
        List.foldl_cons]

/-- Where no link lies below, names lead straight down. -/
theorem Location.foldl_child {here : Location} (names : List String)
    (h : ∀ link ∈ links, ¬ here <+: link.1) : names.foldl Location.child here = here ++ names := by
  induction names generalizing here with
  | nil => exact (List.append_nil here).symm
  | cons name names ih =>
      have hnext : ∀ link ∈ links, ¬ here ++ [name] <+: link.1 :=
        fun link hlink hbelow => h link hlink ((List.prefix_append _ _).trans hbelow)
      have hchild : here.child name = here ++ [name] :=
        child_of_no_link fun link hlink heq => hnext link hlink (heq ▸ List.prefix_rfl)
      rw [List.foldl_cons, hchild, ih hnext, List.append_assoc, List.singleton_append]

namespace LocalPath

/-- A name on a local path. -/
structure IsSegment (name : String) : Prop where
  nonempty : name ≠ ""
  here : name ≠ "."
  up : name ≠ ".."
  slash : '/' ∉ name.toList
  backslash : '\\' ∉ name.toList

/-- Whether a text, between whose names there are slashes only, is no local path. -/
def IsRefused (s : List Char) : Prop :=
  s = [] ∨ ['/', '/'] <+: s ∨ [':', '/', '/'] <:+: s ∨ ['.', '.'] ∈ s.splitOn '/' ∨
    ∀ piece ∈ s.splitOn '/', piece = [] ∨ piece = ['.']

/-- The names on a text that are steps. -/
def steps (s : List Char) : List (List Char) :=
  (s.splitOn '/').filter fun piece => piece ≠ [] ∧ piece ≠ ['.']

variable {s : List Char} {source path : String} {names : List String}

theorem IsSegment.isName {name : String} (h : IsSegment name) : Path.IsName name := by
  have hproper : ∀ text : String, name ≠ text → name.toList ≠ text.toList :=
    fun text hne heq => hne (String.toList_inj.mp heq)
  refine ⟨h.slash, ?_, hproper ".." h.up⟩
  have hnil := hproper "" h.nonempty
  have hhere := hproper "." h.here
  simpa [Path.isIdle] using And.intro hnil hhere

theorem filter_pieces (s : List Char) :
    (Path.pieces s).filter (fun piece => !Path.isIdle piece) = steps s := by
  rw [Path.pieces_eq_splitOn, steps]
  refine List.filter_congr fun piece _ => ?_
  rw [Bool.eq_iff_iff]
  simp [Path.isIdle]

theorem up_mem_steps_iff : ['.', '.'] ∈ steps s ↔ ['.', '.'] ∈ s.splitOn '/' := by
  simp [steps]

theorem steps_eq_nil_iff : steps s = [] ↔ ∀ piece ∈ s.splitOn '/', piece = [] ∨ piece = ['.'] := by
  rw [steps, List.filter_eq_nil_iff]
  refine forall₂_congr fun piece _ => ?_
  rw [decide_eq_true_eq, not_and_or, not_not, not_not]

theorem isRemote_iff : isRemote s = true ↔ ['/', '/'] <+: s ∨ [':', '/', '/'] <:+: s := by
  rw [isRemote, Bool.or_eq_true, List.isPrefixOf_iff_prefix, Text.contains_iff_infix]

/-- A source is refused, or gives the steps that are left of it. -/
theorem segments_cases (source : String) :
    (IsRefused (slashed source.toList) ∧ ∃ e, segments source = .error e) ∨
      ¬ IsRefused (slashed source.toList) ∧
        segments source = .ok ((steps (slashed source.toList)).map String.ofList) := by
  unfold segments IsRefused
  dsimp only
  generalize slashed source.toList = s
  rw [filter_pieces, ← up_mem_steps_iff, ← steps_eq_nil_iff]
  by_cases hempty : s = []
  · exact .inl ⟨.inl hempty, _, by rw [hempty]; rfl⟩
  rw [if_neg (by simpa using hempty)]
  by_cases hremote : isRemote s = true
  · rw [if_pos hremote]
    rw [isRemote_iff] at hremote
    exact .inl ⟨.inr (hremote.imp_right .inl), _, rfl⟩
  rw [if_neg hremote]
  by_cases hup : ['.', '.'] ∈ steps s
  · rw [if_pos hup]
    exact .inl ⟨.inr (.inr (.inr (.inl hup))), _, rfl⟩
  rw [if_neg hup]
  by_cases hnone : steps s = []
  · rw [if_pos (List.isEmpty_iff.mpr hnone)]
    exact .inl ⟨.inr (.inr (.inr (.inr hnone))), _, rfl⟩
  · rw [if_neg (by simpa using hnone)]
    rw [isRemote_iff] at hremote
    refine .inr ⟨?_, rfl⟩
    rintro (h | h | h | h | h)
    exacts [hempty h, hremote (.inl h), hremote (.inr h), hup h, hnone h]

theorem backslash_not_mem_slashed (s : List Char) : '\\' ∉ slashed s := by
  rw [slashed, List.mem_map]
  rintro ⟨c, -, hc⟩
  split at hc
  · cases hc
  · next hne => exact hne hc

/-- What stands between slashes stands in the text. -/
theorem infix_of_mem_splitOn {piece : List Char} (h : piece ∈ s.splitOn '/') : piece <:+: s := by
  have hinside : ∀ {pieces : List (List Char)}, piece ∈ pieces →
      piece <:+: ['/'].intercalate pieces := by
    intro pieces hmem
    induction pieces with
    | nil => cases hmem
    | cons first others ih =>
        cases others with
        | nil =>
            obtain rfl := List.mem_singleton.mp hmem
            rw [List.intercalate_singleton]
        | cons second others =>
            rw [List.intercalate_cons_cons]
            rcases List.mem_cons.mp hmem with rfl | hmem
            · exact ((List.prefix_append piece ['/']).trans (List.prefix_append _ _)).isInfix
            · exact (ih hmem).trans (List.suffix_append _ _).isInfix
  have hs := hinside h
  rwa [List.intercalate_splitOn] at hs

theorem isSegment_of_mem_steps {piece : List Char} (hback : '\\' ∉ s)
    (hup : ['.', '.'] ∉ s.splitOn '/') (h : piece ∈ steps s) : IsSegment (String.ofList piece) := by
  rw [steps, List.mem_filter, decide_eq_true_eq] at h
  obtain ⟨hmem, hnil, hhere⟩ := h
  have hproper : ∀ text : String, piece ≠ text.toList → String.ofList piece ≠ text := by
    rintro text hne rfl
    exact hne String.toList_ofList.symm
  refine ⟨hproper "" hnil, hproper "." hhere, hproper ".." ?_, ?_, ?_⟩
  · rintro rfl
    exact hup hmem
  · rw [String.toList_ofList]
    exact Path.not_mem_of_mem_pieces (Path.pieces_eq_splitOn s ▸ hmem)
  · rw [String.toList_ofList]
    exact fun hc => hback ((infix_of_mem_splitOn hmem).subset hc)

/-- What is accepted, as a list of names. -/
theorem normalize_eq_ok (h : normalize source = .ok path) : ∃ names : List String,
    names ≠ [] ∧ (∀ name ∈ names, IsSegment name) ∧
      names.map String.toList = steps (slashed source.toList) ∧ path = "/".intercalate names := by
  rw [normalize] at h
  rcases segments_cases source with ⟨-, e, hrefused⟩ | ⟨haccepted, hsegments⟩
  · rw [hrefused] at h
    cases h
  rw [hsegments] at h
  cases h
  simp only [IsRefused, not_or] at haccepted
  obtain ⟨-, -, -, hup, hsome⟩ := haccepted
  refine ⟨_, ?_, ?_, ?_, rfl⟩
  · rw [ne_eq, List.map_eq_nil_iff, steps_eq_nil_iff]
    exact hsome
  · intro name hname
    obtain ⟨piece, hpiece, rfl⟩ := List.mem_map.mp hname
    exact isSegment_of_mem_steps (backslash_not_mem_slashed _) hup hpiece
  · rw [List.map_map]
    exact List.map_id'' (fun _ => String.toList_ofList) _

theorem splitOn_join (hne : names ≠ []) (h : ∀ name ∈ names, IsSegment name) :
    ("/".intercalate names).toList.splitOn '/' = names.map String.toList := by
  rw [String.toList_intercalate]
  refine List.splitOn_intercalate '/' ?_ (by simpa using hne)
  intro piece hpiece
  obtain ⟨name, hname, rfl⟩ := List.mem_map.mp hpiece
  exact (h name hname).slash

/-! ### Below the root -/

/-- A path goes on from a root by some names, each one step down. -/
structure LeadsOn (root opened : String) (names : List String) : Prop where
  /-- Beside the empty piece behind a last slash, the root keeps its pieces. -/
  pieces : ∃ front idle, Path.pieces root.toList = front ++ idle ∧
    (∀ piece ∈ idle, Path.isIdle piece) ∧
    Path.pieces opened.toList = front ++ names.map String.toList
  place : Path.place opened = names.foldl Location.child (Path.place root)
  /-- The machine has two links; where they are not below the root, nothing leads out of it. -/
  below : (∀ link ∈ Location.links, ¬ Path.place root <+: link.1) →
    Path.place opened = Path.place root ++ names

theorem leadsOn_join (root : String) (hne : names ≠ []) (h : ∀ name ∈ names, IsSegment name)
    (hrelative : Path.isAbsolute ("/".intercalate names) = false) :
    LeadsOn root (Path.join root ("/".intercalate names)) names := by
  have hpieces : Path.pieces ("/".intercalate names).toList = names.map String.toList := by
    rw [Path.pieces_eq_splitOn, splitOn_join hne h]
  obtain ⟨front, idle, hroot, hidle, hjoin⟩ := Path.exists_pieces_join_of_relative root hrelative
  rw [hpieces] at hjoin
  have hplace : Path.place (Path.join root ("/".intercalate names)) =
      names.foldl Location.child (Path.place root) := by
    rw [Path.place, Path.place, Path.startOf_join_of_relative root hrelative, hjoin, hroot,
      Location.follow_append, Location.follow_append, Location.follow_of_idle hidle,
      Location.follow_names _ fun name hname => (h name hname).isName]
  exact ⟨⟨front, idle, hroot, hidle, hjoin⟩, hplace,
    fun hlinks => hplace.trans (Location.foldl_child names hlinks)⟩

/-- Names with slashes between them neither begin nor end with a slash. -/
theorem ends_join (hne : names ≠ []) (h : ∀ name ∈ names, IsSegment name) :
    ("/".intercalate names).toList.head? ≠ some '/' ∧
      ("/".intercalate names).toList.getLast? ≠ some '/' := by
  have hsplit := splitOn_join hne h
  have hempty : [] ∉ names.map String.toList := by
    intro hmem
    obtain ⟨name, hname, hnil⟩ := List.mem_map.mp hmem
    exact (h name hname).nonempty (String.toList_eq_nil_iff.mp hnil)
  rw [← hsplit, ← Path.pieces_eq_splitOn] at hempty
  constructor
  · intro hhead
    obtain ⟨rest, hrest⟩ := List.head?_eq_some_iff.mp hhead
    rw [hrest] at hempty
    exact hempty (by simp [Path.pieces])
  · intro hlast
    obtain ⟨front, hfront⟩ := List.getLast?_eq_some_iff.mp hlast
    rw [hfront, Path.pieces_append_slash] at hempty
    exact hempty (List.mem_append_right _ List.mem_cons_self)

/-- A source is refused exactly if nothing is left of it between its blanks, if it names another
host, if it has a step up, or if it has no name. Of any other one the steps are left, each a name,
with slashes between them, and a recording is sought where the root leads on by these names. -/
theorem normalize_stays (source : String) :
    ((∃ e, normalize source = .error e) ↔ IsRefused (slashed source.toList)) ∧
    ∀ path, normalize source = .ok path → ∃ names : List String,
      names ≠ [] ∧ (∀ name ∈ names, IsSegment name) ∧
      names.map String.toList = steps (slashed source.toList) ∧
      path.toList.splitOn '/' = names.map String.toList ∧
      path.toList.head? ≠ some '/' ∧ path.toList.getLast? ≠ some '/' ∧
      ∀ root, LeadsOn root (Path.join root path) names ∧
        ∀ reads, Recording.probe reads root source =
          match reads (Path.join root path) with
          | .ok text => .ok (Recording.length text.toList)
          | .error cause => .error (.unreadRecording (Path.join root path) cause) := by
  constructor
  · rw [normalize]
    rcases segments_cases source with ⟨hrefused, e, he⟩ | ⟨haccepted, hsegments⟩
    · rw [he]
      exact ⟨fun _ => hrefused, fun _ => ⟨e, rfl⟩⟩
    · rw [hsegments]
      refine ⟨?_, fun hrefused => absurd hrefused haccepted⟩
      rintro ⟨e, he⟩
      cases he
  · intro path hpath
    obtain ⟨names, hne, hnames, hsteps, rfl⟩ := normalize_eq_ok hpath
    obtain ⟨hhead, hlast⟩ := ends_join hne hnames
    have hrelative : Path.isAbsolute ("/".intercalate names) = false := by
      rw [Path.isAbsolute, beq_eq_false_iff_ne]
      exact hhead
    refine ⟨names, hne, hnames, hsteps, splitOn_join hne hnames, hhead, hlast, fun root => ?_⟩
    refine ⟨leadsOn_join root hne hnames hrelative, fun reads => ?_⟩
    rw [Recording.probe, hpath]
    rfl

/-- A path with both kinds of separators, and the location to which it leads below a root. -/
theorem normalize_stays_mixed :
    normalize " \\casts\\./a.cast " = .ok "casts/a.cast" ∧ ∃ names : List String,
      names.map String.toList = ["casts".toList, "a.cast".toList] ∧
      (∀ name ∈ names, IsSegment name) ∧
      Path.place (Path.join "p/" "casts/a.cast") = ["p"] ++ names := by
  have hnormal : normalize " \\casts\\./a.cast " = .ok "casts/a.cast" := by decide +kernel
  obtain ⟨names, -, hnames, hsteps, -, -, -, hroot⟩ := (normalize_stays _).2 _ hnormal
  refine ⟨hnormal, names, hsteps.trans (by decide +kernel), hnames, ?_⟩
  exact (hroot "p/").1.below (by decide)

end LocalPath

end Storyboard
