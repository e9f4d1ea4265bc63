import Mathlib
import Storyboard.Proofs.Disk.Walk

/-!
The making of folders. A folder on a path that goes on by names alone is made by making the one that
it lies in and then the folder itself; so what is made depends on what stands at the places on the
way.
-/

namespace Storyboard

namespace Store

variable {s s' : Store} {B : String → Prop} {l : Location} {path parent name : String}

theorem makeEach_singleton (s : Store) (path : String) :
    s.makeEach [path] =
      match s.makeDirectory path with
      | .ok s' => (.ok (), s')
      | .error cause =>
        if cause = .taken && s.isDirectory path then (.ok (), s) else (.error cause, s) :=
  rfl

theorem makeEach_append (s : Store) (paths more : List String) :
    s.makeEach (paths ++ more) =
      match s.makeEach paths with
      | (.ok (), s') => s'.makeEach more
      | failed => failed := by
  induction paths generalizing s with
  | nil => rfl
  | cons path paths ih =>
      rw [List.cons_append, makeEach, makeEach]
      cases s.makeDirectory path with
      | ok s' => exact ih s'
      | error cause =>
          dsimp only
          split
          · exact ih s
          · rfl

theorem makeAmong_append (s : Store) (inner more outer : List String) :
    s.makeAmong (inner ++ more) outer =
      match s.makeAmong inner outer with
      | (.ok (), s') => s'.makeEach more
      | failed => failed := by
  induction outer generalizing inner with
  | nil => exact makeEach_append s inner more
  | cons path outer ih =>
      rw [makeAmong, makeAmong]
      split
      · exact makeEach_append _ inner more
      · exact ih (path :: inner)
      · split
        · exact makeEach_append s inner more
        · rfl

theorem makeDirectories_of_missing (hparent : Path.parent? path = some parent)
    (hmissing : s.makeDirectory path = .error .missing) :
    s.makeDirectories path =
      match s.makeDirectories parent with
      | (.ok (), s') => s'.makeEach [path]
      | failed => failed := by
  rw [makeDirectories, Path.lineage_of_parent? hparent, makeAmong, hmissing]
  exact makeAmong_append s [] [path] _

theorem makeDirectories_of_ne (hparent : Path.parent? path = some parent)
    (hne : s.makeDirectory path ≠ .error .missing) : s.makeDirectories path = s.makeEach [path] := by
  rw [makeDirectories, Path.lineage_of_parent? hparent, makeAmong, makeEach_singleton]
  split
  · next hmade =>
      rw [hmade]
      rfl
  · next hmissing => exact absurd hmissing hne
  · next cause _ hcause =>
      rw [hcause]
      rfl

theorem makeDirectory_of_below (h : Path.Below parent path name)
    (hfault : Path.fault? path = none) :
    s.makeDirectory path = (s.walk (startOf path) (Path.pieces path.toList)).bind fun l =>
      if (s.find? l).isSome then .error .taken
      else if l.isLocked then .error l.makingError
      else .ok (s.put l .directory) := by
  have hstep : (Path.pieces path.toList).getLast?.any
      (fun piece => !(Path.isIdle piece || decide (piece = ['.', '.']))) = true := by
    obtain ⟨front, _, idle', _, _, _, hpath⟩ := h.steps
    rw [hpath, ← List.append_assoc, List.getLast?_concat]
    simp [h.isName.step, h.isName.down]
  rw [makeDirectory, h.dropSlashes_eq, locateAlong_eq, hfault]
  simp only [hstep]
  rfl

theorem makeDirectory_of_walk {cause : FileError} (h : Path.Below parent path name)
    (hfault : Path.fault? path = none)
    (hwalk : s.walk (startOf path) (Path.pieces path.toList) = .error cause) :
    s.makeDirectory path = .error cause := by
  rw [makeDirectory_of_below h hfault, hwalk]
  rfl

/-- What becomes of a folder that is to be made in a directory that is there. -/
def makeHere (s : Store) (l : Location) (name : String) : Except FileError Unit × Store :=
  if name.utf8ByteSize > nameLimit then (.error .nameTooLong, s)
  else
    match s.find? l with
    | some .directory => (.ok (), s)
    | some _ => (.error .taken, s)
    | none => if l.isLocked then (.error l.makingError, s) else (.ok (), s.put l .directory)

/-- A folder on a way that is barred is not made, and nothing else either. -/
theorem makeDirectories_of_walk {cause : FileError} (h : Path.Below parent path name)
    (hfault : Path.fault? path = none) (hne : cause ≠ .missing)
    (hwalk : s.walk (startOf path) (Path.pieces path.toList) = .error cause) :
    s.makeDirectories path = (.error cause, s) := by
  have hmake := makeDirectory_of_walk h hfault hwalk
  have htaken : cause ≠ .taken := by
    rintro rfl
    exact walk_ne_taken hwalk
  rw [makeDirectories_of_ne h.parent_eq (by rw [hmake]; simpa using hne), makeEach_singleton, hmake]
  simp [htaken]

theorem makeHere_eq_taken (h : (s.makeHere l name).1 = .error .taken) :
    ∃ n, n ≠ .directory ∧ s.find? l = some n := by
  unfold makeHere at h
  split at h
  · cases h
  · split at h
    · cases h
    · next n hother hthere => exact ⟨n, hother, hthere⟩
    · split at h
      · rw [Location.makingError] at h
        split at h <;> cases h
      · cases h

theorem makeEach_of_leads (h : Path.Below parent path name) (hfault : Path.fault? path = none)
    (hleads : s.Leads parent) : s.makeEach [path] = s.makeHere (Path.place path) name := by
  have hmake := makeDirectory_of_below (s := s) h hfault
  have hwalk := h.walk_of_leads hleads
  rw [hwalk] at hmake
  rw [makeEach_singleton, makeHere]
  by_cases hlong : name.utf8ByteSize > nameLimit
  · rw [if_pos hlong] at hmake ⊢
    rw [hmake]
    rfl
  · rw [if_neg hlong] at hmake hwalk ⊢
    have hmake' : s.makeDirectory path =
        if (s.find? (Path.place path)).isSome then .error .taken
        else if (Path.place path).isLocked then .error (Path.place path).makingError
        else .ok (s.put (Path.place path) .directory) := hmake
    cases hthere : s.find? (Path.place path) with
    | none =>
        rw [hthere, if_neg (by decide)] at hmake'
        rw [hmake']
        by_cases hlocked : (Path.place path).isLocked
        · rw [if_pos hlocked, if_pos hlocked]
          have hcause : (Path.place path).makingError ≠ .taken := by
            rw [Location.makingError]
            split <;> decide
          simp [hcause]
        · rw [if_neg hlocked, if_neg hlocked]
    | some n =>
        simp only [hthere, Option.isSome_some, if_true] at hmake'
        rw [hmake']
        have hdirectory : s.isDirectory path ↔ n = .directory := by
          rw [isDirectory_iff_leads, Leads, hthere]
          simp [hfault, hwalk]
        cases n with
        | directory => simp [hdirectory]
        | file content isProgram => simp [hdirectory]
        | device d => simp [hdirectory]

/-- The empty path and the root lead where they start. -/
theorem leads_of_parent?_eq_none (h : Path.parent? path = none) : s.Leads path := by
  obtain ⟨first, rest, hpieces⟩ := List.exists_cons_of_ne_nil (Path.pieces_ne_nil path.toList)
  obtain ⟨idle, hidle, hrest⟩ := Path.exists_dropIdleEnd_append rest
  rw [Path.parent?, Path.trimmed, hpieces] at h
  cases hkept : Path.dropIdleEnd rest with
  | cons second others =>
      simp only [hkept] at h
      split at h <;> cases h
  | nil =>
      simp only [hkept] at h
      cases first with
      | cons c first => cases h
      | nil =>
          refine leads_of_idle ?_
          rw [hpieces, hrest, hkept]
          exact List.forall_mem_cons.mpr ⟨rfl, hidle⟩

theorem Furnished.leads (h : s.Furnished path) : s.Leads path := by
  rcases h with hnil | hdir
  · exact leads_of_parent?_eq_none (Path.lineage_eq_nil_iff.mp hnil)
  · exact (isDirectory_iff_leads.mp hdir).2

/-- The paths of a lineage are ones that the system takes if the first one is. -/
theorem fault?_of_below (h : Path.Below parent path name) (hfault : Path.fault? path = none) :
    parent ≠ "" → Path.fault? parent = none := fun hne =>
  Path.fault?_of_front hne (Path.parent?_front h.parent_eq).1 hfault

/-- Behind something in a tree, nothing is missing on the way. -/
theorem Housed.walk_ne_missing (hs : s.Housed) (hB : ∀ q, B q → s.Leads q)
    (hparent : Path.Descends B parent) (h : Path.Below parent path name)
    (hsome : (s.find? (Path.place parent)).isSome) :
    s.walk (startOf path) (Path.pieces path.toList) ≠ .error .missing := by
  obtain ⟨hshort, hlong⟩ := hs.walk_eq hB hparent hsome
  by_cases hl : (Path.place parent).Short
  · by_cases hdir : s.find? (Path.place parent) = some .directory
    · rw [h.walk_of_leads ⟨hshort hl, hdir⟩]
      split <;> rintro ⟨⟩
    · obtain ⟨n, hn⟩ := Option.isSome_iff_exists.mp hsome
      rw [h.walk_eq, hshort hl]
      change s.walk (Path.place parent) [name.toList] ≠ _
      rw [walk_cons_of_ne hdir, obstacle, hn]
      rintro ⟨⟩
  · rw [h.walk_eq, hlong hl]
    rintro ⟨⟩

/-- Where a folder is missing, so is something on the way to it, unless what it lies in is there. -/
theorem walk_of_makeDirectory_missing (h : Path.Below parent path name)
    (hfault : Path.fault? path = none) (hleads : ¬ s.Leads parent)
    (hmissing : s.makeDirectory path = .error .missing) :
    s.walk (startOf path) (Path.pieces path.toList) = .error .missing := by
  cases hl : s.walk (startOf path) (Path.pieces path.toList) with
  | ok l => exact absurd (leads_of_parent? h.parent_eq hl) hleads
  | error cause =>
      rw [makeDirectory_of_walk h hfault hl] at hmissing
      cases hmissing
      rfl

/-- A folder is found taken only by what stands at its own place. -/
theorem isSome_of_makeDirectories (hs : s.Housed) (hB : ∀ q, B q → s.Leads q)
    (hpath : Path.Descends B path) (hfault : path ≠ "" → Path.fault? path = none)
    (h : (s.makeDirectories path).1 = .error .taken) : (s.find? (Path.place path)).isSome := by
  induction hpath with
  | here hbase =>
      rw [makeDirectories_of_furnished (furnished_of_leads (hB _ hbase) hfault)] at h
      cases h
  | @step path parent name hbelow hplace hparent ih =>
      have hfault' := hfault hbelow.ne_empty
      have hparentFault := fault?_of_below hbelow hfault'
      by_cases hmissing : s.makeDirectory path = .error .missing
      · rw [makeDirectories_of_missing hbelow.parent_eq hmissing] at h
        have hadds := addsDirectories_makeDirectories s parent
        have hfurnished : (s.makeDirectories parent).1 = .ok () →
            (s.makeDirectories parent).2.Furnished parent := furnished_of_makeDirectories
        cases hmade : s.makeDirectories parent with
        | mk result s' =>
            rw [hmade] at h hadds hfurnished ih
            cases result with
            | ok u =>
                have htaken : (s'.makeEach [path]).1 = .error .taken := h
                rw [makeEach_of_leads hbelow hfault' (hfurnished rfl).leads] at htaken
                obtain ⟨n, hother, hthere⟩ := makeHere_eq_taken htaken
                rcases hadds.added hthere with hbefore | hdir
                · rw [hbefore]
                  rfl
                · exact absurd hdir hother
            | error cause =>
                -- What stands in the way of the folder that it lies in is not missing.
                have hwalk := hs.walk_ne_missing hB hparent hbelow (ih hparentFault h)
                have hleads : ¬ s.Leads parent := by
                  intro hleads
                  rw [makeDirectories_of_furnished
                    (furnished_of_leads hleads hparentFault)] at hmade
                  cases hmade
                exact absurd (walk_of_makeDirectory_missing hbelow hfault' hleads hmissing) hwalk
      · cases hl : s.walk (startOf path) (Path.pieces path.toList) with
        | ok l =>
            have hleads := leads_of_parent? hbelow.parent_eq hl
            rw [makeDirectories_of_ne hbelow.parent_eq hmissing,
              makeEach_of_leads hbelow hfault' hleads] at h
            obtain ⟨n, _, hthere⟩ := makeHere_eq_taken h
            rw [hthere]
            rfl
        | error cause =>
            have hne : cause ≠ .missing := by
              rintro rfl
              exact hmissing (makeDirectory_of_walk hbelow hfault' hl)
            rw [makeDirectories_of_walk hbelow hfault' hne hl] at h
            cases h
            exact absurd hl walk_ne_taken

/-- Where the way to a folder is barred, so is the one to what it lies in, unless it is barred by what
stands in place of that. -/
theorem makeDirectories_of_barred {cause : FileError} (hB : ∀ q, B q → s.Leads q)
    (hparent : Path.Descends B parent) (h : Path.Below parent path name)
    (hfault : parent ≠ "" → Path.fault? parent = none) (hleads : ¬ s.Leads parent)
    (hmissing : cause ≠ .missing)
    (hwalk : s.walk (startOf path) (Path.pieces path.toList) = .error cause) :
    cause ≠ .taken ∧ s.makeDirectories parent = (.error cause, s) ∨
      cause = .notDirectory ∧ s.makeDirectories parent = (.error .taken, s) := by
  cases hparent with
  | here hbase => exact absurd (hB _ hbase) hleads
  | @step _ _ _ hbelow hplace hfront =>
      have hfault' := hfault hbelow.ne_empty
      rw [h.walk_eq] at hwalk
      cases hp : s.walk (startOf parent) (Path.pieces parent.toList) with
      | error e =>
          rw [hp] at hwalk
          obtain rfl : e = cause := by
            cases hwalk
            rfl
          refine .inl ⟨?_, makeDirectories_of_walk hbelow hfault' hmissing hp⟩
          rintro rfl
          exact walk_ne_taken hp
      | ok m =>
          obtain rfl : m = Path.place parent := walk_eq_ok hp
          have hdir : s.find? (Path.place parent) ≠ some .directory :=
            fun hdir => hleads ⟨hp, hdir⟩
          rw [hp] at hwalk
          have hbarred : s.obstacle (Path.place parent) = cause := by
            have hstep : s.walk (Path.place parent) [name.toList] = .error cause := hwalk
            rw [walk_cons_of_ne hdir] at hstep
            cases hstep
            rfl
          rw [obstacle] at hbarred
          cases hthere : s.find? (Path.place parent) with
          | none =>
              rw [hthere] at hbarred
              exact absurd hbarred.symm hmissing
          | some n =>
              rw [hthere] at hbarred
              refine .inr ⟨hbarred.symm, ?_⟩
              have hmake : s.makeDirectory parent = .error .taken := by
                rw [makeDirectory_of_below hbelow hfault', hp]
                simp [Except.bind, hthere]
              have hother : s.isDirectory parent = false := by
                rw [Bool.eq_false_iff, ne_eq, isDirectory_iff_leads]
                exact fun h => hleads h.2
              rw [makeDirectories_of_ne hbelow.parent_eq (by rw [hmake]; rintro ⟨⟩),
                makeEach_singleton, hmake, hother]
              rfl

/-- A folder is made by making the one that it lies in and then the folder itself. What stands in
place of the one that it lies in is in the way. -/
theorem makeDirectories_of_below (hs : s.Housed) (hB : ∀ q, B q → s.Leads q)
    (hparent : Path.Descends B parent) (h : Path.Below parent path name)
    (hfault : Path.fault? path = none) :
    s.makeDirectories path =
      match s.makeDirectories parent with
      | (.ok (), s') => s'.makeHere (Path.place path) name
      | (.error .taken, s') => (.error .notDirectory, s')
      | (.error cause, s') => (.error cause, s') := by
  have hparentFault := fault?_of_below h hfault
  by_cases hleads : s.Leads parent
  · have hfurnished := makeDirectories_of_furnished (furnished_of_leads hleads hparentFault)
    rw [hfurnished]
    dsimp only
    rw [← makeEach_of_leads h hfault hleads]
    by_cases hmissing : s.makeDirectory path = .error .missing
    · rw [makeDirectories_of_missing h.parent_eq hmissing, hfurnished]
    · exact makeDirectories_of_ne h.parent_eq hmissing
  · cases hl : s.walk (startOf path) (Path.pieces path.toList) with
    | ok l => exact absurd (leads_of_parent? h.parent_eq hl) hleads
    | error cause =>
        by_cases hmissing : cause = .missing
        · subst hmissing
          rw [makeDirectories_of_missing h.parent_eq (makeDirectory_of_walk h hfault hl)]
          have hfurnished : (s.makeDirectories parent).1 = .ok () →
              (s.makeDirectories parent).2.Furnished parent := furnished_of_makeDirectories
          have htaken := isSome_of_makeDirectories hs hB hparent hparentFault
          cases hmade : s.makeDirectories parent with
          | mk result s' =>
              rw [hmade] at hfurnished htaken
              cases result with
              | ok u => exact makeEach_of_leads h hfault (hfurnished rfl).leads
              | error e =>
                  have hne : e ≠ .taken := by
                    rintro rfl
                    exact hs.walk_ne_missing hB hparent h (htaken rfl) hl
                  cases e <;> first | rfl | exact absurd rfl hne
        · rw [makeDirectories_of_walk h hfault hmissing hl]
          rcases makeDirectories_of_barred hB hparent h hparentFault hleads hmissing hl with
            ⟨hne, hmade⟩ | ⟨rfl, hmade⟩
          · rw [hmade]
            cases cause <;> first | rfl | exact absurd rfl hne
          · rw [hmade]

theorem makeDirectories_of_fault {cause : FileError} (h : Path.Below parent path name)
    (hfault : Path.fault? path = some cause) : s.makeDirectories path = (.error cause, s) := by
  have hmake : s.makeDirectory path = .error cause := by
    rw [makeDirectory, locateAlong_eq, hfault]
    rfl
  have hcause : cause ≠ .missing ∧ cause ≠ .taken := by
    have hempty : path.isEmpty = false := String.isEmpty_eq_false_iff.mpr h.ne_empty
    unfold Path.fault? at hfault
    simp only [hempty, Bool.false_eq_true, if_false] at hfault
    split_ifs at hfault <;> cases hfault <;> decide
  rw [makeDirectories_of_ne h.parent_eq (by rw [hmake]; simpa using hcause.1), makeEach_singleton,
    hmake]
  simp [hcause.2]

theorem find?_of_makeHere {m : Location} (h : (s.makeHere l name).2.find? m = some .directory) :
    s.find? m = some .directory ∨ m = l ∧ ¬ l.isLocked := by
  unfold makeHere at h
  split at h
  · exact .inl h
  · split at h
    · exact .inl h
    · exact .inl h
    · split at h
      · exact .inl h
      · next hopen =>
          by_cases hm : l = m
          · exact .inr ⟨hm.symm, hopen⟩
          · dsimp only at h
            rw [find?_put _ (fixed?_of_not_isLocked hopen), if_neg hm] at h
            exact .inl h

theorem find?_of_makeEach {m : Location} (h : Path.Below parent path name)
    (hfault : Path.fault? path = none) (hm : (s.makeEach [path]).2.find? m = some .directory) :
    s.find? m = some .directory ∨ m = Path.place path ∧ ¬ m.isLocked := by
  cases hl : s.walk (startOf path) (Path.pieces path.toList) with
  | ok l =>
      rw [makeEach_of_leads h hfault (leads_of_parent? h.parent_eq hl)] at hm
      refine (find?_of_makeHere hm).imp_right ?_
      rintro ⟨rfl, hopen⟩
      exact ⟨rfl, hopen⟩
  | error cause =>
      rw [makeEach_singleton, makeDirectory_of_walk h hfault hl] at hm
      dsimp only at hm
      split at hm <;> exact .inl hm

/-- A folder is made, and what it lies in, and nothing else. -/
theorem find?_of_makeDirectories (hB : ∀ q, B q → s.Leads q)
    (hpath : Path.Descends B path) (hfault : path ≠ "" → Path.fault? path = none)
    (h : (s.makeDirectories path).2.find? l = some .directory) :
    s.find? l = some .directory ∨ l <+: Path.place path ∧ ¬ l.isLocked := by
  induction hpath with
  | here hbase =>
      rw [makeDirectories_of_furnished (furnished_of_leads (hB _ hbase) hfault)] at h
      exact .inl h
  | @step path parent name hbelow hplace hparent ih =>
      have hfault' := hfault hbelow.ne_empty
      have hfront : l <+: Path.place parent → l <+: Path.place path := by
        intro hl
        rw [hplace]
        exact hl.trans (List.prefix_append _ _)
      have hself : ∀ {u : Store}, (u.makeEach [path]).2.find? l = some .directory →
          u.find? l = some .directory ∨ l <+: Path.place path ∧ ¬ l.isLocked := by
        intro u hu
        refine (find?_of_makeEach hbelow hfault' hu).imp_right ?_
        rintro ⟨rfl, hopen⟩
        exact ⟨List.prefix_rfl, hopen⟩
      replace ih := ih (fault?_of_below hbelow hfault')
      by_cases hmissing : s.makeDirectory path = .error .missing
      · rw [makeDirectories_of_missing hbelow.parent_eq hmissing] at h
        cases hmade : s.makeDirectories parent with
        | mk result s' =>
            rw [hmade] at h ih
            cases result with
            | ok u => exact (hself h).elim (fun h' => (ih h').imp_right fun hl => ⟨hfront hl.1, hl.2⟩) .inr
            | error cause => exact (ih h).imp_right fun hl => ⟨hfront hl.1, hl.2⟩
      · rw [makeDirectories_of_ne hbelow.parent_eq hmissing] at h
        exact hself h

end Store

end Storyboard
