import Mathlib
import Storyboard.Proofs.Disk.Place

/-!
Changes of files. Writing and removing change one location, making directories changes none that was
taken; what was written once can be written again without an effect.
-/

namespace Storyboard
namespace Store

variable {s s' s'' : Store} {l m : Location} {path : String}

theorem eq_of_entries (h : s.entries = s'.entries) : s = s' := by
  cases s
  cases s'
  cases h
  rfl

/-! ### Changes at one location -/

/-- The files differ at most at a location. -/
def ChangesAt (l : Location) (s s' : Store) : Prop :=
  s'.erase l = s.erase l

theorem find?_erase_of_ne (h : m ≠ l) : (s.erase l).find? m = s.find? m := by
  unfold find?
  cases m.fixed? with
  | some node => rfl
  | none =>
      have hkeep : (!(m == l)) = true := by simpa using h
      have hfilter := lookup_filter s.entries (fun place => !(place == l)) m
      rwa [hkeep, if_pos rfl] at hfilter

theorem filter_erase {p : Location × Node → Bool} (hp : ∀ n, p (l, n) = false) :
    (s.erase l).entries.filter p = s.entries.filter p := by
  change (s.entries.filter fun e => !(e.1 == l)).filter p = _
  rw [List.filter_filter]
  refine List.filter_congr fun e _ => ?_
  obtain ⟨place, n⟩ := e
  by_cases he : place = l
  · rw [he, hp n, Bool.false_and]
  · simp [he]

namespace ChangesAt

theorem find?_eq (h : ChangesAt l s s') (hm : m ≠ l) : s'.find? m = s.find? m := by
  rw [← find?_erase_of_ne hm, h, find?_erase_of_ne hm]

theorem filter_eq (h : ChangesAt l s s') {p : Location × Node → Bool}
    (hp : ∀ n, p (l, n) = false) : s'.entries.filter p = s.entries.filter p := by
  rw [← filter_erase hp, h, filter_erase hp]

end ChangesAt

theorem changesAt_put (n : Node) : ChangesAt l s (s.put l n) := by
  refine eq_of_entries ?_
  change (replace s.entries l n).filter (fun e => !(e.1 == l)) = s.entries.filter _
  induction s.entries with
  | nil => simp [replace]
  | cons e rest ih =>
      obtain ⟨place, old⟩ := e
      by_cases he : place = l
      · simp [replace, he]
      · rw [replace, if_neg he, List.filter_cons_of_pos (by simpa using he), ih,
          List.filter_cons_of_pos (by simpa using he)]

theorem changesAt_erase : ChangesAt l s (s.erase l) := by
  refine eq_of_entries ?_
  change (s.entries.filter _).filter _ = s.entries.filter _
  rw [List.filter_filter]
  simp

theorem put_put (n n' : Node) : (s.put l n).put l n' = s.put l n' := by
  refine eq_of_entries ?_
  change replace (replace s.entries l n) l n' = replace s.entries l n'
  induction s.entries with
  | nil => simp [replace]
  | cons e rest ih =>
      obtain ⟨place, old⟩ := e
      by_cases he : place = l
      · simp [replace, he]
      · simp [replace, he, ih]

/-! ### Writing and removing -/

theorem fixed?_of_not_isLocked (h : ¬ l.isLocked) : l.fixed? = none := by
  unfold Location.isLocked at h
  rw [Bool.or_eq_true, not_or] at h
  exact Option.not_isSome_iff_eq_none.mp h.1

/-- Writing puts a file where none but a file was, or a device takes the content. -/
theorem writeAt_cases {content : ByteArray} (h : s.writeAt l content = .ok s') :
    ((∃ d, s.find? l = some (.device d)) ∧ s' = s) ∨
    ∃ isProgram, s' = s.put l (.file content isProgram) ∧ ¬ l.isLocked ∧
      (s.find? l = none ∧ isProgram = false ∨ ∃ old, s.find? l = some (.file old isProgram)) := by
  unfold writeAt at h
  split at h
  · cases h
  · next hl =>
      split at h
      · cases h
        exact .inl ⟨⟨.full, hl⟩, rfl⟩
      · cases h
  · next d _ hl =>
      cases h
      exact .inl ⟨⟨d, hl⟩, rfl⟩
  · next old isProgram hl =>
      split at h
      · cases h
      · next hopen =>
          cases h
          exact .inr ⟨isProgram, rfl, hopen, .inr ⟨old, hl⟩⟩
  · next hl =>
      split at h
      · cases h
      · next hopen =>
          cases h
          exact .inr ⟨false, rfl, hopen, .inl ⟨hl, rfl⟩⟩

theorem changesAt_writeAt {content : ByteArray} (h : s.writeAt l content = .ok s') :
    ChangesAt l s s' := by
  obtain ⟨_, rfl⟩ | ⟨isProgram, rfl, _⟩ := writeAt_cases h
  · rfl
  · exact changesAt_put _

theorem find?_ne_directory_of_writeAt {content : ByteArray} (h : s.writeAt l content = .ok s') :
    s.find? l ≠ some .directory := by
  obtain ⟨⟨d, hl⟩, _⟩ | ⟨isProgram, _, _, ⟨hl, _⟩ | ⟨old, hl⟩⟩ := writeAt_cases h
  all_goals
    rw [hl]
    nofun

/-- After writing there is something: the file that was written, or the device that was there. -/
theorem find?_of_writeAt {content : ByteArray} (h : s.writeAt l content = .ok s') :
    (∃ isProgram, s'.find? l = some (.file content isProgram)) ∨
      s' = s ∧ ∃ d, s.find? l = some (.device d) := by
  obtain ⟨hdevice, rfl⟩ | ⟨isProgram, rfl, hopen, _⟩ := writeAt_cases h
  · exact .inr ⟨rfl, hdevice⟩
  · exact .inl ⟨isProgram, by rw [find?_put _ (fixed?_of_not_isLocked hopen), if_pos rfl]⟩

theorem isSome_of_writeAt {content : ByteArray} (h : s.writeAt l content = .ok s') :
    (s'.find? l).isSome := by
  obtain ⟨isProgram, hfile⟩ | ⟨rfl, d, hdevice⟩ := find?_of_writeAt h
  · rw [hfile]
    rfl
  · rw [hdevice]
    rfl

/-- What is written last counts. -/
theorem writeAt_writeAt {content : ByteArray} (h : s.writeAt l content = .ok s')
    (other : ByteArray) : s'.writeAt l other = s.writeAt l other := by
  obtain ⟨_, rfl⟩ | ⟨isProgram, rfl, hopen, hl⟩ := writeAt_cases h
  · rfl
  -- The file that was written stands there now, with the rights of the one before it.
  · have hafter : (s.put l (.file content isProgram)).find? l = some (.file content isProgram) := by
      rw [find?_put _ (fixed?_of_not_isLocked hopen), if_pos rfl]
    have hagain : (s.put l (.file content isProgram)).writeAt l other =
        .ok (s.put l (.file other isProgram)) := by
      simp only [writeAt, hafter, if_neg hopen, put_put]
    rw [hagain]
    obtain ⟨hl, rfl⟩ | ⟨old, hl⟩ := hl
    · simp only [writeAt, hl, if_neg hopen]
    · simp only [writeAt, hl, if_neg hopen]

/-- Where some content can be written that is not empty, any other can. -/
theorem exists_writeAt {content : ByteArray} (h : s.writeAt l content = .ok s')
    (hcontent : content.isEmpty = false) (other : ByteArray) :
    ∃ t, s.writeAt l other = .ok t := by
  obtain ⟨⟨d, hd⟩, _⟩ | ⟨isProgram, _, hopen, hl⟩ := writeAt_cases h
  · unfold writeAt at h ⊢
    rw [hd] at h ⊢
    cases d with
    | void | stream => exact ⟨s, rfl⟩
    | full => simp [hcontent] at h
  · obtain ⟨hl, _⟩ | ⟨old, hl⟩ := hl
    · exact ⟨s.put l (.file other false), by simp only [writeAt, hl, if_neg hopen]⟩
    · exact ⟨s.put l (.file other isProgram), by simp only [writeAt, hl, if_neg hopen]⟩

/-- Whether a content is written without an effect depends only on what stands there. -/
theorem writeAt_self_congr {content : ByteArray} (h : s.writeAt l content = .ok s)
    (hl : s'.find? l = s.find? l) : s'.writeAt l content = .ok s' := by
  obtain ⟨⟨d, hd⟩, _⟩ | ⟨isProgram, hput, hopen, _⟩ := writeAt_cases h
  · unfold writeAt at h ⊢
    rw [hd] at h
    rw [hl, hd]
    cases d with
    | void | stream => rfl
    | full =>
        dsimp only at h ⊢
        split at h
        · next hempty => rw [if_pos hempty]
        · cases h
  · have hfixed := fixed?_of_not_isLocked hopen
    have hfile : s.find? l = some (.file content isProgram) := by
      rw [hput, find?_put _ hfixed, if_pos rfl]
    rw [hfile] at hl
    simp only [writeAt, hl, if_neg hopen, put_eq_self hfixed hl]

theorem write_eq_ok {content : ByteArray} :
    s.write path content = .ok s' ↔
      ∃ l, s.locateNew path = .ok l ∧ s.writeAt l content = .ok s' := by
  unfold write
  cases s.locateNew path with
  | error e => simp [bind, Except.bind]
  | ok l => simp [bind, Except.bind]

theorem fromUTF8?_toUTF8 (text : String) : String.fromUTF8? text.toUTF8 = some text := by
  unfold String.fromUTF8?
  exact dif_pos text.isValidUTF8

/-- Whether a path leads to a device, which swallows what is written. -/
def swallows (s : Store) (path : String) : Bool :=
  match s.node path with
  | .ok (.device _) => true
  | _ => false

/-- A text is what a path holds, unless a device stands there. -/
def Holds (s : Store) (path text : String) : Prop :=
  s.swallows path ∨ s.readText path = .ok text

instance (s : Store) (path text : String) : Decidable (s.Holds path text) :=
  inferInstanceAs (Decidable (_ ∨ _))

/-- A text is written where a path leads, so that writing it again changes nothing. -/
structure Wrote (s : Store) (path text : String) : Prop where
  located : s.locateNew path = .ok (Path.place path)
  written : s.writeAt (Path.place path) text.toUTF8 = .ok s

theorem Wrote.holds {text : String} (h : s.Wrote path text) : s.Holds path text := by
  have hl := locate_of_locateNew h.located
  obtain ⟨isProgram, hfile⟩ | ⟨_, d, hdevice⟩ := find?_of_writeAt h.written
  · right
    have hnode := node_eq_ok.mpr ⟨_, hl, hfile⟩
    rw [readText, read, hnode]
    simp only [bind, Except.bind, fromUTF8?_toUTF8]
  · left
    rw [swallows, node_eq_ok.mpr ⟨_, hl, hdevice⟩]

theorem wrote_of_write {text : String} (h : s.writeText path text = .ok s') :
    s'.Wrote path text := by
  obtain ⟨l, hl, hwrite⟩ := write_eq_ok.mp h
  obtain rfl := locate_eq_ok (locate_of_locateNew hl)
  refine ⟨locateNew_mono ?_ hl, by rw [writeAt_writeAt hwrite, hwrite]⟩
  intro m hm
  rwa [(changesAt_writeAt hwrite).find?_eq]
  rintro rfl
  exact find?_ne_directory_of_writeAt hwrite hm

/-- Removing takes away one file. -/
theorem remove_eq_ok (h : s.remove path = .ok s') :
    ∃ content isProgram, s.find? (Path.place path) = some (.file content isProgram) ∧
      s' = s.erase (Path.place path) := by
  unfold remove at h
  cases hl : s.locate path with
  | error e =>
      rw [hl] at h
      cases h
  | ok l =>
      obtain rfl := locate_eq_ok hl
      simp only [hl, bind, Except.bind] at h
      split at h
      · cases h
      · cases h
      · next content isProgram hfile =>
          split at h
          · cases h
          · cases h
            exact ⟨content, isProgram, hfile, rfl⟩
      · cases h

/-! ### Making directories -/

/-- Directories have been added, and nothing else is different. -/
structure AddsDirectories (s s' : Store) : Prop where
  node : ∀ {l n}, s.find? l = some n → s'.find? l = some n
  added : ∀ {l n}, s'.find? l = some n → s.find? l = some n ∨ n = .directory
  filter : ∀ {p : Location × Node → Bool}, (∀ l, p (l, .directory) = false) →
    s'.entries.filter p = s.entries.filter p

namespace AddsDirectories

protected theorem refl (s : Store) : AddsDirectories s s :=
  ⟨id, .inl, fun _ => rfl⟩

protected theorem trans (h : AddsDirectories s s') (h' : AddsDirectories s' s'') :
    AddsDirectories s s'' :=
  ⟨fun hl => h'.node (h.node hl),
    fun hl => (h'.added hl).elim h.added .inr,
    fun hp => (h'.filter hp).trans (h.filter hp)⟩

theorem isDirectory (h : AddsDirectories s s') (hdir : s.isDirectory path) :
    s'.isDirectory path := by
  obtain ⟨l, hl, hnode⟩ := isDirectory_iff.mp hdir
  exact isDirectory_iff.mpr ⟨l, locate_mono (fun _ => h.node) hl, h.node hnode⟩

end AddsDirectories

theorem addsDirectories_put (hfixed : l.fixed? = none) (hl : s.find? l = none) :
    AddsDirectories s (s.put l .directory) where
  node := by
    intro m n hm
    rw [find?_put _ hfixed, if_neg]
    · exact hm
    · rintro rfl
      rw [hl] at hm
      cases hm
  added := by
    intro m n hm
    rw [find?_put _ hfixed] at hm
    split at hm
    · cases hm
      exact .inr rfl
    · exact .inl hm
  filter := by
    intro p hp
    have hnone : lookup s.entries l = none := by simpa [find?, hfixed] using hl
    change (replace s.entries l .directory).filter p = s.entries.filter p
    generalize s.entries = entries at hnone
    induction entries with
    | nil => simp [replace, hp]
    | cons e rest ih =>
        obtain ⟨place, old⟩ := e
        have hne : ¬ place = l := by
          intro h
          simp [lookup, h] at hnone
        rw [lookup, if_neg hne] at hnone
        rw [replace, if_neg hne, List.filter_cons, List.filter_cons, ih hnone]

theorem makeDirectory_eq_ok (h : s.makeDirectory path = .ok s') :
    AddsDirectories s s' ∧ s'.isDirectory path := by
  unfold makeDirectory at h
  cases hl : s.locateAlong path (Path.dropSlashes (Path.pieces path.toList)) with
  | error e =>
      simp only [hl, bind, Except.bind] at h
      cases h
  | ok l =>
      simp only [hl, bind, Except.bind] at h
      split at h
      · cases h
      · next hfree =>
          split at h
          · cases h
          · next hopen =>
              cases h
              have hnone : s.find? l = none := by
                rw [Bool.or_eq_true, not_or] at hfree
                exact Option.not_isSome_iff_eq_none.mp hfree.2
              have hfixed := fixed?_of_not_isLocked hopen
              have hadds := addsDirectories_put hfixed hnone
              have hmade : (s.put l .directory).find? l = some .directory := by
                rw [find?_put _ hfixed, if_pos rfl]
              refine ⟨hadds, isDirectory_iff.mpr ⟨l, (locate_iff_steps hmade).mpr ?_, hmade⟩⟩
              exact locateAlong_of_walk hl
                (walk_mono (fun _ => hadds.node) (walk_of_locateAlong hl))

/-- A directory that is there already is not made again. -/
theorem makeDirectory_of_isDirectory (h : s.isDirectory path) :
    s.makeDirectory path = .error .taken := by
  obtain ⟨l, hl, hdir⟩ := isDirectory_iff.mp h
  have hsome : (s.find? l).isSome = true := by rw [hdir]; rfl
  simp only [makeDirectory, (locate_iff_steps hdir).mp hl, bind, Except.bind, hsome, Bool.or_true,
    if_true]

theorem addsDirectories_makeEach (s : Store) (paths : List String) :
    AddsDirectories s (s.makeEach paths).2 := by
  induction paths generalizing s with
  | nil => exact .refl s
  | cons path paths ih =>
      rw [makeEach]
      split
      · next hmade => exact (makeDirectory_eq_ok hmade).1.trans (ih _)
      · split
        · exact ih s
        · exact .refl s

theorem isDirectory_of_makeEach {paths : List String} (h : (s.makeEach paths).1 = .ok ()) :
    ∀ path ∈ paths, (s.makeEach paths).2.isDirectory path := by
  induction paths generalizing s with
  | nil => exact List.forall_mem_nil _
  | cons path paths ih =>
      rw [makeEach] at h ⊢
      split at h
      · next s₁ hmade =>
          exact List.forall_mem_cons.mpr
            ⟨(addsDirectories_makeEach s₁ paths).isDirectory (makeDirectory_eq_ok hmade).2, ih h⟩
      · next cause hcause =>
          split at h
          · next hthere =>
              rw [if_pos hthere]
              rw [Bool.and_eq_true] at hthere
              exact List.forall_mem_cons.mpr
                ⟨(addsDirectories_makeEach s paths).isDirectory hthere.2, ih h⟩
          · cases h

theorem addsDirectories_makeAmong (s : Store) (inner outer : List String) :
    AddsDirectories s (s.makeAmong inner outer).2 := by
  induction outer generalizing inner with
  | nil => exact addsDirectories_makeEach s inner
  | cons path outer ih =>
      rw [makeAmong]
      split
      · next hmade => exact (makeDirectory_eq_ok hmade).1.trans (addsDirectories_makeEach _ inner)
      · exact ih _
      · split
        · exact addsDirectories_makeEach s inner
        · exact .refl s

theorem isDirectory_of_makeAmong {inner outer : List String}
    (h : (s.makeAmong inner outer).1 = .ok ()) :
    ∀ path, path ∈ inner ∨ path ∈ outer.head? → (s.makeAmong inner outer).2.isDirectory path := by
  induction outer generalizing inner with
  | nil =>
      rintro path (hpath | hpath)
      · exact isDirectory_of_makeEach h path hpath
      · cases hpath
  | cons first outer ih =>
      rw [makeAmong] at h ⊢
      split at h
      · next s₁ hmade =>
          rintro path (hpath | hpath)
          · exact isDirectory_of_makeEach h path hpath
          · obtain rfl : first = path := Option.some.inj hpath
            exact (addsDirectories_makeEach s₁ inner).isDirectory (makeDirectory_eq_ok hmade).2
      · rintro path (hpath | hpath)
        · exact ih h path (.inl (List.mem_cons_of_mem _ hpath))
        · obtain rfl : first = path := Option.some.inj hpath
          exact ih h first (.inl List.mem_cons_self)
      · next cause _ hcause =>
          split at h
          · next hthere =>
              rw [if_pos hthere]
              rw [Bool.and_eq_true] at hthere
              rintro path (hpath | hpath)
              · exact isDirectory_of_makeEach h path hpath
              · obtain rfl : first = path := Option.some.inj hpath
                exact (addsDirectories_makeEach s inner).isDirectory hthere.2
          · cases h

theorem addsDirectories_makeDirectories (s : Store) (path : String) :
    AddsDirectories s (s.makeDirectories path).2 :=
  addsDirectories_makeAmong s [] _

/-- Nothing has to be made for a path: it is a directory, or the working directory or the root. -/
def Furnished (s : Store) (path : String) : Prop :=
  Path.lineage path = [] ∨ s.isDirectory path

/-- A path is the first of those that it lies in. -/
theorem eq_of_lineage {first : String} {outer : List String}
    (h : Path.lineage path = first :: outer) : first = path := by
  rw [Path.lineage, Path.lineageWithin] at h
  split at h
  · cases h
  · cases h
    rfl

theorem furnished_of_makeDirectories (h : (s.makeDirectories path).1 = .ok ()) :
    (s.makeDirectories path).2.Furnished path := by
  unfold Furnished
  cases hlineage : Path.lineage path with
  | nil => exact .inl rfl
  | cons first outer =>
      refine .inr (isDirectory_of_makeAmong h path (.inr ?_))
      rw [hlineage, eq_of_lineage hlineage]
      rfl

theorem makeDirectories_of_furnished (h : s.Furnished path) :
    s.makeDirectories path = (.ok (), s) := by
  unfold makeDirectories
  cases hlineage : Path.lineage path with
  | nil => rfl
  | cons first outer =>
      have hdir : s.isDirectory path := by
        refine h.resolve_left fun hnil => ?_
        rw [hnil] at hlineage
        cases hlineage
      rw [makeAmong, eq_of_lineage hlineage, makeDirectory_of_isDirectory hdir]
      simp only [hdir, decide_true, Bool.and_self, if_true]
      rfl

theorem Furnished.mono (hdir : ∀ l, s.find? l = some .directory → s'.find? l = some .directory)
    (h : s.Furnished path) : s'.Furnished path := by
  refine h.imp_right fun h => ?_
  obtain ⟨l, hl, hnode⟩ := isDirectory_iff.mp h
  exact isDirectory_iff.mpr ⟨l, locate_mono hdir hl, hdir l hnode⟩

end Store
end Storyboard
