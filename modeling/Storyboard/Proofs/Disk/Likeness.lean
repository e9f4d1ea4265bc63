import Mathlib
import Storyboard.Proofs.Disk.Making

/-!
Files of two runs that hold the same but at some locations. Each of them may have folders already
that the other one still has to make. Whatever is made, written or removed beside the locations that
do not count is so in both of them, or in neither of them for one cause.
-/

namespace Storyboard.Store

variable {base s s' t t' : Store} {K K' X S : Location → Prop} {C l m : Location}
  {path parent name : String} {n : Option Node}

/-! ### Where something can be written -/

/-- Whether a content that is not empty can be written at a location. -/
def isWritable (s : Store) (l : Location) : Bool :=
  match s.find? l with
  | some .directory | some (.device .full) => false
  | some (.device _) => true
  | some (.file ..) | none => !l.isLocked

theorem isOk_writeAt {content : ByteArray} (hcontent : content.isEmpty = false) :
    (s.writeAt l content).isOk = s.isWritable l := by
  have hlocked : ∀ cause (u : Store),
      (if l.isLocked then .error cause else .ok u : Except FileError Store).isOk = !l.isLocked := by
    intro cause u
    cases l.isLocked <;> rfl
  unfold writeAt isWritable
  cases s.find? l with
  | none => exact hlocked _ _
  | some n =>
      cases n with
      | directory => rfl
      | file old isProgram => exact hlocked _ _
      | device d => cases d <;> simp [hcontent, Except.isOk, Except.toBool]

theorem isWritable_congr (h : s.find? l = t.find? l) : s.isWritable l = t.isWritable l := by
  rw [isWritable, isWritable, h]

/-- Writing at a location does not change whether one can. -/
theorem isWritable_of_writeAt {content : ByteArray} (h : s.writeAt l content = .ok s') :
    s'.isWritable l = s.isWritable l := by
  have hcontent : (⟨#[0]⟩ : ByteArray).isEmpty = false := rfl
  rw [← isOk_writeAt hcontent, ← isOk_writeAt hcontent, writeAt_writeAt h]

/-! ### Changes of one location -/

/-- The location has got a node, or lost it, and nothing else is different. -/
def Sets (l : Location) (n : Option Node) (s s' : Store) : Prop :=
  ∀ m, s'.find? m = if m = l then n else s.find? m

namespace Sets

theorem put (hopen : ¬ l.isLocked) (n : Node) : Sets l (some n) s (s.put l n) := by
  intro m
  rw [find?_put _ (fixed?_of_not_isLocked hopen)]
  simp only [eq_comm]

theorem erase (hopen : ¬ l.isLocked) : Sets l none s (s.erase l) := by
  intro m
  rw [find?_erase _ (fixed?_of_not_isLocked hopen)]
  simp only [eq_comm]

theorem of_find? (h : s.find? l = n) : Sets l n s s := by
  intro m
  split
  · next hm => rw [hm, h]
  · rfl

theorem find?_self (h : Sets l n s s') : s'.find? l = n := by
  rw [h l, if_pos rfl]

theorem find?_of_ne (h : Sets l n s s') (hm : m ≠ l) : s'.find? m = s.find? m := by
  rw [h m, if_neg hm]

theorem directory (h : Sets l n s s') (hdir : s.find? l = some .directory → n = some .directory)
    (hm : s.find? m = some .directory) : s'.find? m = some .directory := by
  by_cases hml : m = l
  · subst hml
    rw [h.find?_self, hdir hm]
  · rw [h.find?_of_ne hml, hm]

end Sets

/-- The location lies in a directory. -/
def Hosts (s : Store) (l : Location) : Prop :=
  ∀ {m name}, l = m ++ [name] → s.find? m = some .directory

theorem Leads.hosts (h : s.Leads parent) (hplace : Path.place path = Path.place parent ++ [name]) :
    s.Hosts (Path.place path) := by
  intro m name' hm
  rw [hplace] at hm
  rw [← (List.append_inj' hm rfl).1]
  exact h.2

/-- A tree that keeps the directories of a store, and what stands at some locations. -/
structure Grown (base : Store) (K : Location → Prop) (s : Store) : Prop where
  housed : s.Housed
  directory : ∀ {l}, base.find? l = some .directory → s.find? l = some .directory
  kept : ∀ {l}, K l → (base.find? l).isSome → s.find? l = base.find? l

theorem Grown.leads (h : base.Grown K s) (hpath : base.Leads path) : s.Leads path :=
  hpath.mono fun _ => h.directory

theorem Grown.sets (h : base.Grown K s) (hset : Sets l n s s')
    (hdir : s.find? l = some .directory → n = some .directory)
    (hkept : K l → (base.find? l).isSome → n = base.find? l)
    (hhosts : n.isSome → s.Hosts l) : base.Grown K s' where
  housed := by
    intro m name hsome
    by_cases hl : m ++ [name] = l
    · rw [hl, hset.find?_self] at hsome
      rw [hset.find?_of_ne, hhosts hsome hl.symm]
      rintro rfl
      exact absurd (congrArg List.length hl) (by simp)
    · rw [hset.find?_of_ne hl] at hsome
      have hm := h.housed m name hsome
      by_cases hml : m = l
      · subst hml
        rw [hset.find?_self, hdir hm]
      · rw [hset.find?_of_ne hml, hm]
  directory hm := hset.directory hdir (h.directory hm)
  kept := by
    intro m hm hsome
    by_cases hml : m = l
    · subst hml
      rw [hset.find?_self, hkept hm hsome]
    · rw [hset.find?_of_ne hml, h.kept hm hsome]

/-! ### Two stores -/

/-- Two stores hold the same, but at the locations of `X`, and but for directories at those of `S`
that only one of them has. -/
def Alike (X S : Location → Prop) (s t : Store) : Prop :=
  ∀ l, ¬ X l → s.find? l = t.find? l ∨ S l ∧ ¬ l.isLocked ∧
    (s.find? l = none ∧ t.find? l = some .directory ∨
      s.find? l = some .directory ∧ t.find? l = none)

theorem Alike.refl (X S : Location → Prop) (s : Store) : Alike X S s s :=
  fun _ _ => .inl rfl

theorem Alike.symm (h : Alike X S s t) : Alike X S t s := by
  intro l hl
  rcases h l hl with hsame | ⟨hS, hopen, hleft | hright⟩
  · exact .inl hsame.symm
  · exact .inr ⟨hS, hopen, .inr hleft.symm⟩
  · exact .inr ⟨hS, hopen, .inl hright.symm⟩

theorem Alike.trans {u : Store} (h : Alike X S s t) (h' : Alike X S t u) : Alike X S s u := by
  intro l hl
  rcases h l hl with hsame | ⟨hS, hopen, hst⟩
  · rw [hsame]
    exact h' l hl
  · rcases h' l hl with hsame | ⟨_, _, htu⟩
    · rw [← hsame]
      exact .inr ⟨hS, hopen, hst⟩
    · refine .inl ?_
      rcases hst with ⟨hs, ht⟩ | ⟨hs, ht⟩ <;> rcases htu with ⟨ht', hu⟩ | ⟨ht', hu⟩
      · rw [ht] at ht'
        cases ht'
      · rw [hs, hu]
      · rw [hs, hu]
      · rw [ht] at ht'
        cases ht'

theorem Alike.mono {Y : Location → Prop} (h : Alike X S s t) (hXY : ∀ l, X l → Y l) :
    Alike Y S s t :=
  fun l hl => h l fun hX => hl (hXY l hX)

theorem Alike.find?_eq (h : Alike X S s t) (hX : ¬ X l) (hS : ¬ S l) : s.find? l = t.find? l :=
  (h l hX).resolve_right fun hdiff => hS hdiff.1

theorem Alike.sets (h : Alike X S s t) (hs : Sets l n s s') (ht : Sets l n t t') :
    Alike X S s' t' := by
  intro m hm
  by_cases hml : m = l
  · subst hml
    exact .inl (hs.find?_self.trans ht.find?_self.symm)
  · rw [hs.find?_of_ne hml, ht.find?_of_ne hml]
    exact h m hm

/-- The files of two runs that come from one store. Both of them can write at a location, or none. -/
structure Parallel (base : Store) (K K' X S : Location → Prop) (C : Location) (s t : Store) :
    Prop where
  left : base.Grown K s
  right : base.Grown K' t
  alike : Alike X S s t
  writable : s.isWritable C = t.isWritable C

namespace Parallel

protected theorem symm (h : Parallel base K K' X S C s t) : Parallel base K' K X S C t s :=
  ⟨h.right, h.left, h.alike.symm, h.writable.symm⟩

theorem sets (h : Parallel base K K' X S C s t) (hs : Sets l n s s') (ht : Sets l n t t')
    (hs' : base.Grown K s') (ht' : base.Grown K' t') : Parallel base K K' X S C s' t' := by
  refine ⟨hs', ht', h.alike.sets hs ht, ?_⟩
  by_cases hC : C = l
  · subst hC
    exact isWritable_congr (hs.find?_self.trans ht.find?_self.symm)
  · rw [isWritable_congr (hs.find?_of_ne hC), isWritable_congr (ht.find?_of_ne hC), h.writable]

/-! ### What both stores do -/

/-- A folder is made in both stores, or in neither. Where it is there in one of them only, it is
made in the other. -/
theorem makeHere (h : Parallel base K K' X S C s t) (hX : ¬ X l) (hs : s.Hosts l) (ht : t.Hosts l)
    (name : String) : (s.makeHere l name).1 = (t.makeHere l name).1 ∧
      Parallel base K K' X S C (s.makeHere l name).2 (t.makeHere l name).2 := by
  have hmade : ∀ {u u' : Store} {J : Location → Prop}, base.Grown J u → u.Hosts l →
      (u.find? l = none ∨ u.find? l = some .directory) → Sets l (some .directory) u u' →
      base.Grown J u' := by
    intro u u' J hgrown hhosts hthere hset
    refine hgrown.sets hset (fun _ => rfl) ?_ fun _ => hhosts
    intro hJ hsome
    rw [← hgrown.kept hJ hsome]
    rw [← hgrown.kept hJ hsome] at hsome
    rcases hthere with hnone | hdir
    · rw [hnone] at hsome
      cases hsome
    · rw [hdir]
  unfold Store.makeHere
  split
  · exact ⟨rfl, h⟩
  · rcases h.alike l hX with hsame | ⟨_, hopen, ⟨hnone, hdir⟩ | ⟨hdir, hnone⟩⟩
    · rw [hsame]
      cases hthere : t.find? l with
      | none =>
          by_cases hopen : l.isLocked
          · simp only [if_pos hopen]
            exact ⟨trivial, h⟩
          · simp only [if_neg hopen]
            have hput := Sets.put (s := s) hopen .directory
            have hput' := Sets.put (s := t) hopen .directory
            exact ⟨trivial, h.sets hput hput' (hmade h.left hs (.inl (hsame.trans hthere)) hput)
              (hmade h.right ht (.inl hthere) hput')⟩
      | some n => cases n <;> exact ⟨rfl, h⟩
    · rw [hnone, hdir]
      simp only [if_neg hopen]
      have hput := Sets.put (s := s) hopen .directory
      exact ⟨trivial, h.sets hput (.of_find? hdir) (hmade h.left hs (.inl hnone) hput) h.right⟩
    · rw [hnone, hdir]
      simp only [if_neg hopen]
      have hput := Sets.put (s := t) hopen .directory
      exact ⟨trivial, h.sets (.of_find? hdir) hput h.left (hmade h.right ht (.inl hnone) hput)⟩

variable {B : String → Prop}

/-- A folder on a path is made in both stores, or fails for one cause. -/
theorem makeDirectories_of_fault (h : Parallel base K K' X S C s t)
    (hB : ∀ q, B q → base.Leads q) (hpath : Path.Descends B path)
    (hfault : path ≠ "" → Path.fault? path = none) (hX : ∀ m, m <+: Path.place path → ¬ X m) :
    (s.makeDirectories path).1 = (t.makeDirectories path).1 ∧
      Parallel base K K' X S C (s.makeDirectories path).2 (t.makeDirectories path).2 := by
  have hs : ∀ q, B q → s.Leads q := fun q hq => h.left.leads (hB q hq)
  have ht : ∀ q, B q → t.Leads q := fun q hq => h.right.leads (hB q hq)
  induction hpath with
  | here hbase =>
      rw [makeDirectories_of_furnished (furnished_of_leads (hs _ hbase) hfault),
        makeDirectories_of_furnished (furnished_of_leads (ht _ hbase) hfault)]
      exact ⟨rfl, h⟩
  | @step path parent name hbelow hplace hparent ih =>
      have hfault' := hfault hbelow.ne_empty
      have hfront : ∀ m, m <+: Path.place parent → ¬ X m := by
        intro m hm
        exact hX m (hplace ▸ hm.trans (List.prefix_append _ _))
      obtain ⟨hresult, hstores⟩ := ih (fault?_of_below hbelow hfault') hfront
      rw [makeDirectories_of_below h.left.housed hs hparent hbelow hfault',
        makeDirectories_of_below h.right.housed ht hparent hbelow hfault']
      have hleads : (s.makeDirectories parent).1 = .ok () →
          (s.makeDirectories parent).2.Furnished parent := furnished_of_makeDirectories
      have hleads' : (t.makeDirectories parent).1 = .ok () →
          (t.makeDirectories parent).2.Furnished parent := furnished_of_makeDirectories
      cases hmade : s.makeDirectories parent with
      | mk result s' =>
          cases hmade' : t.makeDirectories parent with
          | mk result' t' =>
              rw [hmade, hmade'] at hresult hstores
              rw [hmade] at hleads
              rw [hmade'] at hleads'
              dsimp only at hresult hstores hleads hleads'
              subst hresult
              cases result with
              | ok u =>
                  exact hstores.makeHere (hX _ List.prefix_rfl) ((hleads rfl).leads.hosts hplace)
                    ((hleads' rfl).leads.hosts hplace) name
              | error cause => cases cause <;> exact ⟨rfl, hstores⟩

theorem makeDirectories (h : Parallel base K K' X S C s t) (hB : ∀ q, B q → base.Leads q)
    (hparent : Path.Descends B parent) (hbelow : Path.Below parent path name)
    (hplace : Path.place path = Path.place parent ++ [name])
    (hX : ∀ m, m <+: Path.place path → ¬ X m) :
    (s.makeDirectories path).1 = (t.makeDirectories path).1 ∧
      Parallel base K K' X S C (s.makeDirectories path).2 (t.makeDirectories path).2 := by
  cases hfault : Path.fault? path with
  | none => exact h.makeDirectories_of_fault hB (.step hbelow hplace hparent) (fun _ => hfault) hX
  | some cause =>
      rw [Store.makeDirectories_of_fault hbelow hfault, Store.makeDirectories_of_fault hbelow hfault]
      exact ⟨rfl, h⟩

/-- What a path names in one store, it names in the other. -/
theorem node_of_node (h : Parallel base K K' X S C s t) (hB : ∀ q, B q → base.Leads q)
    (hpath : Path.Descends B path) (hX : ¬ X (Path.place path)) (hS : ¬ S (Path.place path))
    {node : Node} (hnode : s.node path = .ok node) : t.node path = .ok node := by
  obtain ⟨l, hl, hthere⟩ := node_eq_ok.mp hnode
  obtain rfl := locate_eq_ok hl
  have hthere' := (h.alike.find?_eq hX hS).symm.trans hthere
  obtain ⟨-, hlong⟩ := h.left.housed.walk_eq (fun q hq => h.left.leads (hB q hq)) hpath
    (by rw [hthere]; rfl)
  obtain ⟨hshort, -⟩ := h.right.housed.walk_eq (fun q hq => h.right.leads (hB q hq)) hpath
    (by rw [hthere']; rfl)
  refine node_eq_ok.mpr ⟨_, locateAlong_of_walk hl (hshort ?_), hthere'⟩
  by_contra hl'
  have hwalk := walk_of_locateAlong hl
  rw [hlong hl'] at hwalk
  cases hwalk

theorem contains_eq (h : Parallel base K K' X S C s t) (hB : ∀ q, B q → base.Leads q)
    (hpath : Path.Descends B path) (hX : ¬ X (Path.place path)) (hS : ¬ S (Path.place path)) :
    s.contains path = t.contains path := by
  rw [contains, contains]
  cases hs : s.node path with
  | ok node => rw [h.node_of_node hB hpath hX hS hs]
  | error cause =>
      cases ht : t.node path with
      | ok node =>
          rw [h.symm.node_of_node hB hpath hX hS ht] at hs
          cases hs
      | error cause' => rfl

/-- One location is changed in both stores, where no directory is lost. -/
theorem change (h : Parallel base K K' X S C s t) (hs : Sets l n s s') (ht : Sets l n t t')
    (hdir : s.find? l = some .directory → n = some .directory)
    (hdir' : t.find? l = some .directory → n = some .directory)
    (hK : ¬ K l) (hK' : ¬ K' l) (hhosts : s.Hosts l) (hhosts' : t.Hosts l) :
    Parallel base K K' X S C s' t' :=
  h.sets hs ht (h.left.sets hs hdir (fun hl => absurd hl hK) fun _ => hhosts)
    (h.right.sets ht hdir' (fun hl => absurd hl hK') fun _ => hhosts')

/-- Where something is written in one store, anything can be written in the other. -/
theorem exists_write (h : Parallel base K K' X S (Path.place path) s t)
    (hbelow : Path.Below parent path name) (hs : s.Leads parent) (ht : t.Leads parent)
    {content content' : ByteArray} (hcontent : content.isEmpty = false)
    (hcontent' : content'.isEmpty = false) (hwrite : s.write path content = .ok s') :
    ∃ t', t.write path content' = .ok t' := by
  obtain ⟨l, hl, hwrite⟩ := write_eq_ok.mp hwrite
  obtain rfl := locate_eq_ok (locate_of_locateNew hl)
  rw [hbelow.locateNew_of_leads hs, ← hbelow.locateNew_of_leads ht] at hl
  have hok : (t.writeAt (Path.place path) content').isOk := by
    rw [isOk_writeAt hcontent', ← h.writable, ← isOk_writeAt hcontent, hwrite]
    rfl
  cases hwrite' : t.writeAt (Path.place path) content' with
  | ok t' => exact ⟨t', write_eq_ok.mpr ⟨_, hl, hwrite'⟩⟩
  | error cause =>
      rw [hwrite'] at hok
      cases hok

section Entry

variable (h : Parallel base K K' X S C s t) (hbelow : Path.Below parent path name)
  (hplace : Path.place path = Path.place parent ++ [name]) (hs : s.Leads parent) (ht : t.Leads parent)
  (hX : ¬ X (Path.place path)) (hS : ¬ S (Path.place path)) (hK : ¬ K (Path.place path))
  (hK' : ¬ K' (Path.place path))

include h hbelow hplace hs ht hX hS hK hK'

/-- A file is written in both stores, or fails for one cause. -/
theorem write (content : ByteArray) :
    (∃ cause, s.write path content = .error cause ∧ t.write path content = .error cause) ∨
      ∃ s' t', s.write path content = .ok s' ∧ t.write path content = .ok t' ∧
        Parallel base K K' X S C s' t' := by
  have hsame := h.alike.find?_eq hX hS
  have hput : ∀ isProgram, ¬ (Path.place path).isLocked →
      t.find? (Path.place path) ≠ some .directory →
      Parallel base K K' X S C (s.put (Path.place path) (.file content isProgram))
        (t.put (Path.place path) (.file content isProgram)) := by
    intro isProgram hopen hdir
    exact h.change (.put hopen _) (.put hopen _) (fun hl => absurd (hsame.symm.trans hl) hdir)
      (fun hl => absurd hl hdir) hK hK' (hs.hosts hplace) (ht.hosts hplace)
  have hlocate : s.locateNew path = t.locateNew path :=
    (hbelow.locateNew_of_leads hs).trans (hbelow.locateNew_of_leads ht).symm
  rw [Store.write, Store.write, hlocate]
  cases hl : t.locateNew path with
  | error cause => exact .inl ⟨cause, rfl, rfl⟩
  | ok l =>
      obtain rfl := locate_eq_ok (locate_of_locateNew hl)
      simp only [bind, Except.bind, writeAt, hsame]
      have hfile : ∀ isProgram, t.find? (Path.place path) ≠ some .directory →
          let put (u : Store) : Except FileError Store :=
            if (Path.place path).isLocked then .error (Path.place path).writingError
            else .ok (u.put (Path.place path) (.file content isProgram))
          (∃ cause, put s = .error cause ∧ put t = .error cause) ∨
            ∃ s' t', put s = .ok s' ∧ put t = .ok t' ∧ Parallel base K K' X S C s' t' := by
        intro isProgram hdir
        by_cases hopen : (Path.place path).isLocked
        · simp only [if_pos hopen]
          exact .inl ⟨_, rfl, rfl⟩
        · simp only [if_neg hopen]
          exact .inr ⟨_, _, rfl, rfl, hput isProgram hopen hdir⟩
      cases hthere : t.find? (Path.place path) with
      | none => exact hfile false (by rw [hthere]; rintro ⟨⟩)
      | some node =>
          cases node with
          | directory => exact .inl ⟨_, rfl, rfl⟩
          | file old isProgram => exact hfile isProgram (by rw [hthere]; rintro ⟨⟩)
          | device d =>
              cases d with
              | void | stream => exact .inr ⟨s, t, rfl, rfl, h⟩
              | full =>
                  dsimp only
                  split
                  · exact .inr ⟨s, t, rfl, rfl, h⟩
                  · exact .inl ⟨_, rfl, rfl⟩

/-- A file is taken away from both stores, or fails to be for one cause. -/
theorem remove :
    (∃ cause, s.remove path = .error cause ∧ t.remove path = .error cause) ∨
      ∃ s' t', s.remove path = .ok s' ∧ t.remove path = .ok t' ∧
        Parallel base K K' X S C s' t' := by
  have hsame := h.alike.find?_eq hX hS
  have hlocate : s.locate path = t.locate path :=
    (hbelow.locate_of_leads hs).trans (hbelow.locate_of_leads ht).symm
  rw [Store.remove, Store.remove, hlocate]
  cases hl : t.locate path with
  | error cause => exact .inl ⟨cause, rfl, rfl⟩
  | ok l =>
      obtain rfl := locate_eq_ok hl
      simp only [bind, Except.bind, hsame]
      cases hthere : t.find? (Path.place path) with
      | none => exact .inl ⟨_, rfl, rfl⟩
      | some node =>
          cases node with
          | directory => exact .inl ⟨_, rfl, rfl⟩
          | device d => exact .inl ⟨_, rfl, rfl⟩
          | file old isProgram =>
              have hdir : t.find? (Path.place path) ≠ some .directory := by
                rw [hthere]
                rintro ⟨⟩
              by_cases hopen : (Path.place path).isLocked
              · simp only [if_pos hopen]
                exact .inl ⟨_, rfl, rfl⟩
              · simp only [if_neg hopen]
                exact .inr ⟨_, _, rfl, rfl, h.change (.erase hopen) (.erase hopen)
                  (fun hl => absurd (hsame.symm.trans hl) hdir) (fun hl => absurd hl hdir) hK hK'
                  (hs.hosts hplace) (ht.hosts hplace)⟩

end Entry

end Parallel

end Storyboard.Store
