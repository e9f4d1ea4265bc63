import Storyboard.Disk.FileError
import Storyboard.Disk.Machine

/-!
Stores: the files and directories below a working directory, and what was made around it. What
stands at a location is read through `find?`; every other question about a path first walks to its
location, step by step through directories. The change of one entry can fail because of what stands
where, and then it changes nothing; and it can meet with a mishap of the device that holds the files,
and then what was done before stays.
-/

namespace Storyboard

structure Store where
  entries : List (Location × Node)
  nodup : (entries.map (·.1)).Nodup

namespace Store

def empty : Store := ⟨[], List.nodup_nil⟩

/-! ### Entries -/

def lookup : List (Location × Node) → Location → Option Node
  | [], _ => none
  | (place, node) :: rest, l => if place = l then some node else lookup rest l

/-- The entries with one of them put in its place, or at the end. -/
def replace : List (Location × Node) → Location → Node → List (Location × Node)
  | [], l, node => [(l, node)]
  | (place, old) :: rest, l, node =>
    if place = l then (l, node) :: rest else (place, old) :: replace rest l node

theorem lookup_replace (entries : List (Location × Node)) (l m : Location) (node : Node) :
    lookup (replace entries l node) m = if l = m then some node else lookup entries m := by
  induction entries with
  | nil => rfl
  | cons e rest ih =>
    obtain ⟨place, old⟩ := e
    by_cases h : place = l
    · subst h
      by_cases hm : place = m <;> simp [replace, lookup, hm]
    · have h' : ¬l = place := fun e => h e.symm
      by_cases hm : place = m
      · subst hm
        simp [replace, lookup, h, h']
      · simp [replace, lookup, h, hm, ih]

theorem replace_eq_self {entries : List (Location × Node)} {l : Location} {node : Node}
    (h : lookup entries l = some node) : replace entries l node = entries := by
  induction entries with
  | nil => simp [lookup] at h
  | cons e rest ih =>
    obtain ⟨place, old⟩ := e
    by_cases hp : place = l
    · simp_all [replace, lookup]
    · simp_all [replace, lookup]

theorem mem_places_replace {entries : List (Location × Node)} {l m : Location} {node : Node} :
    m ∈ (replace entries l node).map (·.1) ↔ m = l ∨ m ∈ entries.map (·.1) := by
  induction entries with
  | nil => simp [replace]
  | cons e rest ih =>
    obtain ⟨place, old⟩ := e
    by_cases hp : place = l
    · simp [replace, hp]
    · simp only [replace, hp, if_false, List.map_cons, List.mem_cons, ih]
      grind

theorem nodup_replace {entries : List (Location × Node)} (h : (entries.map (·.1)).Nodup)
    (l : Location) (node : Node) : ((replace entries l node).map (·.1)).Nodup := by
  induction entries with
  | nil => simp [replace]
  | cons e rest ih =>
    obtain ⟨place, old⟩ := e
    simp only [List.map_cons, List.nodup_cons] at h
    by_cases hp : place = l
    · subst hp
      simpa [replace] using h
    · simp only [replace, hp, if_false, List.map_cons, List.nodup_cons, mem_places_replace]
      exact ⟨by simpa [hp] using h.1, ih h.2⟩

theorem lookup_filter (entries : List (Location × Node)) (keep : Location → Bool) (m : Location) :
    lookup (entries.filter fun e => keep e.1) m = if keep m then lookup entries m else none := by
  induction entries with
  | nil => simp [lookup]
  | cons e rest ih =>
    obtain ⟨place, old⟩ := e
    by_cases hp : place = m
    · subst hp
      cases hk : keep place <;> simp_all [lookup]
    · cases hk : keep place <;> simp_all [lookup]

/-! ### The view and the changes -/

/-- What stands at a location. -/
def find? (s : Store) (l : Location) : Option Node :=
  match l.fixed? with
  | some node => some node
  | none => lookup s.entries l

/-- Puts a node at a location. -/
def put (s : Store) (l : Location) (node : Node) : Store :=
  ⟨replace s.entries l node, nodup_replace s.nodup l node⟩

/-- Keeps what stands at some locations. -/
def keep (s : Store) (keeps : Location → Bool) : Store :=
  ⟨s.entries.filter fun e => keeps e.1,
    s.nodup.sublist (List.filter_sublist.map _)⟩

def erase (s : Store) (l : Location) : Store :=
  s.keep fun m => !(m == l)

/-- Takes away a location and everything below it. -/
def eraseTree (s : Store) (l : Location) : Store :=
  s.keep fun m => !l.isPrefixOf m

@[simp] theorem find?_put (s : Store) {l : Location} (hl : l.fixed? = none) (m : Location)
    (node : Node) : (s.put l node).find? m = if l = m then some node else s.find? m := by
  by_cases e : l = m
  · subst e
    simp [find?, put, hl, lookup_replace]
  · cases hm : m.fixed? <;> simp [find?, put, hm, e, lookup_replace]

@[simp] theorem find?_erase (s : Store) {l : Location} (hl : l.fixed? = none) (m : Location) :
    (s.erase l).find? m = if l = m then none else s.find? m := by
  have h := lookup_filter s.entries (fun m => !(m == l)) m
  by_cases e : l = m
  · subst e
    simpa [find?, erase, keep, hl] using h
  · have e' : ¬ m = l := fun x => e x.symm
    cases hm : m.fixed? with
    | some node => simp [find?, hm, e]
    | none => simpa [find?, erase, keep, hm, e, e'] using h

/-- A node put where it stands changes nothing. -/
theorem put_eq_self {s : Store} {l : Location} {node : Node} (hl : l.fixed? = none)
    (h : s.find? l = some node) : s.put l node = s := by
  have h' : lookup s.entries l = some node := by simpa [find?, hl] using h
  simp [put, replace_eq_self h']

/-! ### Walking along a path -/

/-- The greatest length of a name, in bytes. -/
def nameLimit : Nat := 255

/-- The greatest length of a path, in bytes. -/
def pathLimit : Nat := 4095

/-- The location to which some pieces lead; every step but the last ends in a directory. -/
def walk (s : Store) : Location → List (List Char) → Except FileError Location
  | here, [] => .ok here
  | here, piece :: rest =>
    match s.find? here with
    | none => .error .missing
    | some (.file ..) | some (.device _) => .error .notDirectory
    | some .directory =>
      if Path.isIdle piece then walk s here rest
      else if piece = ['.', '.'] then walk s (Location.up here) rest
      else if (String.ofList piece).utf8ByteSize > nameLimit then .error .nameTooLong
      else walk s (here.child (String.ofList piece)) rest

/-- Where a walk along a path begins. -/
def startOf (path : String) : Location :=
  if Path.isAbsolute path then [Location.root] else []

/-- Walks along some pieces of a path, which must be one that the system takes. -/
def locateAlong (s : Store) (path : String) (pieces : List (List Char)) :
    Except FileError Location :=
  if '\x00' ∈ path.toList then .error .nullInName
  else if path.utf8ByteSize > pathLimit then .error .nameTooLong
  else if path.isEmpty then .error .missing
  else s.walk (startOf path) pieces

/-- The location that a path names. -/
def locate (s : Store) (path : String) : Except FileError Location :=
  s.locateAlong path (Path.pieces path.toList)

/-- The location of a file that is to be made where a path says. -/
def locateNew (s : Store) (path : String) : Except FileError Location := do
  let l ← s.locateAlong path (Path.dropSlashes (Path.pieces path.toList))
  if Path.endsWithSlash path then .error .isDirectory else .ok l

/-! ### Reading -/

/-- What a path names. -/
def node (s : Store) (path : String) : Except FileError Node := do
  match s.find? (← s.locate path) with
  | some node => .ok node
  | none => .error .missing

def contains (s : Store) (path : String) : Bool :=
  (s.node path).isOk

def isDirectory (s : Store) (path : String) : Bool :=
  match s.node path with
  | .ok .directory => true
  | _ => false

def read (s : Store) (path : String) : Except FileError ByteArray := do
  match ← s.node path with
  | .directory => .error .isDirectory
  | .file content _ => .ok content
  | .device _ => .ok .empty

def readText (s : Store) (path : String) : Except FileError String := do
  match String.fromUTF8? (← s.read path) with
  | some text => .ok text
  | none => .error .notText

/-- The names in a directory, with what they stand for. -/
def children (s : Store) (here : Location) : List (String × Node) :=
  s.entries.filterMap fun (l, node) =>
    match l.getLast? with
    | some name => if l.dropLast = here then some (name, node) else none
    | none => none

/-- All files below the working directory, as pairs of location and content. -/
def files (s : Store) : List (Location × ByteArray) :=
  s.entries.filterMap fun (l, node) =>
    match node with
    | .file content _ => if l.isWithin then some (l, content) else none
    | .directory | .device _ => none

/-! ### Writing -/

/-- Writes the file at a location anew; a program stays one. -/
def writeAt (s : Store) (l : Location) (content : ByteArray) : Except FileError Store :=
  match s.find? l with
  | some .directory => .error .isDirectory
  | some (.device .full) => if content.isEmpty then .ok s else .error .noSpace
  | some (.device _) => .ok s
  | some (.file _ isProgram) =>
    if l.isLocked then .error l.writingError else .ok (s.put l (.file content isProgram))
  | none => if l.isLocked then .error l.writingError else .ok (s.put l (.file content false))

/-- Writes a file anew. -/
def write (s : Store) (path : String) (content : ByteArray) : Except FileError Store := do
  s.writeAt (← s.locateNew path) content

def writeText (s : Store) (path text : String) : Except FileError Store :=
  s.write path text.toUTF8

def remove (s : Store) (path : String) : Except FileError Store := do
  let l ← s.locate path
  match s.find? l with
  | some .directory => .error .isDirectory
  | some (.device _) => .error .permission
  | some (.file ..) => if l.isLocked then .error .permission else .ok (s.erase l)
  | none => .error .missing

/-- Makes a directory in one that is there already. -/
def makeDirectory (s : Store) (path : String) : Except FileError Store := do
  let steps := Path.dropSlashes (Path.pieces path.toList)
  let l ← s.locateAlong path steps
  let isStep := steps.getLast?.any fun piece => !(Path.isIdle piece || piece = ['.', '.'])
  if !isStep || (s.find? l).isSome then .error .taken
  else if l.isLocked then .error l.makingError
  else .ok (s.put l .directory)

/-- Makes some directories, one after the other; one that is there already is left as it is. Those
made before a failure stay. -/
def makeEach (s : Store) : List String → Except FileError Unit × Store
  | [] => (.ok (), s)
  | path :: rest =>
    match s.makeDirectory path with
    | .ok s => makeEach s rest
    | .error cause =>
      if cause = .taken && s.isDirectory path then makeEach s rest else (.error cause, s)

/-- Makes the first directory that can be made among some paths that each lie in the next one, and
then those in it, from the outside in; `inner` are the paths passed over so far. -/
def makeAmong (s : Store) (inner : List String) : List String → Except FileError Unit × Store
  | [] => s.makeEach inner
  | path :: outer =>
    match s.makeDirectory path with
    | .ok s => s.makeEach inner
    | .error .missing => makeAmong s (path :: inner) outer
    | .error cause =>
      if cause = .taken && s.isDirectory path then s.makeEach inner else (.error cause, s)

/-- Makes a directory and those that it lies in, where they are missing. -/
def makeDirectories (s : Store) (path : String) : Except FileError Unit × Store :=
  s.makeAmong [] (Path.lineage path)

end Store

/-! ### Mishaps -/

/-- A failure of the device that holds the files, such as that it is full. -/
structure Mishap where
  cause : FileError
  /-- How far a change has come by then: how many bytes of a file are written or how many directories
  are made, if the change has begun at all. -/
  progress : Option Nat

namespace Store

/-- Writes a file anew, unless there is a mishap. Where the file has been opened, it has been emptied,
and the bytes that were written stay. -/
def writeAmid (s : Store) (path : String) (content : ByteArray) :
    Option Mishap → Except FileError Unit × Store
  | none =>
    match s.write path content with
    | .ok s => (.ok (), s)
    | .error cause => (.error cause, s)
  | some ⟨cause, none⟩ => (.error cause, s)
  | some ⟨cause, some n⟩ =>
    match s.write path (content.extract 0 n) with
    | .ok s => (.error cause, s)
    | .error cause => (.error cause, s)

/-- Makes a directory and those that it lies in, unless there is a mishap. Those made before it, from
the outside in, stay. -/
def makeDirectoriesAmid (s : Store) (path : String) :
    Option Mishap → Except FileError Unit × Store
  | none => s.makeDirectories path
  | some ⟨cause, progress⟩ =>
    match s.makeEach ((Path.lineage path).reverse.take (progress.getD 0)) with
    | (.ok (), s) => (.error cause, s)
    | (.error cause, s) => (.error cause, s)

/-- Takes a file away, unless there is a mishap. -/
def removeAmid (s : Store) (path : String) : Option Mishap → Except FileError Store
  | none => s.remove path
  | some mishap => .error mishap.cause

end Store

end Storyboard
