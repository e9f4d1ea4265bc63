import Storyboard.Disk.Store

/-!
Streams: what programs read from and write to. A system is the files together with the streams that
were opened; programs name streams by descriptors, and several descriptors may share one stream,
with the place that its reading and writing has reached.
-/

namespace Storyboard

/-- What may be done with an open file. -/
structure Access where
  reads : Bool
  writes : Bool
  /-- Whether all that is written goes to the end. -/
  appends : Bool
deriving DecidableEq

namespace Access

def reading : Access := ⟨true, false, false⟩

def writing : Access := ⟨false, true, false⟩

def appending : Access := ⟨false, true, true⟩

end Access

inductive Stream where
  /-- Bytes that can be read once, from the first unread one on. -/
  | source (content : ByteArray) (offset : Nat)
  /-- Gathers what is written. -/
  | gathering (content : ByteArray)
  | file (place : Location) (offset : Nat) (access : Access)
  | directory
  | device (d : Device)

/-- The descriptors of a program, with the numbers of their streams. -/
abbrev Descriptors := List (Nat × Nat)

namespace Descriptors

def close (d : Descriptors) (descriptor : Nat) : Descriptors :=
  d.filter (·.1 != descriptor)

def set (d : Descriptors) (descriptor stream : Nat) : Descriptors :=
  (descriptor, stream) :: d.close descriptor

end Descriptors

structure System where
  store : Store
  streams : List Stream
  /-- How many processes there have been. -/
  processes : Nat
  /-- Signals on their way, each with the process that they go to. -/
  signals : List (Nat × Nat)

namespace System

def stream? (s : System) (stream : Nat) : Option Stream :=
  s.streams[stream]?

def setStream (s : System) (stream : Nat) (content : Stream) : System :=
  { s with streams := s.streams.set stream content }

/-- Adds a stream; the result is its number. -/
def addStream (s : System) (content : Stream) : Nat × System :=
  (s.streams.length, { s with streams := s.streams ++ [content] })

/-- Adds a process; the result is its number. -/
def addProcess (s : System) : Nat × System :=
  (s.processes + 1, { s with processes := s.processes + 1 })

/-! ### Writing -/

def zeros (count : Nat) : ByteArray :=
  ⟨Array.replicate count 0⟩

/-- Bytes with others written over them from an offset on. -/
def overwritten (content : ByteArray) (offset : Nat) (bytes : ByteArray) : ByteArray :=
  content.extract 0 offset ++ zeros (offset - content.size) ++ bytes
    ++ content.extract (offset + bytes.size) content.size

/-- Writes to an open file; what is written to one that was taken away is lost. -/
def writeFile (s : System) (stream : Nat) (place : Location) (offset : Nat) (access : Access)
    (bytes : ByteArray) : System :=
  match s.store.find? place with
  | some (.file content isProgram) =>
    let offset := if access.appends then content.size else offset
    let store := s.store.put place (.file (overwritten content offset bytes) isProgram)
    { s with store }.setStream stream (.file place (offset + bytes.size) access)
  | _ => s

def write (s : System) (stream : Nat) (bytes : ByteArray) : Except FileError Unit × System :=
  match s.stream? stream with
  | some (.gathering content) => (.ok (), s.setStream stream (.gathering (content ++ bytes)))
  | some (.file place offset access) =>
    if access.writes then (.ok (), s.writeFile stream place offset access bytes)
    else (.error .badDescriptor, s)
  | some (.device .full) => if bytes.isEmpty then (.ok (), s) else (.error .noSpace, s)
  | some (.device _) => (.ok (), s)
  | some (.source ..) | some .directory | none => (.error .badDescriptor, s)

/-! ### Reading -/

/-- The bytes from an offset on, as many as are asked for. -/
def portion (content : ByteArray) (offset : Nat) (limit : Option Nat) : ByteArray :=
  content.extract offset ((limit.map (offset + ·)).getD content.size)

/-- Reads from a stream, up to a limit or to its end. -/
def read (s : System) (stream : Nat) (limit : Option Nat) : Except FileError ByteArray × System :=
  match s.stream? stream with
  | some (.source content offset) =>
    let bytes := portion content offset limit
    (.ok bytes, s.setStream stream (.source content (offset + bytes.size)))
  | some (.file place offset access) =>
    if access.reads then
      match s.store.find? place with
      | some (.file content _) =>
        let bytes := portion content offset limit
        (.ok bytes, s.setStream stream (.file place (offset + bytes.size) access))
      | _ => (.ok .empty, s)
    else (.error .badDescriptor, s)
  | some (.device _) => (.ok .empty, s)
  | some .directory => (.error .isDirectory, s)
  | some (.gathering _) | none => (.error .badDescriptor, s)

/-- What a stream has gathered. -/
def gathered (s : System) (stream : Nat) : ByteArray :=
  match s.stream? stream with
  | some (.gathering content) => content
  | _ => .empty

/-- How many bytes of a source nobody has read. -/
def unread (s : System) (stream : Nat) : Nat :=
  match s.stream? stream with
  | some (.source content offset) => content.size - offset
  | _ => 0

/-! ### Opening -/

/-- Opens what a path names for reading. -/
def openToRead (s : System) (path : String) : Except FileError Stream := do
  let l ← s.store.locate path
  match s.store.find? l with
  | some (.file ..) => .ok (.file l 0 .reading)
  | some .directory => .ok .directory
  | some (.device d) => .ok (.device d)
  | none => .error .missing

/-- Opens a file for writing; one that is missing is made, one that is there may be emptied. -/
def openToWrite (s : System) (path : String) (access : Access) (empties : Bool) :
    Except FileError (Stream × System) := do
  let l ← s.store.locateNew path
  match s.store.find? l with
  | some .directory => .error .isDirectory
  | some (.device d) => .ok (.device d, s)
  | some (.file ..) =>
    if empties then .ok (.file l 0 access, { s with store := ← s.store.writeAt l .empty })
    else .ok (.file l 0 access, s)
  | none => .ok (.file l 0 access, { s with store := ← s.store.writeAt l .empty })

end System

end Storyboard
