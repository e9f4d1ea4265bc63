import Storyboard.Program.Status
import Storyboard.Program.Stream
import Storyboard.Text.Octet

/-!
Programs that are called with arguments and a standard input, change files, and end with a status;
and the processes in which they run, which are given open streams.
-/

namespace Storyboard

structure ProgramCall where
  program : String
  arguments : List String
  input : ByteArray

structure ProgramResult where
  status : ExitStatus
  output : ByteArray
  complaint : ByteArray
  /-- How many bytes of the input were left unread. -/
  unread : Nat

/-- How programs run: a call either does not start, or ends with a result; both may leave other
files behind. -/
abbrev RunsPrograms := ProgramCall → Store → Except FileError ProgramResult × Store

/-- A bound on what a process may use, for now and for good; without a number there is none. -/
structure Limit where
  soft : Option Nat
  hard : Option Nat

namespace Limit

/-- The limit with another bound: for now, for good, or both. -/
def bounded (l : Limit) (isSoft isHard : Bool) (bound : Option Nat) : Limit :=
  ⟨if isSoft then bound else l.soft, if isHard then bound else l.hard⟩

/-- Whether no more is allowed now than for good. -/
def isConsistent (l : Limit) : Bool :=
  match l.soft, l.hard with
  | some m, some n => m ≤ n
  | none, some _ => false
  | _, none => true

end Limit

/-- What a program finds around it. -/
structure Process where
  environment : List (Octets × Octets)
  descriptors : Descriptors
  /-- Where the paths that it names begin. -/
  folder : Location
  /-- The number of the process that has started it. -/
  parent : Nat
  /-- The rights that are kept from the files it makes. -/
  mask : Nat
  /-- The limits that it has, by their letters. -/
  limits : List (Char × Limit)
  /-- The signals that are ignored whatever it arranges. -/
  ignored : List Nat

/-- How a program is started by its path, the name by which it is called, and its arguments. -/
abbrev Launch :=
  (path called : Octets) → List Octets → Process → System → Except FileError ExitStatus × System

namespace Process

/-- The name by which programs know the working directory. -/
def home : String := "/work"

/-- The text of a path that the process names, as seen from the working directory. -/
def path (p : Process) (name : Octets) : String :=
  let text := Octets.toText name
  if Path.isAbsolute text then
    if text = home then "."
    else if (home.toList ++ ['/']).isPrefixOf text.toList then
      "." ++ String.ofList (text.toList.drop home.length)
    else text
  else if p.folder.isEmpty || text.isEmpty then text
  else "/".intercalate p.folder ++ "/" ++ text

/-- The value of a variable of the environment. -/
def setting? (p : Process) (name : String) : Option Octets :=
  p.environment.lookup name.toList

/-- The paths that name descriptors, and which. -/
def devices : List (String × Nat) :=
  [("/dev/stdin", 0), ("/dev/stdout", 1), ("/dev/stderr", 2), ("/dev/fd/0", 0), ("/dev/fd/1", 1),
   ("/dev/fd/2", 2), ("/proc/self/fd/0", 0), ("/proc/self/fd/1", 1), ("/proc/self/fd/2", 2)]

/-- The stream behind a path that names a descriptor of the process. -/
def device? (p : Process) (name : Octets) : Option Nat :=
  (devices.lookup (Octets.toText name)).bind fun d => p.descriptors.lookup d

def openToRead (p : Process) (name : Octets) (s : System) : Except FileError Nat × System :=
  match p.device? name with
  | some stream => (.ok stream, s)
  | none =>
    match s.openToRead (p.path name) with
    | .ok content =>
      let (stream, s) := s.addStream content
      (.ok stream, s)
    | .error cause => (.error cause, s)

def openToWrite (p : Process) (name : Octets) (access : Access) (empties : Bool) (s : System) :
    Except FileError Nat × System :=
  match p.device? name with
  | some stream => (.ok stream, s)
  | none =>
    match s.openToWrite (p.path name) access empties with
    | .ok (content, s) =>
      let (stream, s) := s.addStream content
      (.ok stream, s)
    | .error cause => (.error cause, s)

/-- Writes to a descriptor. -/
def write (p : Process) (descriptor : Nat) (bytes : ByteArray) (s : System) :
    Except FileError Unit × System :=
  match p.descriptors.lookup descriptor with
  | some stream => s.write stream bytes
  | none => (.error .badDescriptor, s)

/-- Writes a text to the standard error, if that is open. -/
def complain (p : Process) (text : Octets) (s : System) : System :=
  (p.write 2 (Octets.toBytes text) s).2

/-- Reads from a descriptor to its end. -/
def readAll (p : Process) (descriptor : Nat) (s : System) : Except FileError ByteArray × System :=
  match p.descriptors.lookup descriptor with
  | some stream => s.read stream none
  | none => (.error .badDescriptor, s)

end Process

end Storyboard
