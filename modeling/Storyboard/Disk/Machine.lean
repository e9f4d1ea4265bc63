import Storyboard.Disk.FileError
import Storyboard.Disk.Path

/-!
The machine around a working directory: the directories above it, and as much of the rest as every
machine has. What is known of it never changes.
-/

namespace Storyboard

/-- The names that lead from the working directory to a place. Two dots in front lead to the
directory above, a slash in front to the root of the machine. -/
abbrev Location := List String

inductive Device where
  /-- Holds nothing and swallows what is written to it. -/
  | void
  /-- Has no room for anything. -/
  | full
  /-- Leads to one of the streams that a program has been started with. -/
  | stream
deriving DecidableEq

inductive Node where
  | directory
  | file (content : ByteArray) (isProgram : Bool)
  | device (d : Device)

instance : DecidableEq Node
  | .directory, .directory => isTrue rfl
  | .device d, .device e =>
    if h : d = e then isTrue (by rw [h]) else isFalse fun f => h (by cases f; rfl)
  | .directory, .file .. => isFalse nofun
  | .directory, .device _ => isFalse nofun
  | .file .., .directory => isFalse nofun
  | .file .., .device _ => isFalse nofun
  | .device _, .directory => isFalse nofun
  | .device _, .file .. => isFalse nofun
  | .file c p, .file d q =>
    if h : c.data = d.data ∧ p = q then isTrue (by rw [ByteArray.ext h.1, h.2])
    else isFalse fun e => h (by cases e; exact ⟨rfl, rfl⟩)

/-! ### Known places -/

namespace Machine

/-- The names of the directories at the root. -/
def rootFolders : List String :=
  ["bin", "boot", "dev", "etc", "home", "lib", "media", "mnt", "opt", "proc", "root", "run", "sbin",
   "srv", "sys", "tmp", "usr", "var"]

/-- Directories further below, by the names that lead to them from the root. -/
def deepFolders : List (List String) :=
  [["dev", "fd"], ["dev", "shm"], ["proc", "self"], ["proc", "self", "fd"], ["usr", "bin"],
   ["usr", "include"], ["usr", "lib"], ["usr", "local"], ["usr", "local", "bin"], ["usr", "sbin"],
   ["usr", "share"], ["usr", "src"], ["var", "cache"], ["var", "lib"], ["var", "log"],
   ["var", "tmp"]]

/-- The directories at the root in which nothing can be made. -/
def closedFolders : List String :=
  ["proc", "sys"]

/-- The names of the programs that are installed. -/
def programs : List String :=
  ["bash", "cat", "dash", "env", "false", "sh", "tee", "true"]

/-- The directories in which programs are installed. -/
def programFolders : List (List String) :=
  [["bin"], ["usr", "bin"]]

/-- The content of an installed program, which is no text. -/
def programContent : ByteArray :=
  ⟨#[0x7f, 0x45, 0x4c, 0x46, 0xff]⟩

/-- The names that lead from the root to a standard stream, which is given by its number. -/
def streamPlaces : List (List String × Nat) :=
  [(["dev", "stdin"], 0), (["dev", "stdout"], 1), (["dev", "stderr"], 2), (["dev", "fd", "0"], 0),
   (["dev", "fd", "1"], 1), (["dev", "fd", "2"], 2), (["proc", "self", "fd", "0"], 0),
   (["proc", "self", "fd", "1"], 1), (["proc", "self", "fd", "2"], 2)]

def devices : List (List String × Device) :=
  [(["dev", "null"], .void), (["dev", "zero"], .void), (["dev", "full"], .full)]

/-- The home directories of the accounts. -/
def homes : List (String × String) :=
  [("root", "/root"), ("daemon", "/usr/sbin"), ("bin", "/bin"), ("sys", "/dev"), ("sync", "/bin"),
   ("games", "/usr/games"), ("man", "/var/cache/man"), ("lp", "/var/spool/lpd"),
   ("mail", "/var/mail"), ("news", "/var/spool/news"), ("uucp", "/var/spool/uucp"),
   ("proxy", "/bin"), ("www-data", "/var/www"), ("backup", "/var/backups"), ("list", "/var/list"),
   ("irc", "/run/ircd"), ("_apt", "/nonexistent"), ("nobody", "/nonexistent")]

/-- The installed program to which some names lead from the root. -/
def programAt? (names : List String) : Option String :=
  programs.find? fun name => programFolders.any fun folder => folder ++ [name] == names

/-- What stands where some names lead from the root. -/
def nodeAt? (names : List String) : Option Node :=
  match names with
  | [] => some .directory
  | [name] => if rootFolders.contains name then some .directory else none
  | names =>
    if deepFolders.contains names then some .directory
    else if (streamPlaces.lookup names).isSome then some (.device .stream)
    else
      match devices.lookup names with
      | some d => some (.device d)
      | none => (programAt? names).map fun _ => .file programContent true

end Machine

/-! ### Locations -/

namespace Location

def above : String := ".."

def root : String := "/"

/-- Whether a location is the working directory or lies straight above it. -/
def isAbove (l : Location) : Bool :=
  l.all (· == above)

/-- Whether a location counts from the root of the machine. -/
def isRooted (l : Location) : Bool :=
  l.head? == some root

/-- The location one step up; the root has nothing above it. -/
def up (l : Location) : Location :=
  if l = [root] then l else if l.isAbove then l ++ [above] else l.dropLast

/-- The locations that lead elsewhere: to the working directory and to the root. -/
def links : List (Location × Location) :=
  [([root, "proc", "self", "cwd"], []), ([root, "proc", "self", "root"], [root])]

/-- The location to which a name leads in a directory. -/
def child (l : Location) (name : String) : Location :=
  let next := l ++ [name]
  (links.lookup next).getD next

/-- Whether a location lies below the working directory. -/
def isWithin (l : Location) : Bool :=
  !(l.head? == some above || l.isRooted)

/-- What stands at a location whatever happens: the directories on the way to the working
directory, and what is known of the machine. -/
def fixed? (l : Location) : Option Node :=
  match l with
  | [] => some .directory
  | name :: rest =>
    if name = above then (if isAbove rest then some .directory else none)
    else if name = root then Machine.nodeAt? rest
    else none

/-- Whether nothing can be made or changed at a location. -/
def isLocked (l : Location) : Bool :=
  l.fixed?.isSome || Machine.closedFolders.any fun folder => [root, folder].isPrefixOf l

/-- Whether no new name is ever known where a location lies. -/
def isListed (l : Location) : Bool :=
  [root, "proc"].isPrefixOf l

/-- Why no directory can be made at a locked location. -/
def makingError (l : Location) : FileError :=
  if l.isListed then .missing else .forbidden

/-- Why a file at a locked location cannot be made or changed. -/
def writingError (l : Location) : FileError :=
  if l.isListed then .missing else .permission

/-- The standard stream to which a location leads. -/
def stream? (l : Location) : Option Nat :=
  match l with
  | [] => none
  | name :: rest => if name = root then Machine.streamPlaces.lookup rest else none

end Location

end Storyboard
