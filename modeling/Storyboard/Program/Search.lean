import Storyboard.Program.Basic

/-!
Where programs are found: those that are installed, and files that may be run, in the folders of the
search path.
-/

namespace Storyboard.Program

/-- The path of the shell. -/
def shellPath : Octets :=
  "/bin/sh".toList

/-- The name of the installed program that a path leads to. -/
def installedAt? (path : Octets) : Option String :=
  match Path.pieces path with
  | [] :: rest =>
    if rest.getLast?.any Path.isIdle then none
    else Machine.programAt? ((rest.filter fun piece => !Path.isIdle piece).map String.ofList)
  | _ => none

/-- The search path of a process that has not set one. -/
def standardPath : Octets :=
  "/bin:/usr/bin".toList

/-- The folders of a search path. -/
def folders (path : Octets) : List Octets :=
  let (folder, others) := path.foldr (fun c (folder, others) =>
    if c = ':' then ([], folder :: others) else (c :: folder, others)) ([], [])
  folder :: others

/-- The path of a name in a folder; no folder stands for the working directory. -/
def under (folder name : Octets) : Octets :=
  if folder.isEmpty then name else folder ++ '/' :: name

/-- Whether a path leads to a program. -/
def standing (p : Process) (s : Store) (path : Octets) : Except FileError Unit :=
  if (installedAt? path).isSome then .ok ()
  else
    match s.node (p.path path) with
    | .ok (.file _ true) => .ok ()
    | .ok _ => .error .permission
    | .error cause => .error cause

/-- The first program of a name in some folders. What is there but cannot be run is passed over, and
told where nothing else is found. -/
def searchIn (p : Process) (s : Store) (name : Octets) : List Octets → Except FileError Octets
  | [] => .error .missing
  | folder :: rest =>
    let path := under folder name
    match standing p s path with
    | .ok () => .ok path
    | .error cause =>
      match searchIn p s name rest with
      | .error .missing => .error (if cause = .permission then .permission else .missing)
      | found => found

/-- The path of the program that a name stands for; a name with a slash is a path itself, and no
name stands for nothing. -/
def search (p : Process) (s : Store) (path name : Octets) : Except FileError Octets :=
  if name.isEmpty then .error .missing
  else if name.contains '/' then .ok name
  else searchIn p s name (folders path)

end Storyboard.Program
