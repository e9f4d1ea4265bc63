import Storyboard.Program.Search
import Storyboard.Shell.Command.Basic

/-!
The commands that tell what a name stands for. Programs that were found along the search path are
kept by their names, until that path changes.
-/

namespace Storyboard.Shell

/-! ### Commands of the shell -/

/-- The commands that the shell does itself, apart from the special ones. -/
def regularCommands : List String :=
  ["[", "alias", "bg", "cd", "chdir", "command", "echo", "false", "fg", "getopts", "hash", "jobs",
   "kill", "printf", "pwd", "read", "test", "true", "type", "ulimit", "umask", "unalias", "wait"]

def isSpecialCommand (name : Octets) : Bool :=
  (Reader.specialCommands).any (·.toList = name)

def isCommand (name : Octets) : Bool :=
  isSpecialCommand name || regularCommands.any (·.toList = name)

/-! ### Programs -/

/-- Where programs are sought if the search path is not to count. -/
def standardPath : Octets :=
  "/usr/local/sbin:/usr/local/bin:/usr/sbin:/usr/bin:/sbin:/bin".toList

/-- The path of a program that is sought along some search path. -/
def searchProgram (sh : Shell) (path name : Octets) : Except FileError Octets :=
  if name.isEmpty then .error .permission
  else Program.search sh.surroundings sh.system.store path name

/-- Keeps where a program was found. -/
def keepProgram (sh : Shell) (name path : Octets) : Shell :=
  let program : FoundProgram := ⟨name, path, false⟩
  if sh.found.any (·.name = name) then
    { sh with found := sh.found.map fun f => if f.name = name then program else f }
  else { sh with found := sh.found ++ [program] }

def dropProgram (sh : Shell) (name : Octets) : Shell :=
  { sh with found := sh.found.filter (·.name != name) }

/-- Seeks a program along the search path of the shell, and keeps where it was found; one that was
found before is not sought again, unless the shell has gone to another folder. -/
def findProgram (sh : Shell) (name : Octets) : Except FileError Octets × Shell :=
  match sh.found.find? fun f => f.name = name && !f.isStale with
  | some f => (.ok f.path, sh)
  | none =>
    match searchProgram sh sh.searchPath name with
    | .ok path => (.ok path, if name.contains '/' then sh else sh.keepProgram name path)
    | .error cause => (.error cause, sh.dropProgram name)

/-! ### Meanings -/

/-- What a name stands for where a command begins. -/
inductive Meaning where
  | keyword
  /-- Another text. -/
  | replaced (text : Octets)
  | function
  | command (isSpecial : Bool)
  | program (path : Octets) (isKept : Bool)
  | nothing

/-- What a program is of which the path was sought; a path that is given must lead somewhere. -/
def Meaning.ofPath (sh : Shell) (name : Octets) : Except FileError Octets → Meaning
  | .error _ => .nothing
  | .ok path =>
    if name.contains '/' && (Program.installedAt? path).isNone
        && !sh.system.store.contains (sh.surroundings.path path) then .nothing
    else .program path false

/-- What a name stands for. With a search path of its own it counts for nothing what was kept. -/
def meaningOf (sh : Shell) (isStandard : Bool) (name : Octets) : Meaning × Shell :=
  if Token.keywords.any (·.toList = name) then (.keyword, sh)
  else if let some text := sh.aliases.lookup name then (.replaced text, sh)
  else if (sh.functions.lookup name).isSome then (.function, sh)
  else if isCommand name then (.command (isSpecialCommand name), sh)
  else if isStandard then (.ofPath sh name (searchProgram sh standardPath name), sh)
  else
    match sh.found.find? (·.name = name) with
    | some f => (.program f.path true, sh)
    | none =>
      let (path, sh) := sh.findProgram name
      (.ofPath sh name path, sh)

/-- The line that tells an alias. -/
def aliasLine (a : Octets × Octets) : Octets :=
  a.1 ++ '=' :: quoted a.2 ++ ['\n']

/-- A line that tells what a name stands for. -/
def Meaning.line (name : Octets) : Meaning → Octets
  | .keyword => name ++ Octets.ofText " is a shell keyword\n"
  | .replaced text => name ++ Octets.ofText " is an alias for " ++ text ++ ['\n']
  | .function => name ++ Octets.ofText " is a shell function\n"
  | .command true => name ++ Octets.ofText " is a special shell builtin\n"
  | .command false => name ++ Octets.ofText " is a shell builtin\n"
  | .program path false => name ++ Octets.ofText " is " ++ path ++ ['\n']
  | .program path true => name ++ Octets.ofText " is a tracked alias for " ++ path ++ ['\n']
  | .nothing => name ++ Octets.ofText ": not found\n"

/-- How a name is called. -/
def Meaning.call (name : Octets) : Meaning → Octets
  | .replaced text => Octets.ofText "alias " ++ aliasLine (name, text)
  | .program path _ => path ++ ['\n']
  | .nothing => []
  | _ => name ++ ['\n']

def Meaning.status : Meaning → Nat
  | .nothing => 127
  | _ => 0

/-! ### Commands -/

/-- Tells what some names stand for: the status, the lines, and the shell. -/
def describeEach : List Octets → Shell → Nat × Octets × Shell
  | [], sh => (0, [], sh)
  | name :: rest, sh =>
    let (m, sh) := sh.meaningOf false name
    let (status, lines, sh) := describeEach rest sh
    (max m.status status, m.line name ++ lines, sh)

/-- Tells what some names stand for. -/
def describe : Command := fun _ arguments sh =>
  let (status, lines, sh) := describeEach arguments sh
  ⟨.ok status, lines, sh⟩

/-- Tells what a name stands for, or how it is called. -/
def describeOne (isStandard isVerbose : Bool) (arguments : List Octets) (sh : Shell) : Outcome :=
  match arguments with
  | [] => sh.answers 0
  | name :: _ =>
    let (m, sh) := sh.meaningOf isStandard name
    ⟨.ok m.status, if isVerbose then m.line name else m.call name, sh⟩

/-- How many drawers there are for programs. -/
def programDrawers : Nat := 31

/-- The lines that tell where programs were found, with a sign for those to be sought anew. -/
def toldFound (sh : Shell) : Octets :=
  (byDrawer programDrawers (·.name) sh.found).flatMap fun f =>
    f.path ++ (if f.isStale then ['*', '\n'] else ['\n'])

/-- Seeks the programs of some names anew; the status tells whether one was not found. -/
def rememberEach : List Octets → Nat → Shell → Outcome
  | [], status, sh => sh.answers status
  | name :: rest, status, sh =>
    if (sh.functions.lookup name).isSome || isCommand name then rememberEach rest status sh
    else
      match (sh.dropProgram name).findProgram name with
      | (.ok _, sh) => rememberEach rest status sh
      | (.error cause, sh) =>
        let reason := match cause with
          | .missing | .notDirectory => "not found"
          | cause => cause.reason
        rememberEach rest 1 (sh.complain (name ++ Octets.ofText (": " ++ reason)))

/-- Seeks programs anew, tells where they were found, or forgets it. -/
def rememberPrograms : Command := fun _ arguments sh =>
  withOptions ['r'] [] arguments sh fun given names =>
    if !given.isEmpty then answers { sh with found := [] } 0
    else if names.isEmpty then sh.prints (toldFound sh)
    else rememberEach names 0 sh

end Storyboard.Shell
