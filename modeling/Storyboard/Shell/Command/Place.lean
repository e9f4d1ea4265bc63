import Storyboard.Program.Search
import Storyboard.Shell.Command.Variable

/-!
The commands that change or tell the folder of the shell.
-/

namespace Storyboard.Shell

/-! ### Folders -/

/-- The path of the folder in which the shell is. -/
def folderText (l : Location) : Octets :=
  let home := Octets.ofText Process.home
  match l with
  | [] => home
  | name :: rest =>
    let below (names : List String) : Octets :=
      names.flatMap fun n => '/' :: Octets.ofText n
    if name = Location.root then (if rest.isEmpty then ['/'] else below rest)
    else if name = Location.above then ['/']
    else home ++ below l

/-- The location to which a path leads by its pieces alone. -/
def plainLocation (path : String) : Location :=
  (Path.pieces path.toList).foldl (fun l piece =>
    if Path.isIdle piece then l
    else if piece = ['.', '.'] then l.up
    else l ++ [String.ofList piece]) (Store.startOf path)

/-- The location to which a path leads from a process by its pieces alone. -/
def locationFrom (p : Process) (path : Octets) : Location :=
  plainLocation (p.path (if path.isEmpty then ['.'] else path))

/-- Goes to a folder, if there is one; the variables for it and for the one before follow. -/
def enter (name : Octets) (printsPath : Bool) (sh : Shell) : Outcome :=
  let l := locationFrom sh.surroundings name
  if sh.system.store.find? l = some .directory then
    let path := folderText l
    let set (sh : Shell) (name value : Octets) : Shell :=
      ((sh.assign name value true).toOption).getD sh
    let old := folderText sh.folder
    let found := sh.found.map fun f => { f with isStale := true }
    let after := set (set { sh with folder := l, found } "OLDPWD".toList old) "PWD".toList path
    after.prints (if printsPath then path ++ ['\n'] else [])
  else sh.refuses (Octets.ofText "can't cd to " ++ name)

/-- Whether a path is taken from the root or from where the shell is, and is not sought. -/
def isAnchored (path : Octets) : Bool :=
  path.head? = some '/' || [".", ".."].any fun name => name.toList = path.takeWhile (· != '/')

/-- Goes to a folder that may be sought in others, which `CDPATH` names. If it is found in a folder
with a name, its path is told. -/
def seek (name : Octets) (printsPath : Bool) (sh : Shell) : Outcome :=
  let places := if isAnchored name then none else sh.value? "CDPATH".toList
  let found := (Program.folders (places.getD [])).find? fun folder =>
    let l := locationFrom sh.surroundings (Program.under folder name)
    sh.system.store.find? l = some .directory
  match places.bind fun _ => found with
  | some folder => enter (Program.under folder name) (printsPath || !folder.isEmpty) sh
  | none => enter name printsPath sh

/-- Goes to a folder: without a name to the one of `HOME`, for a dash to the one before. -/
def changeFolder : Command := fun _ arguments sh =>
  withOptions ['L', 'P'] [] arguments sh fun _ arguments =>
    match arguments with
    | [] => seek ((sh.value? "HOME".toList).getD []) false sh
    | ['-'] :: _ => seek ((sh.value? "OLDPWD".toList).getD []) true sh
    | name :: _ => seek name false sh

def tellFolder : Command := fun _ arguments sh =>
  withOptions ['L', 'P'] [] arguments sh fun _ _ => sh.prints (folderText sh.folder ++ ['\n'])

end Storyboard.Shell
