import Storyboard.Disk.Store
import Storyboard.Error
import Storyboard.Text.Case

/-!
Folders of scripts. A script is a file whose name has the extension of scripts in any case; scripts
are taken in the order of their names, whatever order the directory lists them in. Each is looked at
under its path, which must not be longer than the system takes. Names are texts here: a name whose
bytes are no valid UTF-8 has no counterpart, and so the case that an extension is no text does not
come up.
-/

namespace Storyboard.Script

def extension : List Char :=
  "timeline".toList

/-- Whether an entry of a directory is a script. -/
def isScript : String × Node → Bool
  | (name, .file ..) => (Path.extensionOfName? name.toList).any (Text.sameWord extension)
  | (_, .directory) | (_, .device _) => false

def nameBefore (a b : String) : Bool :=
  !(b < a : Bool)

/-- The names of the scripts among the entries of a directory, sorted. -/
def select (entries : List (String × Node)) : List String :=
  ((entries.filter isScript).map (·.1)).mergeSort nameBefore

def isReachable (path : String) : Bool :=
  path.utf8ByteSize ≤ Store.pathLimit

/-- The paths of the scripts in a directory. -/
def discover (s : Store) (directory : String) : Except Error (List String) :=
  match s.locate directory with
  | .error _ => .error (.noScriptDirectory directory)
  | .ok here =>
    match s.find? here with
    | some .directory =>
      .ok (((select (s.children here)).map (Path.join directory)).filter isReachable)
    | _ => .error (.noScriptDirectory directory)

end Storyboard.Script
