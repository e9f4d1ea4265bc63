import Storyboard.Disk.Path
import Storyboard.Disk.Store
import Storyboard.Error
import Storyboard.Recording.Length
import Storyboard.Text.Blank
import Storyboard.Text.Search
import Storyboard.Timing.Plan

/-!
Folders of recordings. The path of a recording is local to a root directory, below which its text is
read: it is a list of names, with a leading slash for the root and a backslash for a slash; empty
names and single dots are left out. Paths that lead upwards or to another host are refused.
-/

namespace Storyboard

namespace LocalPath

/-- The text without blanks at its ends and with slashes for backslashes. -/
def slashed (s : List Char) : List Char :=
  (Text.trim s).map fun c => if c = '\\' then '/' else c

/-- Whether a text names another host. -/
def isRemote (s : List Char) : Bool :=
  ['/', '/'].isPrefixOf s || Text.contains [':', '/', '/'] s

/-- The names on the path that a source gives. -/
def segments (source : String) : Except Error (List String) :=
  let s := slashed source.toList
  if s.isEmpty then .error .emptyPath
  else if isRemote s then .error (.remotePath source)
  else
    let names := (Path.pieces s).filter fun piece => !Path.isIdle piece
    if ['.', '.'] ∈ names then .error .escapingPath
    else if names.isEmpty then .error .namelessPath
    else .ok (names.map String.ofList)

/-- Names with slashes between them. -/
def join (names : List String) : String :=
  "/".intercalate names

/-- The normal form of a local path. -/
def normalize (source : String) : Except Error String :=
  (segments source).map join

end LocalPath

/-- Asks the recordings below a root directory for their lengths, given how texts are read. -/
def Recording.probe (reads : String → Except FileError String) (root : String) : Probe :=
    fun source => do
  let path := Path.join root (← LocalPath.normalize source)
  match reads path with
  | .ok text => .ok (length text.toList)
  | .error cause => .error (.unreadRecording path cause)

end Storyboard
