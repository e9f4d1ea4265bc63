import Storyboard.Disk.Store
import Storyboard.Error
import Storyboard.Text.Utf8
import Storyboard.Timeline.Document

/-!
Timelines from documents: of a text, or of a file, which may fail to open or to hold a document.
Bytes of a file that are no text do no harm inside a literal that is ignored.
-/

namespace Storyboard.Timeline

def orMalformed : Option Timeline → Except Error Timeline
  | some t => .ok t
  | none => .error .malformedDocument

def ofText (text : String) : Except Error Timeline :=
  orMalformed (ofDocument? text)

/-- A blank and an unpaired surrogate: no token stands for them, and a literal with them denotes no
text. -/
def noCharacter : List Char :=
  " \\udc80".toList

/-- The timeline of the bytes of a document. -/
def ofBytes (bytes : ByteArray) : Except Error Timeline :=
  orMalformed ((Json.parse? (Text.decode noCharacter bytes)).bind ofJson?)

/-- The timeline of a document file. A directory opens like a file, but holds no document. -/
def ofFile (s : Store) (path : String) : Except Error Timeline :=
  match s.read path with
  | .ok bytes => ofBytes bytes
  | .error .isDirectory => .error .malformedDocument
  | .error cause => .error (.unopenedDocument path cause)

end Storyboard.Timeline
