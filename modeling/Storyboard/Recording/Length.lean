import Storyboard.Json.Reader
import Storyboard.Text.Blank
import Storyboard.Text.Line

/-!
The length of a terminal recording. A recording that is one JSON document tells its duration, or
has it in the time of its last output event; a recording that is a header and one event a line has
it in the time of the last line. Where nothing of this can be read, the length is zero.
-/

namespace Storyboard.Recording

/-- The time of an event: the number that opens its array. -/
def eventTime? (event : Json) : Option Binary64 := do
  let first ← (← event.toList?).head?
  first.toBinary64?

/-- The length that a whole document tells. -/
def documentLength? (document : Json) : Option Binary64 :=
  match (document.find? "duration").bind Json.toBinary64? with
  | some secs => some secs
  | none => do
    let events ← (← document.find? "stdout").toList?
    eventTime? (← events.getLast?)

/-- The lines of a text that are not blank. -/
def filledLines (text : List Char) : List (List Char) :=
  (Text.lines text).filter fun line => !(Text.trim line).isEmpty

/-- The length that the last of several lines tells. -/
def lastLineLength? (text : List Char) : Option Binary64 :=
  match filledLines text with
  | _ :: second :: rest => (Json.read? ((second :: rest).getLast (by simp))).bind eventTime?
  | _ => none

/-- The length in seconds of the recording with a text. -/
def length (text : List Char) : Binary64 :=
  match (Json.read? text).bind documentLength? with
  | some secs => secs
  | none => (lastLineLength? text).getD .zero

end Storyboard.Recording
