import Storyboard.Error
import Storyboard.Script.Statement
import Storyboard.Text.Line

/-!
Compilation of scripts. A card or recording stays open for narration until the next clip,
transition or end of the script; comments and names leave it open. One line that is not understood
fails the script.
-/

namespace Storyboard.Script

/-- A line as it is understood: without blanks at its end, and with two spaces for each tab that
indents it. -/
def normalize (raw : List Char) : List Char :=
  let line := Text.trimEnd raw
  (Text.indent line).flatMap (fun c => if c = '\t' then [' ', ' '] else [c]) ++ Text.trimStart line

/-- A timeline under construction, with the clip that is open. -/
structure Draft where
  name : String
  items : List Item
  block : Option Item
deriving DecidableEq

namespace Draft

def empty : Draft :=
  ⟨Timeline.defaultName, [], none⟩

/-- All items, the open clip last. -/
def allItems (d : Draft) : List Item :=
  d.items ++ d.block.toList

/-- Opens a clip in place of the one that was open. -/
def openClip (d : Draft) (clip : Item) : Draft :=
  { d with items := d.allItems, block := some clip }

/-- Takes a statement; narration needs an open clip. -/
def take (d : Draft) : Statement → Option Draft
  | .blank => some d
  | .name name => some { d with name }
  | .transition t => some { d with items := d.allItems ++ [.transition t], block := none }
  | .card c => some (d.openClip (.card c))
  | .cast c => some (d.openClip (.cast c))
  | .say cue =>
    d.block.map fun clip =>
      { d with block := some (clip.withSound (clip.speech ++ [cue]) clip.audio) }

def timeline (d : Draft) : Timeline :=
  ⟨d.name, d.allItems⟩

end Draft

/-- Takes the lines from number `number` on. -/
def compileLines (number : Nat) (d : Draft) : List (List Char) → Except Error Draft
  | [] => .ok d
  | raw :: rest =>
    match (Statement.ofLine? (normalize raw)).bind d.take with
    | some d' => compileLines (number + 1) d' rest
    | none => .error (.badLine number (String.ofList raw))

/-- The timeline that a script describes. -/
def compile (script : String) : Except Error Timeline :=
  (compileLines 1 .empty (Text.lines script.toList)).map Draft.timeline

end Storyboard.Script
