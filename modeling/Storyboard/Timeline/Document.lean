import Storyboard.Json.Record
import Storyboard.Json.Reader
import Storyboard.Json.Printer
import Storyboard.Timeline.Basic

/-!
The compiled document of a timeline. Writing leaves out absent options, empty lists and cue offsets
of zero; reading fills in what is missing, takes a single attachment for a list of one, and ignores
members it does not know. An ignored member of the document itself may hold any well-formed value;
everything inside an item must be sound.
-/

namespace Storyboard
open Json (Record)
open Json.Record (required nullable defaulted)

/-! ### Writing -/

def Json.ofStrings (ss : List String) : Json :=
  .array (ss.map Json.ofString)

/-- A list that is left out when it is empty. -/
def Json.ofNonempty {α : Type} (write : α → Json) (xs : List α) : Option Json :=
  if xs.isEmpty then none else some (.array (xs.map write))

namespace Transition

def members (t : Transition) : List (String × Option Json) :=
  [("name", some (Json.ofString t.effect.name)),
   ("durationFrames", some (Json.ofNat t.frames.toNat)),
   ("direction", t.direction.map (Json.ofString ·.name)),
   ("mode", t.sides.map (Json.ofString ·.name))]

end Transition

namespace Cue

def toJson (c : Cue) : Json :=
  Json.ofMembers
    [("text", some (Json.ofString c.text)),
     ("voice", some (Json.ofString c.voice)),
     ("anchor", some (Json.ofString c.anchor.name)),
     ("offsetSec", if c.offset.isZero then none else some (Json.ofBinary64 c.offset))]

end Cue

namespace Attachment

def toJson (a : Attachment) : Json :=
  Json.ofMembers
    [("src", some (Json.ofString a.source)),
     ("anchor", a.anchor.map (Json.ofString ·.name)),
     ("offsetSec", some (Json.ofBinary64 a.offset)),
     ("volume", a.volume.map Json.ofBinary64),
     ("loop", a.looped.map Json.bool),
     ("fadeInSec", a.fadeIn.map Json.ofBinary64),
     ("fadeOutSec", a.fadeOut.map Json.ofBinary64),
     ("label", a.label.map Json.ofString)]

end Attachment

namespace Item

def typeName : Item → String
  | .transition _ => "transition"
  | .card _ => "card"
  | .cast _ => "cast"

def members : Item → List (String × Option Json)
  | .transition t => t.members
  | .card c =>
    [("title", some (Json.ofString c.title)),
     ("subtitle", c.subtitle.map Json.ofString),
     ("seconds", some (Json.ofBinary64 c.seconds)),
     ("speech", Json.ofNonempty Cue.toJson c.speech),
     ("audio", Json.ofNonempty Attachment.toJson c.audio)]
  | .cast c =>
    [("castPath", some (Json.ofString c.path)),
     ("cols", c.columns.map (Json.ofNat ·.toNat)),
     ("rows", c.rows.map (Json.ofNat ·.toNat)),
     ("speech", Json.ofNonempty Cue.toJson c.speech),
     ("audio", Json.ofNonempty Attachment.toJson c.audio)]

def toJson (i : Item) : Json :=
  Json.ofMembers (("type", some (Json.ofString i.typeName)) :: i.members)

end Item

namespace Timeline

def itemsJson (t : Timeline) : Json :=
  .array (t.items.map Item.toJson)

def toJson (t : Timeline) : Json :=
  Json.ofMembers [("name", some (Json.ofString t.name)), ("items", some t.itemsJson)]

/-- The text of the compiled document. -/
def document (t : Timeline) : String :=
  t.toJson.pretty

end Timeline

/-! ### Reading -/

def Anchor.ofJson? (v : Json) : Option Anchor :=
  v.toString?.map Anchor.ofName

namespace Transition

def ofRecord? (r : Record) : Option Transition := do
  return {
    effect := ← required (Json.toAlternative? Effect.ofName?) (← r.field? 0 ["name"])
    frames := ← required Json.toCount? (← r.field? 1 ["durationFrames"])
    direction := ← nullable (Json.toAlternative? Direction.ofName?) (← r.field? 2 ["direction"])
    sides := ← nullable (Json.toAlternative? Sides.ofName?) (← r.field? 3 ["mode"]) }

end Transition

namespace Cue

def ofRecord? (r : Record) : Option Cue := do
  return {
    text := ← required Json.toString? (← r.field? 0 ["text"])
    voice := ← defaulted defaultVoice Json.toString? (← r.field? 1 ["voice"])
    anchor := ← defaulted .inBegin Anchor.ofJson? (← r.field? 2 ["anchor"])
    offset := ← defaulted .zero Json.toBinary64? (← r.field? 3 ["offsetSec"]) }

def ofJson? (v : Json) : Option Cue :=
  (Record.ofJson? 4 v).bind ofRecord?

end Cue

namespace Attachment

def ofRecord? (r : Record) : Option Attachment := do
  return {
    source := ← required Json.toString? (← r.field? 0 ["src"])
    anchor := ← nullable Anchor.ofJson? (← r.field? 1 ["anchor"])
    offset := ← defaulted .zero Json.toBinary64? (← r.field? 2 ["offsetSec"])
    volume := ← nullable Json.toBinary64? (← r.field? 3 ["volume"])
    looped := ← nullable Json.toBool? (← r.field? 4 ["loop"])
    fadeIn := ← nullable Json.toBinary64? (← r.field? 5 ["fadeInSec"])
    fadeOut := ← nullable Json.toBinary64? (← r.field? 6 ["fadeOutSec"])
    label := ← nullable Json.toString? (← r.field? 7 ["label"]) }

def ofJson? (v : Json) : Option Attachment :=
  (Record.ofJson? 8 v).bind ofRecord?

/-- The sounds of a clip: null, a single attachment or a list of them. -/
def oneOrMany? : Json → Option (List Attachment)
  | .null => some []
  | v =>
    match ofJson? v with
    | some a => some [a]
    | none => Json.toListOf? ofJson? v

end Attachment

namespace Item

def speech? (v : Option Json) : Option (List Cue) :=
  defaulted [] (Json.toListOf? Cue.ofJson?) v

def audio? (v : Option Json) : Option (List Attachment) :=
  defaulted [] Attachment.oneOrMany? v

def cardOfRecord? (r : Record) : Option Card := do
  return {
    title := ← required Json.toString? (← r.field? 0 ["title"])
    subtitle := ← nullable Json.toString? (← r.field? 1 ["subtitle"])
    seconds := (← nullable Json.toBinary64? (← r.field? 2 ["seconds"])).getD .zero
    speech := ← speech? (← r.field? 3 ["speech"])
    audio := ← audio? (← r.field? 4 ["audio"]) }

/-- A recording; its path may go by an older name. -/
def castOfRecord? (r : Record) : Option Cast := do
  return {
    path := ← required Json.toString? (← r.field? 0 ["castPath", "path"])
    columns := ← nullable Json.toCount? (← r.field? 1 ["cols"])
    rows := ← nullable Json.toCount? (← r.field? 2 ["rows"])
    speech := ← speech? (← r.field? 3 ["speech"])
    audio := ← audio? (← r.field? 4 ["audio"]) }

/-- The item of a type whose other fields are those of the value. -/
def ofFields? (type : String) (fields : Json) : Option Item :=
  if type = "transition" then
    ((Record.ofJson? 4 fields).bind Transition.ofRecord?).map .transition
  else if type = "card" then ((Record.ofJson? 5 fields).bind cardOfRecord?).map .card
  else if type = "cast" then ((Record.ofJson? 5 fields).bind castOfRecord?).map .cast
  else none

/-- The type of an item is a member of its object, wherever it stands, or the first element of its
array. -/
def ofJson? : Json → Option Item
  | .object members =>
    match members.filter (·.1 = some "type") with
    | [(_, .text (some type))] => ofFields? type (.object members)
    | _ => none
  | .array (.text (some type) :: fields) => ofFields? type (.array fields)
  | _ => none

/-- An item inside a document, which has opened two containers before it. -/
def ofSound? (v : Json) : Option Item :=
  if v.sound (Json.nestingLimit - 2) then ofJson? v else none

end Item

namespace Timeline

def hasCleanKeys : Json → Bool
  | .object members => members.all (·.1.isSome)
  | _ => true

def ofJson? (v : Json) : Option Timeline :=
  if hasCleanKeys v then do
    let r ← Record.ofJson? 2 v
    return {
      name := ← required Json.toString? (← r.field? 0 ["name"])
      items := ← required (Json.toListOf? Item.ofSound?) (← r.field? 1 ["items"]) }
  else none

/-- The timeline of a compiled document. -/
def ofDocument? (text : String) : Option Timeline :=
  (Json.parse? text.toList).bind ofJson?

end Timeline

end Storyboard
