import Storyboard.Text.Case

/-!
Anchors: the named points in the life of a clip to which cues and attachments are tied. Each has
one name that documents are written with; reading accepts any case and three older spellings.
-/

namespace Storyboard

inductive Anchor where
  /-- The start of the clip. -/
  | inBegin
  /-- The end of the incoming transition. -/
  | inEnd
  /-- The end of the nominal length. -/
  | outBegin
  /-- The end of the occupied length. -/
  | outEnd
  /-- The origin of the composition. -/
  | absolute
deriving DecidableEq

namespace Anchor

def all : List Anchor :=
  [.inBegin, .inEnd, .outBegin, .outEnd, .absolute]

def name : Anchor → String
  | .inBegin => "inBegin"
  | .inEnd => "inEnd"
  | .outBegin => "outBegin"
  | .outEnd => "outEnd"
  | .absolute => "absolute"

/-- Every spelling of an anchor, in small letters. -/
def spellings : List (String × Anchor) :=
  [("inbegin", .inBegin), ("clipstart", .inBegin), ("inend", .inEnd), ("outbegin", .outBegin),
   ("baseend", .outBegin), ("outend", .outEnd), ("visibleend", .outEnd), ("absolute", .absolute)]

def ofName? (s : List Char) : Option Anchor :=
  spellings.lookup (String.ofList (Text.lower s))

/-- The anchor of a name; an unknown name stands for the start of the clip. -/
def ofName (s : String) : Anchor :=
  (ofName? s.toList).getD .inBegin

theorem ofName?_name (a : Anchor) : ofName? a.name.toList = some a := by
  cases a <;> decide

@[simp] theorem ofName_name (a : Anchor) : ofName a.name = a := by
  simp [ofName, ofName?_name]

end Anchor

end Storyboard
