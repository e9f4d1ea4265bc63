import Mathlib
import Storyboard.Script.Statement

/-!
The grammar of script lines, told without scanners. A phrase is a record of the texts that it is
made of, each with what it has to be, so that every phrase is well formed; its text is written out
from these in order, and what it says is read off them. In the productions below WS is a blank, INT
a run of digits, NUMBER a run of digits with at most one point, and letters are taken in any case.
-/

namespace Storyboard.Grammar

/-! ### Pieces -/

/-- A nonempty text of one class of characters. -/
abbrev Run (p : Char → Bool) : Type :=
  {s : List Char // s ≠ [] ∧ ∀ c ∈ s, p c = true}

/-- `WS*` -/
abbrev Blanks : Type :=
  {s : List Char // ∀ c ∈ s, Text.isBlank c = true}

/-- `WS+` -/
abbrev Space : Type :=
  Run Text.isBlank

/-- A word of ASCII letters in any case. -/
abbrev Spelling (word : String) : Type :=
  {s : List Char // Text.sameWord s word.toList = true}

/-- An ASCII letter in either case. -/
abbrev Letter (want : Char) : Type :=
  {c : Char // Text.sameLetter c want = true}

/-- A nonempty text without quotation marks. -/
abbrev Quoted : Type :=
  Run (· ≠ '"')

/-- A nonempty text that neither begins nor ends with a blank. -/
abbrev Name : Type :=
  {s : List Char // s ≠ [] ∧ (∀ c ∈ s.head?, Text.isBlank c = false) ∧
    ∀ c ∈ s.getLast?, Text.isBlank c = false}

/-- The text of a phrase that may be missing. -/
def optionalText {D : Type} (text : D → List Char) : Option D → List Char
  | some d => text d
  | none => []

/-! ### Numbers -/

/-- The number that decimal digits denote. -/
def numeral (s : List Char) : Nat :=
  s.foldl (fun n c => 10 * n + (c.toNat - '0'.toNat)) 0

/-- `INT` -/
abbrev Count : Type :=
  Run Text.isAsciiDigit

/-- The count that the digits denote, or the greatest one that thirty-two bits can hold. -/
def Count.value (s : Count) : UInt32 :=
  UInt32.ofNat (min (numeral s.1) (2 ^ 32 - 1))

/-- `NUMBER`: digits and points, at least one digit and at most one point. -/
abbrev Number : Type :=
  {s : List Char // (∀ c ∈ s, Text.isAsciiDigit c = true ∨ c = '.') ∧
    (∃ c ∈ s, Text.isAsciiDigit c = true) ∧ s.count '.' ≤ 1}

/-- How many digits stand behind the point. -/
def places (s : List Char) : Nat :=
  (s.dropWhile (· ≠ '.')).length - 1

/-- The number that is nearest to what the digits denote. -/
def Number.value (s : Number) : Binary64 :=
  Binary64.ofRatio (numeral (s.1.filter Text.isAsciiDigit)) (10 ^ places s.1)

/-! ### Words that stand for something -/

/-- `fade` or `crossfade`. -/
abbrev PlainEffect : Type :=
  (e : {e : Effect // e = .fade ∨ e = .crossfade}) × Spelling e.1.name

/-- `DIRECTION` -/
abbrev DirectionWord : Type :=
  (d : Direction) × Spelling d.name

/-- `ANCHOR`: one of the names of an anchor. -/
abbrev AnchorWord : Type :=
  (x : {x : String × Anchor // x ∈ Anchor.spellings}) × Spelling x.1.1

/-! ### Clauses -/

/-- `WS* | WS* "SUBTITLE"` -/
structure Subtitle where
  before : Blanks
  behind : Blanks
  subtitle : Quoted

def Subtitle.text (s : Subtitle) : List Char :=
  s.before.1 ++ '|' :: s.behind.1 ++ '"' :: s.subtitle.1 ++ ['"']

def Subtitle.value (s : Subtitle) : String :=
  String.ofList s.subtitle.1

/-- `WS* @ WS* NUMBER [s]` -/
structure Seconds where
  before : Blanks
  behind : Blanks
  number : Number
  unit : Option (Letter 's')

/-- The text of the letter behind a number, if it is there. -/
def unitText (unit : Option (Letter 's')) : List Char :=
  optionalText (fun c => [c.1]) unit

def Seconds.text (s : Seconds) : List Char :=
  s.before.1 ++ '@' :: s.behind.1 ++ s.number.1 ++ unitText s.unit

def Seconds.value (s : Seconds) : Binary64 :=
  s.number.value

/-- `WS+ voice=ID` -/
structure Voice where
  gap : Space
  keyword : Spelling "voice="
  voice : Run Text.isWordChar

def Voice.text (v : Voice) : List Char :=
  v.gap.1 ++ v.keyword.1 ++ v.voice.1

def Voice.value (v : Voice) : String :=
  String.ofList v.voice.1

/-- `WS+ anchor=ANCHOR` -/
structure AnchorChoice where
  gap : Space
  keyword : Spelling "anchor="
  anchor : AnchorWord

def AnchorChoice.text (a : AnchorChoice) : List Char :=
  a.gap.1 ++ a.keyword.1 ++ a.anchor.2.1

def AnchorChoice.value (a : AnchorChoice) : Anchor :=
  a.anchor.1.1.2

/-- `[WS* @ WS* NUMBER [s]] [WS+ voice=ID] [WS+ anchor=ANCHOR] WS*` -/
structure Options where
  seconds : Option Seconds
  voice : Option Voice
  anchor : Option AnchorChoice
  tail : Blanks

def Options.text (o : Options) : List Char :=
  optionalText Seconds.text o.seconds ++ optionalText Voice.text o.voice ++
    optionalText AnchorChoice.text o.anchor ++ o.tail.1

def Options.value (o : Options) : Statement.SayOptions :=
  ⟨o.seconds.map Seconds.value, o.voice.map Voice.value, o.anchor.map AnchorChoice.value⟩

/-! ### Lines -/

/-- `timeline WS* : WS* NAME WS*` -/
structure NameLine where
  keyword : Spelling "timeline"
  before : Blanks
  behind : Blanks
  name : Name
  tail : Blanks

def NameLine.text (l : NameLine) : List Char :=
  l.keyword.1 ++ l.before.1 ++ ':' :: l.behind.1 ++ l.name.1 ++ l.tail.1

def NameLine.statement (l : NameLine) : Statement :=
  .name (String.ofList l.name.1)

/-- `(fade | crossfade) WS+ INT WS*` -/
structure FadeLine where
  keyword : PlainEffect
  gap : Space
  frames : Count
  tail : Blanks

def FadeLine.text (l : FadeLine) : List Char :=
  l.keyword.2.1 ++ l.gap.1 ++ l.frames.1 ++ l.tail.1

def FadeLine.statement (l : FadeLine) : Statement :=
  .transition ⟨l.keyword.1.1, l.frames.value, none, none⟩

/-- `swipe WS+ DIRECTION WS+ INT WS*` -/
structure SwipeLine where
  keyword : Spelling "swipe"
  before : Space
  direction : DirectionWord
  behind : Space
  frames : Count
  tail : Blanks

def SwipeLine.text (l : SwipeLine) : List Char :=
  l.keyword.1 ++ l.before.1 ++ l.direction.2.1 ++ l.behind.1 ++ l.frames.1 ++ l.tail.1

def SwipeLine.statement (l : SwipeLine) : Statement :=
  .transition ⟨.swipe, l.frames.value, some l.direction.1, none⟩

/-- A line that gives a transition. -/
inductive TransitionLine where
  | fade (l : FadeLine)
  | swipe (l : SwipeLine)

def TransitionLine.text : TransitionLine → List Char
  | .fade l => l.text
  | .swipe l => l.text

def TransitionLine.statement : TransitionLine → Statement
  | .fade l => l.statement
  | .swipe l => l.statement

/-- `card WS+ "TITLE" [WS* | WS* "SUBTITLE"] [WS* @ WS* NUMBER [s]] WS*` -/
structure CardLine where
  keyword : Spelling "card"
  gap : Space
  title : Quoted
  subtitle : Option Subtitle
  seconds : Option Seconds
  tail : Blanks

def CardLine.text (l : CardLine) : List Char :=
  l.keyword.1 ++ l.gap.1 ++ '"' :: l.title.1 ++ '"' :: optionalText Subtitle.text l.subtitle ++
    optionalText Seconds.text l.seconds ++ l.tail.1

def CardLine.statement (l : CardLine) : Statement :=
  .card ⟨String.ofList l.title.1, l.subtitle.map Subtitle.value,
    (l.seconds.map Seconds.value).getD .zero, [], []⟩

/-- `cast WS+ PATH WS+ INT x INT WS*` -/
structure CastLine where
  keyword : Spelling "cast"
  before : Space
  path : Run fun c => !Text.isBlank c
  behind : Space
  columns : Count
  cross : Letter 'x'
  rows : Count
  tail : Blanks

def CastLine.text (l : CastLine) : List Char :=
  l.keyword.1 ++ l.before.1 ++ l.path.1 ++ l.behind.1 ++ l.columns.1 ++ l.cross.1 :: l.rows.1 ++
    l.tail.1

def CastLine.statement (l : CastLine) : Statement :=
  .cast ⟨String.ofList l.path.1, some l.columns.value, some l.rows.value, [], []⟩

/-- `WS WS+ say WS+ "TEXT"` and options, where TEXT is any text. -/
structure SayLine where
  indent : {s : Blanks // 2 ≤ s.1.length}
  keyword : Spelling "say"
  gap : Space
  said : List Char
  options : Options

def SayLine.text (l : SayLine) : List Char :=
  l.indent.1.1 ++ l.keyword.1 ++ l.gap.1 ++ '"' :: l.said ++ '"' :: l.options.text

/-- The narration of a text with options, where these say nothing else as it is by default. -/
def cue (said : List Char) (o : Statement.SayOptions) : Cue :=
  ⟨String.ofList said, o.voice.getD Cue.defaultVoice, o.anchor.getD .inBegin,
    o.offset.getD .zero⟩

def SayLine.statement (l : SayLine) : Statement :=
  .say (cue l.said l.options.value)

end Storyboard.Grammar
