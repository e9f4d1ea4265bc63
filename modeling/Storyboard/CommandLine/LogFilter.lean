import Storyboard.CommandLine.LogRule

/-!
Filters of the log: lists of rules, of which the closest one decides whether a note is written.
-/

namespace Storyboard.CommandLine

abbrev LogFilter := List LogRule

namespace LogFilter

/-! ### Reading -/

/-- The pieces of a filter, which commas separate; empty ones do not count. -/
def pieces (text : List Char) : List (List Char) :=
  let (piece, others) := text.foldr (fun c (piece, others) =>
    if c = ',' then ([], piece :: others) else (c :: piece, others)) ([], [])
  (piece :: others).filter (!·.isEmpty)

/-- The filter of some rules; where there are none, errors alone are written. -/
def ofRules (rules : List LogRule) : LogFilter :=
  if rules.isEmpty then [.upTo LogLevel.error.rank] else rules

/-- What the reading of a filter gives: complaints about pieces that mean nothing, and the filter,
where reading comes to an end. -/
structure Reading where
  complaints : String
  filter : Option LogFilter

def upTo (level : LogLevel) : LogFilter :=
  [.upTo level.rank]

/-- The filter that was given without any complaints. -/
def Reading.plain (f : LogFilter) : Reading :=
  ⟨"", some f⟩

/-- How many bytes of a piece are told where it cannot be read to its end. -/
def toldBytes : Nat := 256

/-- The first characters of a text that take no more than some bytes. -/
def firstWithin : Nat → List Char → List Char
  | _, [] => []
  | n, c :: rest => if c.utf8Size ≤ n then c :: firstWithin (n - c.utf8Size) rest else []

/-- The complaint with which the reading of a piece breaks off. -/
def breakText (piece : List Char) : String :=
  let told := firstWithin toldBytes piece
  LogFlaw.divided.message ++ " of `" ++ String.ofList told ++ "`"
    ++ (if told.length < piece.length then "[...]
" else "
")

def complaint (piece : List Char) (flaw : LogFlaw) : String :=
  "ignoring `" ++ String.ofList piece ++ "`: " ++ flaw.message ++ "
"

/-- Reads the pieces of a filter, after some rules and complaints. Pieces that mean nothing are
complained about and left out. -/
def readPieces (rules : List LogRule) (complaints : String) : List (List Char) → Reading
  | [] => ⟨complaints, some (ofRules rules)⟩
  | piece :: rest =>
    match LogRule.ofPiece piece with
    | .ok r => readPieces (rules ++ [r]) complaints rest
    | .error .divided => ⟨complaints ++ breakText piece, none⟩
    | .error flaw => readPieces rules (complaints ++ complaint piece flaw) rest

/-- The filter that is asked for on the command line. -/
def ofText (text : String) : Reading :=
  readPieces [] "" (pieces text.toList)

/-- Reads the pieces of a setting, after some rules. One piece that means nothing makes the whole
setting count for nothing. -/
def readSetting (otherwise : LogFilter) (rules : List LogRule) : List (List Char) → Reading
  | [] => .plain (ofRules rules)
  | piece :: rest =>
    match LogRule.ofPiece piece with
    | .ok r => readSetting otherwise (rules ++ [r]) rest
    | .error .divided => ⟨breakText piece, none⟩
    | .error _ => .plain otherwise

/-- The filter that the setting describes, if it is well formed. -/
def ofSetting (otherwise : LogFilter) (setting : String) : Reading :=
  readSetting otherwise [] (pieces setting.toList)

/-- The filter of a run: as asked for on the command line, else as the setting says. -/
def chosen (asked : Option String) (isVerbose : Bool) (setting : Option String) : Reading :=
  match asked, setting with
  | some text, _ => ofText text
  | none, some text => if isVerbose then .plain (upTo .detail) else ofSetting (upTo .notice) text
  | none, none => .plain (upTo (if isVerbose then .detail else .notice))

/-! ### Deciding -/

/-- Among the plain rules about a note, the closest one, and of equally close ones the last. -/
def ruleFor? (f : LogFilter) (n : LogNote) : Option LogRule :=
  (f.filter fun r => r.isPlain && r.covers n).foldl
    (fun best r => if best.any r.isWider then best else some r)
    none

/-- The greatest rank that any rule asks for. -/
def greatestRank (f : LogFilter) : Nat :=
  f.foldl (fun rank r => max rank r.rank) 0

/-- A release has the level of a notice. -/
def releaseLevel : LogLevel := .notice

/-- The rules without those that a later one restates. -/
def settled : List LogRule → List LogRule
  | [] => []
  | r :: rest => if rest.any r.restates then settled rest else r :: settled rest

/-- Up to which rank notes are written during the release of a timeline, apart from the plain rules.
A release is only minded where notes of its own level may be written, or a value is asked for. -/
def releaseRank (f : LogFilter) (timeline : String) : Nat :=
  if f.any (·.asksValue) || releaseLevel.rank ≤ f.greatestRank then
    greatestRank ((settled f).filter (·.coversRelease timeline))
  else 0

def writes (f : LogFilter) (n : LogNote) : Bool :=
  (f.ruleFor? n).any (n.level.rank ≤ ·.rank)
    || n.timeline.any fun timeline => n.level.rank ≤ f.releaseRank timeline

/-- What is written of some notes. -/
def record (f : LogFilter) (notes : List LogNote) : String :=
  String.join ((notes.filter f.writes).map LogNote.text)

end LogFilter

end Storyboard.CommandLine
