import Storyboard.Script.Scanner
import Storyboard.Timeline.Basic

/-!
Statements: what one line of a script says. A line is blank or a comment, names the timeline, gives
a transition, opens a card or a recording, or adds narration to the clip that is open. Statements
stand at the first column, narration two blanks or more to the right.
-/

namespace Storyboard

inductive Statement where
  | blank
  | name (name : String)
  | transition (t : Transition)
  | card (c : Card)
  | cast (c : Cast)
  | say (c : Cue)
deriving DecidableEq

namespace Statement
open Scanner

/-- A line without content, or with a comment only. -/
def blankLine (line : List Char) : Option Statement :=
  match Text.trim line with
  | [] => some .blank
  | '#' :: _ => some .blank
  | _ => none

def nameLine : Scanner Statement := do
  keyword "timeline".toList
  let _ ← blanks
  char ':'
  let name := Text.trim (← get)
  if name.isEmpty then failure else return .name (String.ofList name)

/-- The keyword of a transition that has a length only. -/
def plainEffect : Scanner Effect := fun s =>
  match keyword "crossfade".toList s with
  | some (_, rest) => some (.crossfade, rest)
  | none => (keyword "fade".toList s).map fun (_, rest) => (.fade, rest)

def fadeLine : Scanner Statement := do
  let effect ← plainEffect
  space
  let frames ← count
  finish
  return .transition ⟨effect, frames, none, none⟩

def direction : Scanner Direction := do
  match Direction.ofWord? (← word) with
  | some d => return d
  | none => failure

def swipeLine : Scanner Statement := do
  keyword "swipe".toList
  space
  let direction ← direction
  space
  let frames ← count
  finish
  return .transition ⟨.swipe, frames, some direction, none⟩

/-- A number of seconds behind an at sign. -/
def seconds : Scanner Binary64 := do
  let _ ← blanks
  char '@'
  let _ ← blanks
  let secs ← number
  let _ ← maybe (letter 's')
  return secs

def subtitle : Scanner String := do
  let _ ← blanks
  char '|'
  let _ ← blanks
  return String.ofList (← quoted)

def cardLine : Scanner Statement := do
  keyword "card".toList
  space
  let title ← quoted
  let subtitle ← maybe subtitle
  let seconds ← maybe seconds
  finish
  return .card ⟨String.ofList title, subtitle, seconds.getD .zero, [], []⟩

def castLine : Scanner Statement := do
  keyword "cast".toList
  space
  let path ← nonblank
  space
  let columns ← count
  letter 'x'
  let rows ← count
  finish
  return .cast ⟨String.ofList path, some columns, some rows, [], []⟩

def voice : Scanner String := do
  space
  keyword "voice=".toList
  return String.ofList (← word)

def anchor : Scanner Anchor := do
  space
  keyword "anchor=".toList
  match Anchor.ofName? (← word) with
  | some a => return a
  | none => failure

/-- What may follow the text of a narration line, in this order. -/
structure SayOptions where
  offset : Option Binary64
  voice : Option String
  anchor : Option Anchor

def sayOptions : Scanner SayOptions := do
  let offset ← maybe seconds
  let voice ← maybe voice
  let anchor ← maybe anchor
  finish
  return ⟨offset, voice, anchor⟩

/-- The text up to the first quotation mark behind which the rest of the line is in order. -/
def spoken? : List Char → Option (List Char × SayOptions)
  | [] => none
  | '"' :: rest =>
    match sayOptions.onLine? rest with
    | some options => some ([], options)
    | none => (spoken? rest).map fun (text, options) => ('"' :: text, options)
  | c :: rest => (spoken? rest).map fun (text, options) => (c :: text, options)

def sayLine : Scanner Statement := do
  if (← blanks) < 2 then failure
  keyword "say".toList
  space
  char '"'
  match spoken? (← get) with
  | some (text, options) =>
    return .say
      { text := String.ofList text
        voice := options.voice.getD Cue.defaultVoice
        anchor := options.anchor.getD .inBegin
        offset := options.offset.getD .zero }
  | none => failure

/-- The rules for lines; the first one that applies decides. -/
def rules : List (List Char → Option Statement) :=
  [blankLine, nameLine.onLine?, fadeLine.onLine?, swipeLine.onLine?, cardLine.onLine?,
   castLine.onLine?, sayLine.onLine?]

def ofLine? (line : List Char) : Option Statement :=
  rules.findSome? (· line)

end Statement

end Storyboard
