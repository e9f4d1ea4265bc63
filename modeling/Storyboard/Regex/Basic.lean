import Storyboard.Text.Category

/-!
Regular expressions. From one place of a text an expression may lead to several places, and it
prefers some of them to others: the first branch of a choice to the second one, and another round
of a greedy repetition to the end of it. The match of an expression begins as far to the left as
can be and ends at the place that is preferred to all others.
-/

namespace Storyboard

/-- What can be asked of the characters around a place of a text. -/
inductive Look where
  | textStart
  | textEnd
  /-- The start of a line; carriage returns may end lines too. -/
  | lineStart (minds : Bool)
  | lineEnd (minds : Bool)
  /-- Between a character of a word and another one or none; of all scripts or of ASCII alone. -/
  | wordEdge (isWide : Bool)
  | noWordEdge (isWide : Bool)
  | wordStart (isWide : Bool)
  | wordEnd (isWide : Bool)
deriving DecidableEq

namespace Look

/-- Whether a character that may be missing belongs to a word. -/
def inWord (isWide : Bool) (c : Option Char) : Bool :=
  c.any (if isWide then Text.isLettering else Text.isWordChar)

/-- Whether a place has what is asked, between the characters before and after it. -/
def holds (before after : Option Char) : Look → Bool
  | .textStart => before.isNone
  | .textEnd => after.isNone
  | .lineStart false => before.all (· = '\n')
  | .lineStart true =>
    before.all (· = '\n') || (before = some '\r' && after ≠ some '\n')
  | .lineEnd false => after.all (· = '\n')
  | .lineEnd true =>
    after.all (· = '\r') || (after = some '\n' && before ≠ some '\r')
  | .wordEdge isWide => inWord isWide before != inWord isWide after
  | .noWordEdge isWide => inWord isWide before == inWord isWide after
  | .wordStart isWide => !inWord isWide before && inWord isWide after
  | .wordEnd isWide => inWord isWide before && !inWord isWide after

/-- Whether words of all scripts have to be known. -/
def asksWideWords : Look → Bool
  | .wordEdge isWide | .noWordEdge isWide | .wordStart isWide | .wordEnd isWide => isWide
  | _ => false

end Look

inductive Regex where
  | empty
  /-- One character of a class. -/
  | one (isMember : Char → Bool)
  | look (l : Look)
  | seq (r s : Regex)
  | alt (r s : Regex)
  /-- Many rounds; there may be none at all, and a greedy repetition prefers more to fewer. -/
  | many (mayBeNone isGreedy : Bool) (r : Regex)

namespace Regex

/-! ### Ends -/

/-- The places at which a repetition has been between two rounds, and its ends found so far. -/
structure Rounds where
  seen : List Nat
  ends : List Nat

def Rounds.ending (w : Rounds) (place : Nat) : Rounds :=
  { w with ends := w.ends ++ [place] }

/-- Goes on with a repetition from a place between two rounds, where `next` gives the ends of one
round. A round that takes nothing leads nowhere, and no place is visited twice. -/
def further (next : Nat → List Nat) (isGreedy : Bool) : Nat → Rounds → Nat → Rounds
  | 0, w, _ => w
  | fuel + 1, w, place =>
    if w.seen.contains place then w
    else
      let rounds (w : Rounds) : Rounds :=
        ((next place).filter (· ≠ place)).foldl (further next isGreedy fuel) w
      let w := { w with seen := place :: w.seen }
      if isGreedy then (rounds w).ending place else rounds (w.ending place)

/-- The ends of a repetition with one round at least. A first round that takes nothing is also the
last one. -/
def ends₁ (next : Nat → List Nat) (isGreedy : Bool) (bound place : Nat) : List Nat :=
  let rounds := (next place).foldl
    (fun w reached =>
      if reached = place then w.ending place else further next isGreedy bound w reached)
    ⟨[], []⟩
  rounds.ends

/-- The places of a text to which an expression leads from one of them, the preferred ones
first. -/
def ends (text : Array Char) : Regex → Nat → List Nat
  | .empty, place => [place]
  | .one isMember, place => if text[place]?.any isMember then [place + 1] else []
  | .look l, place =>
    let before := if place = 0 then none else text[place - 1]?
    if l.holds before text[place]? then [place] else []
  | .seq r s, place => ((r.ends text place).flatMap (s.ends text)).eraseDups
  | .alt r s, place => (r.ends text place ++ s.ends text place).eraseDups
  | .many mayBeNone isGreedy r, place =>
    let ends := ends₁ (r.ends text) isGreedy (text.size + 1) place
    if !mayBeNone then ends.eraseDups
    else if isGreedy then (ends ++ [place]).eraseDups
    else (place :: ends).eraseDups

/-- The end of the match of an expression in a text. -/
def matchEnd? (r : Regex) (text : Array Char) : Option Nat :=
  (List.range (text.size + 1)).findSome? fun start => (r.ends text start).head?

/-- Whether the match of an expression reaches to the end of a text. -/
def reachesEnd (r : Regex) (text : String) : Bool :=
  let text := text.toList.toArray
  r.matchEnd? text == some text.size

/-- Whether an expression asks for words of all scripts. -/
def asksWideWords : Regex → Bool
  | .empty | .one _ => false
  | .look l => l.asksWideWords
  | .seq r s | .alt r s => r.asksWideWords || s.asksWideWords
  | .many _ _ r => r.asksWideWords

end Regex

end Storyboard
