import Storyboard.Text.Case

/-!
Pronunciation: words that are spoken otherwise than they are written. Each entry of the table
replaces its word wherever it stands by itself, entry after entry, each in the text that the one
before has left.
-/

namespace Storyboard.Pronunciation

structure Entry where
  word : List Char
  spoken : List Char
deriving DecidableEq

def table : List Entry :=
  [⟨"d.rymcg.tech".toList, "dee dot rye mic gee dot tech".toList⟩,
   ⟨"Traefik".toList, "traffic".toList⟩,
   ⟨"443".toList, "four four three".toList⟩]

/-- A character without its case, as far as the result is in ASCII: two letters beyond ASCII fold
to `k` and `s`. -/
def fold (c : Char) : Char :=
  if c = '\u212a' then 'k' else if c = '\u017f' then 's' else c.toLower

/-- Whether a text begins with a word, in any case. -/
def beginsWith : List Char → List Char → Bool
  | [], _ => true
  | _ :: _, [] => false
  | w :: word, c :: text => fold c == fold w && beginsWith word text

/-- Whether exactly one of two neighbours belongs to a word; there may be none at the edges. -/
def isBoundary (before after : Option Char) : Bool :=
  before.any Text.isWordChar != after.any Text.isWordChar

/-- Whether the word stands by itself at the front of a text that `before` precedes. -/
def occurs (word : List Char) (before : Option Char) (text : List Char) : Bool :=
  beginsWith word text && isBoundary before text.head?
    && isBoundary (text.take word.length).getLast? (text.drop word.length).head?

/-- Replaces the word in a text that `before` precedes and whose first `done` characters an
occurrence has already used up. -/
def replaceFrom (e : Entry) (before : Option Char) (done : Nat) : List Char → List Char
  | [] => []
  | c :: rest =>
    match done with
    | k + 1 => replaceFrom e (some c) k rest
    | 0 =>
      if occurs e.word before (c :: rest) then
        e.spoken ++ replaceFrom e (some c) (e.word.length - 1) rest
      else c :: replaceFrom e (some c) 0 rest

def Entry.apply (e : Entry) (text : List Char) : List Char :=
  replaceFrom e none 0 text

/-- The text as it is spoken. -/
def apply (text : String) : String :=
  String.ofList (table.foldl (fun text e => e.apply text) text.toList)

end Storyboard.Pronunciation
