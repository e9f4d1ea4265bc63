import Storyboard.Json.Basic

/-!
Tokens of a JSON text. Only space, tab, line feed and carriage return may stand between them.
-/

namespace Storyboard.Json

inductive Token where
  | openArray
  | closeArray
  | openObject
  | closeObject
  | comma
  | colon
  | null
  | bool (b : Bool)
  | number (n : Numeral)
  | text (s : Option String)
deriving DecidableEq

namespace Token

def isSpace (c : Char) : Bool :=
  c = ' ' || c = '\t' || c = '\n' || c = '\r'

/-- The token at the front of a text, and what follows it. -/
def read? : List Char → Option (Token × List Char)
  | '[' :: rest => some (.openArray, rest)
  | ']' :: rest => some (.closeArray, rest)
  | '{' :: rest => some (.openObject, rest)
  | '}' :: rest => some (.closeObject, rest)
  | ',' :: rest => some (.comma, rest)
  | ':' :: rest => some (.colon, rest)
  | 'n' :: 'u' :: 'l' :: 'l' :: rest => some (.null, rest)
  | 't' :: 'r' :: 'u' :: 'e' :: rest => some (.bool true, rest)
  | 'f' :: 'a' :: 'l' :: 's' :: 'e' :: rest => some (.bool false, rest)
  | '"' :: rest => (Literal.read? rest).map fun (s, rest) => (.text s, rest)
  | s => (Numeral.read? s).map fun (n, rest) => (.number n, rest)

/-- Reading a token uses up part of the text. -/
theorem length_read? {s : List Char} {t : Token} {rest : List Char}
    (h : read? s = some (t, rest)) : rest.length < s.length := by
  unfold read? at h
  split at h
  case h_10 =>
    obtain ⟨⟨u, r⟩, hu, hr⟩ := Option.map_eq_some_iff.1 h
    have := Literal.length_read? hu
    simp only [Prod.mk.injEq] at hr
    rw [← hr.2, List.length_cons]
    omega
  case h_11 =>
    obtain ⟨⟨n, r⟩, hn, hr⟩ := Option.map_eq_some_iff.1 h
    simp only [Prod.mk.injEq] at hr
    exact hr.2 ▸ Numeral.length_read? hn
  all_goals
    simp only [Option.some.injEq, Prod.mk.injEq] at h
    rw [← h.2]
    simp only [List.length_cons]
    omega

/-- The tokens of a text; none if some part of it is no token. -/
def all? : List Char → Option (List Token)
  | [] => some []
  | c :: rest =>
    if isSpace c then all? rest
    else
      match _h : read? (c :: rest) with
      | none => none
      | some (t, rest') => (all? rest').map (t :: ·)
termination_by s => s.length
decreasing_by
  · simp
  · exact length_read? _h

end Token

end Storyboard.Json
