import Storyboard.Text.Hex

/-!
String literals of a document. Writing escapes the quotation mark, the backslash and the control
characters; reading accepts every escape and denotes no text where a surrogate stands alone.
-/

namespace Storyboard.Literal
open Text (hexChar hexValue?)

/-- What an escape or a plain character contributes: a character, or a sixteen-bit code. -/
inductive Piece where
  | char (c : Char)
  | code (n : Nat)
deriving DecidableEq

/-- The letter that escapes a character, where there is one. -/
def escapeLetter? : Char → Option Char
  | '"' => some '"'
  | '\\' => some '\\'
  | '\u0008' => some 'b'
  | '\u0009' => some 't'
  | '\u000a' => some 'n'
  | '\u000c' => some 'f'
  | '\u000d' => some 'r'
  | _ => none

/-- The character that an escape letter stands for. -/
def escaped? : Char → Option Char
  | '"' => some '"'
  | '\\' => some '\\'
  | '/' => some '/'
  | 'b' => some '\u0008'
  | 't' => some '\u0009'
  | 'n' => some '\u000a'
  | 'f' => some '\u000c'
  | 'r' => some '\u000d'
  | _ => none

theorem escaped?_of_escapeLetter? {c letter : Char} (h : escapeLetter? c = some letter) :
    escaped? letter = some c := by
  unfold escapeLetter? at h
  split at h <;> simp only [Option.some.injEq, reduceCtorEq] at h <;> subst h <;> rfl

def isControl (c : Char) : Bool :=
  c.toNat < 32

def escape (c : Char) : List Char :=
  match escapeLetter? c with
  | some letter => ['\\', letter]
  | none =>
    if isControl c then ['\\', 'u', '0', '0', hexChar (c.toNat / 16), hexChar (c.toNat % 16)]
    else [c]

/-- A literal with its quotation marks. -/
def write (s : List Char) : List Char :=
  '"' :: (s.flatMap escape ++ ['"'])

def readCode? (a b c d : Char) : Option Nat := do
  return (((← hexValue? a) * 16 + (← hexValue? b)) * 16 + (← hexValue? c)) * 16 + (← hexValue? d)

/-- The pieces of a literal up to its closing quotation mark, and what follows that. -/
def readPieces? : List Char → Option (List Piece × List Char)
  | [] => none
  | '"' :: rest => some ([], rest)
  | '\\' :: 'u' :: a :: b :: c :: d :: rest => do
    let code ← readCode? a b c d
    let (pieces, rest) ← readPieces? rest
    return (.code code :: pieces, rest)
  | '\\' :: letter :: rest => do
    let char ← escaped? letter
    let (pieces, rest) ← readPieces? rest
    return (.char char :: pieces, rest)
  | c :: rest =>
    if c = '\\' ∨ isControl c then none
    else do
      let (pieces, rest) ← readPieces? rest
      return (.char c :: pieces, rest)

def isLeadingSurrogate (n : Nat) : Bool :=
  0xD800 ≤ n && n < 0xDC00

def isTrailingSurrogate (n : Nat) : Bool :=
  0xDC00 ≤ n && n < 0xE000

def paired (leading trailing : Nat) : Char :=
  Char.ofNat (0x10000 + (leading - 0xD800) * 0x400 + (trailing - 0xDC00))

/-- The text of a run of pieces; none where a surrogate has no partner right beside it. -/
def join? : List Piece → Option (List Char)
  | [] => some []
  | .char c :: rest => (join? rest).map (c :: ·)
  | .code n :: .code m :: rest =>
    if isLeadingSurrogate n then
      if isTrailingSurrogate m then (join? rest).map (paired n m :: ·) else none
    else if isTrailingSurrogate n then none
    else (join? (.code m :: rest)).map (Char.ofNat n :: ·)
  | .code n :: rest =>
    if isLeadingSurrogate n || isTrailingSurrogate n then none
    else (join? rest).map (Char.ofNat n :: ·)

/-- A literal behind its opening quotation mark: its text, if it denotes one, and what follows. -/
def read? (s : List Char) : Option (Option String × List Char) :=
  (readPieces? s).map fun (pieces, rest) => ((join? pieces).map String.ofList, rest)

theorem length_readPieces? {s : List Char} {pieces : List Piece} {rest : List Char}
    (h : readPieces? s = some (pieces, rest)) : rest.length < s.length := by
  fun_induction readPieces? s generalizing pieces rest with
  | case1 => simp at h
  | case2 tail => simp_all
  | case3 a b c d tail ih =>
    simp only [Option.bind_eq_bind, Option.bind_eq_some_iff, Prod.exists, Option.pure_def,
      Option.some.injEq, Prod.mk.injEq] at h
    obtain ⟨_, _, ps, r, hr, _, rfl⟩ := h
    have := ih hr
    simp only [List.length_cons]
    omega
  | case4 letter tail _ ih =>
    simp only [Option.bind_eq_bind, Option.bind_eq_some_iff, Prod.exists, Option.pure_def,
      Option.some.injEq, Prod.mk.injEq] at h
    obtain ⟨_, _, ps, r, hr, _, rfl⟩ := h
    have := ih hr
    simp only [List.length_cons]
    omega
  | case5 => simp at h
  | case6 c tail _ _ _ _ ih =>
    simp only [Option.bind_eq_bind, Option.bind_eq_some_iff, Prod.exists, Option.pure_def,
      Option.some.injEq, Prod.mk.injEq] at h
    obtain ⟨ps, r, hr, _, rfl⟩ := h
    have := ih hr
    simp only [List.length_cons]
    omega

/-- Reading a literal uses up part of the text. -/
theorem length_read? {s : List Char} {t : Option String} {rest : List Char}
    (h : read? s = some (t, rest)) : rest.length < s.length := by
  obtain ⟨⟨pieces, r⟩, hp, hr⟩ := Option.map_eq_some_iff.1 h
  simp only [Prod.mk.injEq] at hr
  exact hr.2 ▸ length_readPieces? hp

end Storyboard.Literal
