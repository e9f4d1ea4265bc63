/-!
Lenient decoding of UTF-8. Each longest run of bytes that could have begun a character, and each
byte that begins none, stands for one mark, which is the replacement character where nothing else
is asked for.
-/

namespace Storyboard.Text

def replacement : Char := '\ufffd'

/-- A character in the making: its bits so far, the bytes that are to come behind the next one,
and the bounds of the next one. -/
structure Begun where
  bits : Nat
  more : Nat
  low : UInt8
  high : UInt8

inductive Opening where
  | whole (c : Char)
  | begun (p : Begun)
  | broken

/-- What a byte can begin. -/
def opening (b : UInt8) : Opening :=
  if b < 0x80 then .whole (Char.ofNat b.toNat)
  else if 0xc2 ≤ b && b ≤ 0xdf then .begun ⟨b.toNat - 0xc0, 0, 0x80, 0xbf⟩
  else if b = 0xe0 then .begun ⟨0, 1, 0xa0, 0xbf⟩
  else if b = 0xed then .begun ⟨0xd, 1, 0x80, 0x9f⟩
  else if 0xe1 ≤ b && b ≤ 0xef then .begun ⟨b.toNat - 0xe0, 1, 0x80, 0xbf⟩
  else if b = 0xf0 then .begun ⟨0, 2, 0x90, 0xbf⟩
  else if 0xf1 ≤ b && b ≤ 0xf3 then .begun ⟨b.toNat - 0xf0, 2, 0x80, 0xbf⟩
  else if b = 0xf4 then .begun ⟨4, 2, 0x80, 0x8f⟩
  else .broken

/-- The state and the characters after a byte that begins something. -/
def openByte (mark : List Char) (b : UInt8) : Option Begun × List Char :=
  match opening b with
  | .whole c => (none, [c])
  | .begun p => (some p, [])
  | .broken => (none, mark)

def takeByte (mark : List Char) (state : Option Begun) (b : UInt8) : Option Begun × List Char :=
  match state with
  | none => openByte mark b
  | some p =>
    if p.low ≤ b && b ≤ p.high then
      let bits := p.bits * 64 + (b.toNat - 0x80)
      match p.more with
      | 0 => (none, [Char.ofNat bits])
      | more + 1 => (some ⟨bits, more, 0x80, 0xbf⟩, [])
    else
      let (state, chars) := openByte mark b
      (state, mark ++ chars)

def decodeFrom (mark : List Char) (state : Option Begun) : List UInt8 → List Char
  | [] => if state.isSome then mark else []
  | b :: rest =>
    let (state, chars) := takeByte mark state b
    chars ++ decodeFrom mark state rest

/-- The text of some bytes, with a mark for what is no character. -/
def decode (mark : List Char) (bytes : ByteArray) : List Char :=
  decodeFrom mark none bytes.data.toList

/-- The text of some bytes, whatever they are. -/
def lenient (bytes : ByteArray) : List Char :=
  decode [replacement] bytes

example : decodeFrom [replacement] none [0x61, 0xe2, 0x82, 0xac, 0xf0, 0x9f, 0x41, 0xff] =
    ['a', '€', replacement, 'A', replacement] := by decide +kernel

end Storyboard.Text
