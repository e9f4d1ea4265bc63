import Storyboard.Text.Utf8

/-!
Octets. What the system passes on is bytes; a byte is kept as the character of the same number, so
that it can be compared with the characters of a syntax.
-/

namespace Storyboard

/-- Bytes, each as the character of its number. -/
abbrev Octets := List Char

namespace Octets

def ofBytes (bytes : ByteArray) : Octets :=
  bytes.data.toList.map fun b => Char.ofNat b.toNat

def toBytes (s : Octets) : ByteArray :=
  ⟨(s.map fun c => UInt8.ofNat c.toNat).toArray⟩

def ofText (text : String) : Octets :=
  ofBytes text.toUTF8

/-- The text of some octets, whatever they are. -/
def toText (s : Octets) : String :=
  String.ofList (Text.lenient (toBytes s))

end Octets

end Storyboard
