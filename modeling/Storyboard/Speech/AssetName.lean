import Storyboard.Speech.Digest
import Storyboard.Text.Case
import Storyboard.Text.Hex

/-!
Names of speech assets: a readable slug of the text, the voice, and a key that depends on every
byte of voice and text.
-/

namespace Storyboard.AssetName

def seed : UInt64 := 0x5ce9ca570d1c7a11

/-- What stands between voice and text in the bytes that the key is taken of. -/
def separator : String := "::"

/-- The text of which the key of a voice and a text is the digest. -/
def keyed (voice text : String) : String :=
  voice ++ separator ++ text

/-- The key of a voice and a text, sixteen hexadecimal digits. -/
def key (voice text : String) : String :=
  let bytes := (keyed voice text).toUTF8.data
  String.ofList (Text.hexDigits 16 (Digest.digest seed bytes).toNat)

/-- The characters that a slug keeps. -/
def isSlugChar (c : Char) : Bool :=
  Text.isWordChar c || c = '-'

/-- Puts one dash for each run of dashes and characters that are not kept. -/
def dashed (afterDash : Bool) : List Char → List Char
  | [] => []
  | c :: rest =>
    let c := if isSlugChar c then c else '-'
    if c = '-' then
      if afterDash then dashed true rest else '-' :: dashed true rest
    else c :: dashed false rest

def isDash (c : Char) : Bool :=
  c = '-'

def trimDashes (s : List Char) : List Char :=
  ((s.dropWhile isDash).reverse.dropWhile isDash).reverse

def slugLimit : Nat := 48

/-- The slug of a text with nothing to keep. -/
def emptySlug : String := "tts"

def slug (text : String) : String :=
  match (trimDashes (dashed false text.toList)).take slugLimit with
  | [] => emptySlug
  | s => String.ofList s

/-- The name of an asset without its extension. -/
def basename (text voice : String) : String :=
  slug text ++ "-" ++ voice ++ "-" ++ key voice text

end Storyboard.AssetName
