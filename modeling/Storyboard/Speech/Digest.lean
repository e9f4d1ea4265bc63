/-!
The XXH3 digest of sixty-four bits, with a seed. The input is mixed with a fixed secret in one of
five ways, chosen by its length; beyond 240 bytes the seed first makes a secret of its own.
-/

namespace Storyboard.Digest

/-- The fixed secret of 192 bytes. -/
def secret : Array UInt8 := #[
  0xb8, 0xfe, 0x6c, 0x39, 0x23, 0xa4, 0x4b, 0xbe, 0x7c, 0x01, 0x81, 0x2c, 0xf7, 0x21, 0xad, 0x1c,
  0xde, 0xd4, 0x6d, 0xe9, 0x83, 0x90, 0x97, 0xdb, 0x72, 0x40, 0xa4, 0xa4, 0xb7, 0xb3, 0x67, 0x1f,
  0xcb, 0x79, 0xe6, 0x4e, 0xcc, 0xc0, 0xe5, 0x78, 0x82, 0x5a, 0xd0, 0x7d, 0xcc, 0xff, 0x72, 0x21,
  0xb8, 0x08, 0x46, 0x74, 0xf7, 0x43, 0x24, 0x8e, 0xe0, 0x35, 0x90, 0xe6, 0x81, 0x3a, 0x26, 0x4c,
  0x3c, 0x28, 0x52, 0xbb, 0x91, 0xc3, 0x00, 0xcb, 0x88, 0xd0, 0x65, 0x8b, 0x1b, 0x53, 0x2e, 0xa3,
  0x71, 0x64, 0x48, 0x97, 0xa2, 0x0d, 0xf9, 0x4e, 0x38, 0x19, 0xef, 0x46, 0xa9, 0xde, 0xac, 0xd8,
  0xa8, 0xfa, 0x76, 0x3f, 0xe3, 0x9c, 0x34, 0x3f, 0xf9, 0xdc, 0xbb, 0xc7, 0xc7, 0x0b, 0x4f, 0x1d,
  0x8a, 0x51, 0xe0, 0x4b, 0xcd, 0xb4, 0x59, 0x31, 0xc8, 0x9f, 0x7e, 0xc9, 0xd9, 0x78, 0x73, 0x64,
  0xea, 0xc5, 0xac, 0x83, 0x34, 0xd3, 0xeb, 0xc3, 0xc5, 0x81, 0xa0, 0xff, 0xfa, 0x13, 0x63, 0xeb,
  0x17, 0x0d, 0xdd, 0x51, 0xb7, 0xf0, 0xda, 0x49, 0xd3, 0x16, 0x55, 0x26, 0x29, 0xd4, 0x68, 0x9e,
  0x2b, 0x16, 0xbe, 0x58, 0x7d, 0x47, 0xa1, 0xfc, 0x8f, 0xf8, 0xb8, 0xd1, 0x7a, 0xd0, 0x31, 0xce,
  0x45, 0xcb, 0x3a, 0x8f, 0x95, 0x16, 0x04, 0x28, 0xaf, 0xd7, 0xfb, 0xca, 0xbb, 0x4b, 0x40, 0x7e]

/-! ### Words -/

def narrow1 : UInt64 := 0x9E3779B1
def narrow2 : UInt64 := 0x85EBCA77
def narrow3 : UInt64 := 0xC2B2AE3D
def wide1 : UInt64 := 0x9E3779B185EBCA87
def wide2 : UInt64 := 0xC2B2AE3D27D4EB4F
def wide3 : UInt64 := 0x165667B19E3779F9
def wide4 : UInt64 := 0x85EBCA77C2B2AE63
def wide5 : UInt64 := 0x27D4EB2F165667C5
def mixer1 : UInt64 := 0x165667919E3779F9
def mixer2 : UInt64 := 0x9FB21C651E98DF25

def byteAt (bytes : Array UInt8) (i : Nat) : UInt64 :=
  (bytes.getD i 0).toUInt64

/-- The little-endian word of `count` bytes at position `i`. -/
def wordAt (bytes : Array UInt8) (i count : Nat) : UInt64 :=
  (List.range count).foldr (fun k w => w <<< 8 ||| byteAt bytes (i + k)) 0

def word32 (bytes : Array UInt8) (i : Nat) : UInt64 :=
  wordAt bytes i 4

def word64 (bytes : Array UInt8) (i : Nat) : UInt64 :=
  wordAt bytes i 8

def rotateLeft (w : UInt64) (bits : UInt64) : UInt64 :=
  w <<< bits ||| w >>> (64 - bits)

/-- The lowest `count` bytes of a word in the opposite order. -/
def swapBytes (w : UInt64) (count : Nat) : UInt64 :=
  (List.range count).foldl (fun r k => r <<< 8 ||| (w >>> UInt64.ofNat (8 * k) &&& 0xff)) 0

/-- The two halves of the full product, combined. -/
def foldProduct (a b : UInt64) : UInt64 :=
  let product := a.toNat * b.toNat
  UInt64.ofNat product ^^^ UInt64.ofNat (product / UInt64.size)

def shiftXor (w : UInt64) (bits : UInt64) : UInt64 :=
  w ^^^ w >>> bits

/-! ### Finishing -/

def finish (w : UInt64) : UInt64 :=
  shiftXor (shiftXor w 37 * mixer1) 32

def finishShort (w : UInt64) : UInt64 :=
  shiftXor (shiftXor (shiftXor w 33 * wide2) 29 * wide3) 32

def finishEight (w length : UInt64) : UInt64 :=
  let w := (w ^^^ rotateLeft w 49 ^^^ rotateLeft w 24) * mixer2
  shiftXor ((w ^^^ (w >>> 35 + length)) * mixer2) 28

/-! ### Up to 240 bytes -/

def digestShort (seed : UInt64) (bytes : Array UInt8) : UInt64 :=
  let n := bytes.size
  let length := UInt64.ofNat n
  if n = 0 then finishShort (seed ^^^ word64 secret 56 ^^^ word64 secret 64)
  else if n ≤ 3 then
    let joined := byteAt bytes 0 <<< 16 ||| byteAt bytes (n / 2) <<< 24 ||| byteAt bytes (n - 1)
      ||| length <<< 8
    finishShort (joined ^^^ ((word32 secret 0 ^^^ word32 secret 4) + seed))
  else if n ≤ 8 then
    let seed := seed ^^^ swapBytes seed 4 <<< 32
    let flip := (word64 secret 8 ^^^ word64 secret 16) - seed
    finishEight ((word32 bytes (n - 4) + word32 bytes 0 <<< 32) ^^^ flip) length
  else
    let low := word64 bytes 0 ^^^ ((word64 secret 24 ^^^ word64 secret 32) + seed)
    let high := word64 bytes (n - 8) ^^^ ((word64 secret 40 ^^^ word64 secret 48) - seed)
    finish (length + swapBytes low 8 + high + foldProduct low high)

/-- Mixes sixteen bytes at position `i` with the secret at position `k`. -/
def mixSixteen (seed : UInt64) (bytes : Array UInt8) (i k : Nat) : UInt64 :=
  foldProduct (word64 bytes i ^^^ (word64 secret k + seed))
    (word64 bytes (i + 8) ^^^ (word64 secret (k + 8) - seed))

/-- Pairs of sixteen bytes from both ends, as many as the length asks for. -/
def digestMiddle (seed : UInt64) (bytes : Array UInt8) : UInt64 :=
  let n := bytes.size
  let pairs := (n - 1) / 32 + 1
  let sum := (List.range pairs).foldl (fun sum i =>
    sum + mixSixteen seed bytes (16 * i) (32 * i)
      + mixSixteen seed bytes (n - 16 * (i + 1)) (32 * i + 16)) (UInt64.ofNat n * wide1)
  finish sum

/-- All blocks of sixteen bytes, the first eight apart from the rest, and the last sixteen bytes
once more. -/
def digestLonger (seed : UInt64) (bytes : Array UInt8) : UInt64 :=
  let n := bytes.size
  let first := (List.range 8).foldl (fun sum i => sum + mixSixteen seed bytes (16 * i) (16 * i))
    (UInt64.ofNat n * wide1)
  let rest := (List.range (n / 16 - 8)).foldl (fun sum i =>
    sum + mixSixteen seed bytes (16 * (i + 8)) (16 * i + 3)) (finish first)
  finish (rest + mixSixteen seed bytes (n - 16) 119)

/-! ### Beyond 240 bytes -/

def bytesOfWord (w : UInt64) : List UInt8 :=
  (List.range 8).map fun k => (w >>> UInt64.ofNat (8 * k)).toUInt8

/-- The secret with the seed added to and taken from alternate words. -/
def seededSecret (seed : UInt64) : Array UInt8 :=
  ((List.range 12).flatMap fun i =>
    bytesOfWord (word64 secret (16 * i) + seed)
      ++ bytesOfWord (word64 secret (16 * i + 8) - seed)).toArray

def initialLanes : List UInt64 :=
  [narrow3, wide1, wide2, wide3, wide4, narrow2, wide5, narrow1]

def laneAt (lanes : List UInt64) (i : Nat) : UInt64 :=
  lanes.getD i 0

/-- Takes a stripe of sixty-four bytes at position `i`, with the secret at position `k`. -/
def takeStripe (key bytes : Array UInt8) (i k : Nat) (lanes : List UInt64) : List UInt64 :=
  let data (j : Nat) : UInt64 := word64 bytes (i + 8 * j)
  (List.range 8).map fun j =>
    let keyed := data j ^^^ word64 key (k + 8 * j)
    laneAt lanes j + data (Nat.xor j 1) + keyed.toUInt32.toUInt64 * (keyed >>> 32)

def scramble (key : Array UInt8) (lanes : List UInt64) : List UInt64 :=
  lanes.mapIdx fun j lane => (shiftXor lane 47 ^^^ word64 key (128 + 8 * j)) * narrow1

def stripesPerBlock : Nat := 16

def takeStripes (key bytes : Array UInt8) (i count : Nat) (lanes : List UInt64) : List UInt64 :=
  (List.range count).foldl (fun lanes s => takeStripe key bytes (i + 64 * s) (8 * s) lanes) lanes

def digestLong (seed : UInt64) (bytes : Array UInt8) : UInt64 :=
  let n := bytes.size
  let key := seededSecret seed
  let blocks := (n - 1) / 1024
  let lanes := (List.range blocks).foldl (fun lanes b =>
    scramble key (takeStripes key bytes (1024 * b) stripesPerBlock lanes)) initialLanes
  let lanes := takeStripes key bytes (1024 * blocks) ((n - 1 - 1024 * blocks) / 64) lanes
  let lanes := takeStripe key bytes (n - 64) 121 lanes
  finish ((List.range 4).foldl (fun sum i =>
    sum + foldProduct (laneAt lanes (2 * i) ^^^ word64 key (16 * i + 11))
      (laneAt lanes (2 * i + 1) ^^^ word64 key (16 * i + 19))) (UInt64.ofNat n * wide1))

/-- The digest of a sequence of bytes. -/
def digest (seed : UInt64) (bytes : Array UInt8) : UInt64 :=
  if bytes.size ≤ 16 then digestShort seed bytes
  else if bytes.size ≤ 128 then digestMiddle seed bytes
  else if bytes.size ≤ 240 then digestLonger seed bytes
  else digestLong seed bytes

end Storyboard.Digest
