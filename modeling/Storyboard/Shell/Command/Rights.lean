import Storyboard.Shell.Command.Basic

/-!
The mask of a shell: the rights that are kept from the files it makes. A mask is a number with three
bits each for the owner, the group and all others; a mode says in letters how the rights that are
left are to be changed.
-/

namespace Storyboard.Shell

namespace Rights

/-- All rights of all holders. -/
def all : Nat := 0o777

/-- The rights that a mask leaves, and the mask that leaves some rights. -/
def without (rights : Nat) : Nat := all - rights % (all + 1)

/-- The place of the bits of a holder, and its letter. -/
def holders : List (Char × Nat) :=
  [('u', 6), ('g', 3), ('o', 0)]

/-- The rights of one holder by their letters. -/
def letters : List (Char × Nat) :=
  [('r', 4), ('w', 2), ('x', 1)]

/-- The bit of a holder by its letter; one letter stands for all holders. -/
def holderOf? (c : Char) : Option Nat :=
  if c = 'a' then some 0o111 else (holders.lookup c).map (1 <<< ·)

/-- The rights of one holder that a letter stands for, where some rights hold before. -/
def rightOf? (old : Nat) (c : Char) : Option Nat :=
  if c = 'X' then some (if old &&& 0o111 = 0 then 0 else 1)
  else if c = 's' then some 0
  else (letters.lookup c).or ((holders.lookup c).map (old >>> ·))

def isSign (c : Char) : Bool :=
  c = '=' || c = '+' || c = '-'

/-- Changes rights by a sign: some bits are added, taken away, or replace those of some holders. -/
def change (sign : Char) (holders bits rights : Nat) : Nat :=
  if sign = '+' then rights ||| bits
  else if sign = '-' then rights &&& without bits
  else bits ||| (rights &&& without (holders * 7))

/-- The rights after what a mode makes of them, if it is one. The first argument bounds the number
of its parts, `old` are the rights before all of them; the holders that it has named stay named up
to a comma. -/
def changed? (old : Nat) : Nat → (holders rights : Nat) → Octets → Option Nat
  | 0, _, _, _ => none
  | count + 1, holders, rights, mode =>
    let (named, mode) := mode.span fun c => (holderOf? c).isSome
    let holders := (named.filterMap holderOf?).foldl (· ||| ·) holders
    let holders := if holders = 0 then 0o111 else holders
    match mode with
    | [] => some rights
    | sign :: mode =>
      if !isSign sign then none
      else
        let (given, mode) := mode.span fun c => (rightOf? old c).isSome
        let bits := ((given.filterMap (rightOf? old)).foldl (· ||| ·) 0 % 8) * holders
        let rights := change sign holders bits rights
        match mode with
        | [] => some rights
        | c :: rest =>
          if c = ',' then changed? old count 0 rights rest
          else if isSign c then changed? old count holders rights (c :: rest)
          else none

/-- The mask that a mode makes of a mask. -/
def mask? (mode : Octets) (mask : Nat) : Option Nat :=
  (changed? (without mask) (mode.length + 1) 0 (without mask) mode).map without

/-- The rights that a mask leaves, holder by holder. -/
def told (mask : Nat) : Octets :=
  [','].intercalate <| holders.map fun (holder, place) =>
    let left := without mask >>> place
    holder :: '=' :: letters.filterMap fun (letter, bit) =>
      if left &&& bit = 0 then none else some letter

/-- A mask in octal digits. -/
def digits (mask : Nat) : Octets :=
  ['0', digit 6, digit 3, digit 0]
where
  digit (place : Nat) : Char := Char.ofNat ('0'.toNat + (mask >>> place) % 8)

example : mask? "u=rwx,g-w,o=".toList 0o002 = some 0o027 := by decide +kernel

example : told 0o027 = "u=rwx,g=rx,o=".toList := by decide +kernel

end Rights

/-- The mask that an argument states: a number in octal digits, or a mode. -/
def maskFrom (text : Octets) (mask : Nat) : Except Octets Nat :=
  if text.head?.any Text.isAsciiDigit then
    if text.all fun c => '0' ≤ c && c ≤ '7' then
      .ok (text.foldl (fun n c => (n * 8 + (c.toNat - '0'.toNat)) % (Rights.all + 1)) 0)
    else .error (Condition.Fault.badNumber text).message
  else
    match Rights.mask? text mask with
    | some mask => .ok mask
    | none => .error (Octets.ofText "Illegal mode: " ++ text)

/-- Tells or changes the mask for the files that are made. -/
def fileMask : Command := fun _ arguments sh =>
  withOptions ['S'] [] arguments sh fun given arguments =>
    match arguments with
    | [] => sh.prints ((if given.isEmpty then Rights.digits else Rights.told) sh.mask ++ ['\n'])
    | text :: _ =>
      match maskFrom text sh.mask with
      | .ok mask => answers { sh with mask } 0
      | .error reason => sh.refuses reason

end Storyboard.Shell
