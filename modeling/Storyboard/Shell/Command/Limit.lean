import Storyboard.Shell.Command.Basic

/-!
The limits on what a process may use, and the times that it has used.
-/

namespace Storyboard.Shell

/-! ### Limits -/

/-- What is limited: its letter, and its name with the unit in which it is told. -/
def limited : List (Char × String) :=
  [('t', "time(seconds)"), ('f', "file(blocks)"), ('d', "data(kbytes)"), ('s', "stack(kbytes)"),
   ('c', "coredump(blocks)"), ('m', "memory(kbytes)"), ('l', "locked memory(kbytes)"),
   ('p', "process"), ('n', "nofiles"), ('v', "vmemory(kbytes)"), ('w', "locks"), ('r', "rtprio")]

/-- The width of the names in front of the limits. -/
def nameWidth : Nat := 20

/-- The limit of a letter; where none is kept, there is none. -/
def limitOf (sh : Shell) (letter : Char) : Limit :=
  (sh.limits.lookup letter).getD ⟨none, none⟩

/-- A line that tells a bound. -/
def boundText : Option Nat → Octets
  | some n => (toString n).toList ++ ['\n']
  | none => Octets.ofText "unlimited\n"

/-- The bound that an argument states. -/
def boundFrom (text : Octets) : Except Octets (Option Nat) :=
  if text = "unlimited".toList then .ok none
  else if text.all Text.isAsciiDigit then
    .ok (some (Arithmetic.valueIn 10 (text.map fun c => c.toNat - '0'.toNat)))
  else .error (Octets.ofText "bad number")

/-- Tells or changes limits. -/
def limitUse : Command := fun _ arguments sh =>
  withOptions (['H', 'S', 'a'] ++ limited.map (·.1)) [] arguments sh fun given arguments =>
    let letters := given.map (·.1)
    let kind := letters.reverse.find? fun c => c = 'H' || c = 'S'
    let isSoft := kind != some 'H'
    let isHard := kind != some 'S'
    let told (letter : Char) : Octets :=
      let l := limitOf sh letter
      boundText (if isSoft then l.soft else l.hard)
    let tellsAll := letters.contains 'a'
    let letter := (letters.reverse.find? fun c => limited.any (·.1 = c)).getD 'f'
    match arguments with
    | [] =>
      if tellsAll then
        sh.prints <| limited.flatMap fun (letter, name) =>
          let gap := List.replicate (max nameWidth name.length + 1 - name.length) ' '
          Octets.ofText name ++ gap ++ told letter
      else sh.prints (told letter)
    | text :: others =>
      if tellsAll || !others.isEmpty then sh.refuses (Octets.ofText "too many arguments")
      else
        match boundFrom text with
        | .error reason => sh.refuses reason
        | .ok bound =>
          let l := (limitOf sh letter).bounded isSoft isHard bound
          if !l.isConsistent then
            sh.refuses (Octets.ofText "error setting limit (Invalid argument)")
          else
            answers { sh with limits := (letter, l) :: sh.limits.filter (·.1 != letter) } 0

/-! ### Times -/

/-- Tells the times that were used, which count as none. -/
def times : Command := fun _ _ sh =>
  let line := "0m0.000000s 0m0.000000s\n"
  sh.prints (Octets.ofText (line ++ line))

end Storyboard.Shell
