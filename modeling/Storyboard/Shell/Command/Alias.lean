import Storyboard.Shell.Command.Search

/-!
The commands that change or tell the texts which stand for words where a command begins.
-/

namespace Storyboard.Shell

/-- How many drawers there are for aliases. -/
def aliasDrawers : Nat := 39

/-- Gives a word a text that stands for it; one that it has already is replaced. -/
def setAlias (sh : Shell) (name text : Octets) : Shell :=
  if (sh.aliases.lookup name).isSome then
    { sh with aliases := sh.aliases.map fun a => if a.1 = name then (name, text) else a }
  else { sh with aliases := sh.aliases ++ [(name, text)] }

/-- The name and the text that an argument states; the name has at least one character. -/
def aliasIn? (argument : Octets) : Option (Octets × Octets) :=
  match argument with
  | [] => none
  | c :: rest =>
    match rest.span (· != '=') with
    | (more, _ :: text) => some (c :: more, text)
    | (_, []) => none

/-- Says that a word has no text. -/
def missAlias (command : String) (name : Octets) (sh : Shell) : Shell :=
  sh.say (Octets.ofText (command ++ ": ") ++ name ++ Octets.ofText " not found\n")

/-- Sets or tells the texts of some words, in order: the status, what is told, and the shell. -/
def aliasEach : List Octets → Nat → Shell → Nat × Octets × Shell
  | [], status, sh => (status, [], sh)
  | argument :: rest, status, sh =>
    match aliasIn? argument with
    | some (name, text) => aliasEach rest status (sh.setAlias name text)
    | none =>
      match sh.aliases.lookup argument with
      | some text =>
        let (status, told, sh) := aliasEach rest status sh
        (status, aliasLine (argument, text) ++ told, sh)
      | none => aliasEach rest 1 (missAlias "alias" argument sh)

/-- Sets or tells texts that stand for words; without arguments all are told. -/
def giveAlias : Command := fun _ arguments sh =>
  if arguments.isEmpty then
    sh.prints ((byDrawer aliasDrawers (·.1) sh.aliases).flatMap aliasLine)
  else
    let (status, told, sh) := aliasEach arguments 0 sh
    ⟨.ok status, told, sh⟩

/-- Takes texts away that stand for words, or all of them. -/
def dropAlias : Command := fun _ arguments sh =>
  withOptions ['a'] [] arguments sh fun given names =>
    if !given.isEmpty then answers { sh with aliases := [] } 0
    else
      let missing := names.filter fun name => (sh.aliases.lookup name).isNone
      let sh := missing.foldl (fun sh name => missAlias "unalias" name sh) sh
      answers { sh with aliases := sh.aliases.filter fun a => !names.contains a.1 }
        (truth missing.isEmpty)

end Storyboard.Shell
