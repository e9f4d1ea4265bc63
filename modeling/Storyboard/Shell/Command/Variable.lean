import Storyboard.Shell.Command.Basic
import Storyboard.Shell.Expansion

/-!
The commands that change variables.
-/

namespace Storyboard.Shell

def badName (name : Octets) : Octets :=
  name ++ Octets.ofText ": bad variable name"

/-- Gives a variable a value, unless its name is bad or it may only be read. -/
def assignChecked (sh : Shell) (name value : Octets) : Except Octets Shell :=
  if isName name then sh.assign name value false else .error (badName name)

/-- Goes through some arguments in order, until one is refused. -/
def each (f : Octets → Shell → Except Octets Shell) : List Octets → Shell → Outcome
  | [], sh => sh.answers 0
  | a :: rest, sh =>
    match f a sh with
    | .ok sh => each f rest sh
    | .error reason => sh.refuses reason

/-! ### Telling -/

/-- Variables in the order of their names. -/
def sorted (bindings : List Variable) : List Variable :=
  bindings.mergeSort fun v w => isNotAbove v.name w.name

/-- The lines that tell some variables. -/
def told (opening : Octets) (bindings : List Variable) : Octets :=
  (sorted bindings).flatMap fun v =>
    opening ++ v.name
      ++ (match v.value with
        | some value => '=' :: quoted value
        | none => [])
      ++ ['\n']

/-! ### Marks -/

/-- Marks the variable that an argument names, and may give it a value. -/
def mark (change : Variable → Variable) (argument : Octets) (sh : Shell) : Except Octets Shell :=
  let (name, rest) := argument.span (· != '=')
  match rest, sh.binding? name with
  | [], some v => .ok (sh.setVariable (change v))
  | [], none =>
    if isName name then .ok (sh.setVariable (change ⟨name, none, sh.has 'a', false⟩))
    else .error (badName name)
  | _ :: value, _ => do
    let sh ← sh.assignChecked name value
    match sh.binding? name with
    | some v => return sh.setVariable (change v)
    | none => return sh

/-- Marks variables, or tells those that are marked. -/
def marking (name : String) (isMarked : Variable → Bool) (change : Variable → Variable) :
    Command := fun _ arguments sh =>
  withOptions ['p'] [] arguments sh fun given arguments =>
    if given.isEmpty && !arguments.isEmpty then each (mark change) arguments sh
    else sh.prints (told (name.toList ++ [' ']) (sh.bindings.filter isMarked))

/-- Hands variables on to programs. -/
def exporting : Command :=
  marking "export" (·.isExported) fun v => { v with isExported := true }

/-- Keeps variables from being changed. -/
def protecting : Command :=
  marking "readonly" (·.isReadOnly) fun v => { v with isReadOnly := true }

/-- Takes a variable away. -/
def unsetVariable (name : Octets) (sh : Shell) : Except Octets Shell :=
  if !isName name then .error (badName name)
  else if (sh.binding? name).any (·.isReadOnly) then
    .error (name ++ Octets.ofText ": is read only")
  else .ok ((sh.dropVariable name).forgetFound name)

/-- Takes variables or functions away. -/
def unset : Command := fun _ arguments sh =>
  withOptions ['v', 'f'] [] arguments sh fun given arguments =>
    if given.getLast?.any (·.1 = 'f') then
      answers { sh with functions := sh.functions.filter fun f => !arguments.contains f.1 } 0
    else each unsetVariable arguments sh

/-- Keeps a variable for the function that runs, to be brought back to what it was. -/
def hide (argument : Octets) (sh : Shell) : Except Octets Shell :=
  let (name, rest) := argument.span (· != '=')
  let old := sh.binding? name
  let sh := { sh with
    hidden := sh.hidden.map fun h => { h with bindings := (name, old) :: h.bindings } }
  match rest with
  | _ :: value => sh.assignChecked name value
  | [] =>
    if !isName name then .error (badName name)
    else if old.isSome then .ok sh
    else .ok (sh.setVariable ⟨name, none, false, false⟩)

/-- Keeps the options for the function that runs. -/
def hideOptions (sh : Shell) : Shell :=
  { sh with hidden := sh.hidden.map fun h => { h with options := h.options.or (some sh.options) } }

/-- Gives a function variables of its own, and for a dash its own options. -/
def localize : Command := fun _ arguments sh =>
  if sh.hidden.isNone then sh.refuses (Octets.ofText "not in a function")
  else each (fun a sh => if a = ['-'] then .ok sh.hideOptions else hide a sh) arguments sh

/-! ### Reading -/

/-- What is read from a line, with marks on the characters behind backslashes, how many characters
were taken, and whether the line had an end. -/
def lineOf (isRaw : Bool) : Octets → List Marked × Nat × Bool
  | [] => ([], 0, false)
  | '\n' :: _ => ([], 1, true)
  | '\\' :: '\n' :: rest =>
    if isRaw then ([('\\', false)], 2, true)
    else
      let (line, count, isEnded) := lineOf isRaw rest
      (line, count + 2, isEnded)
  | '\\' :: c :: rest =>
    if isRaw then
      let (line, count, isEnded) := lineOf isRaw (c :: rest)
      (('\\', false) :: line, count + 1, isEnded)
    else
      let (line, count, isEnded) := lineOf isRaw rest
      ((c, true) :: line, count + 2, isEnded)
  | c :: rest =>
    let (line, count, isEnded) := lineOf isRaw rest
    (if c = '\x00' || (c = '\\' && !isRaw) then line else (c, false) :: line, count + 1, isEnded)

/-- Gives some names the fields of a line; those for which there is none are emptied. -/
def assignFields : List Octets → List Octets → Shell → Except Octets Shell
  | [], _, sh => .ok sh
  | name :: names, values, sh => do
    let sh ← sh.assignChecked name (values.headD [])
    assignFields names values.tail sh

/-- Reads a line of the standard input into variables. -/
def read : Command := fun _ arguments sh =>
  withOptions ['r'] ['p'] arguments sh fun given names =>
    if names.isEmpty then sh.refuses (Octets.ofText "arg count")
    else
      let (found, _) := sh.surroundings.readAll 0 sh.system
      let unread := match found with
        | .ok bytes => Octets.ofBytes bytes
        | .error _ => []
      let (line, count, isEnded) := lineOf (given.any (·.1 = 'r')) unread
      let system := match sh.descriptors.lookup 0 with
        | some stream => (sh.system.read stream (some count)).2
        | none => sh.system
      let sh := { sh with system }
      match assignFields names (fieldsFor (separators sh) names.length line) sh with
      | .ok sh => sh.answers (truth isEnded)
      | .error reason => sh.refuses reason

end Storyboard.Shell
