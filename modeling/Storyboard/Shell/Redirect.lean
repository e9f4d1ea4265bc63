import Storyboard.Shell.Expansion

/-!
Redirections: descriptors are given other streams for a while. The targets are expanded first; then
the streams are opened in order, until one cannot be.
-/

namespace Storyboard.Shell

/-- A redirection whose target is known. -/
inductive Target where
  | file (descriptor : Nat) (mode : FileMode) (name : Octets)
  | duplicate (descriptor : Nat) (source : Option Nat)
  /-- A text that the script holds, which is expanded when the redirection is made. -/
  | document (descriptor number : Nat)

def Target.descriptor : Target → Nat
  | .file descriptor .. | .duplicate descriptor _ | .document descriptor _ => descriptor

/-- Why a file could not be made. -/
def creationReason : FileError → String
  | .missing | .notDirectory => "Directory nonexistent"
  | cause => cause.reason

/-- Why a file could not be opened. -/
def openingReason : FileError → String
  | .missing | .notDirectory => "No such file"
  | cause => cause.reason

/-- The descriptor that a text names; a dash names none. -/
def descriptorOf? (text : Octets) : Option (Option Nat) :=
  match text with
  | ['-'] => some none
  | [c] => if Text.isAsciiDigit c then some (some (c.toNat - '0'.toNat)) else none
  | _ => none

/-- Expands the target of a redirection. -/
def targetOf (finish : Finisher) (e : Engine) (r : Redirection) (sh : Shell) :
    Option Target × Shell :=
  match r with
  | .file descriptor mode w =>
    let (name, sh) := textOf finish e .single w sh
    (some (.file descriptor mode name), sh)
  | .duplicate descriptor w =>
    let (text, sh) := textOf finish e .single w sh
    if sh.isStopped then (none, sh)
    else
      match descriptorOf? text with
      | some source => (some (.duplicate descriptor source), sh)
      | none =>
        let text := sh.heading sh.readLine ++ Octets.ofText "Syntax error: Bad fd number\n"
        (none, (sh.say text).fails)
  | .document descriptor number => (some (.document descriptor number), sh)

/-- Expands the targets of some redirections, unless one ends the shell. -/
def targetsOf (finish : Finisher) (e : Engine) :
    List Redirection → Shell → List Target × Shell
  | [], sh => ([], sh)
  | r :: rest, sh =>
    match targetOf finish e r sh with
    | (some t, sh) =>
      if sh.isStopped then ([], sh)
      else
        let (others, sh) := targetsOf finish e rest sh
        (t :: others, sh)
    | (none, sh) => ([], sh)

/-- Says why a file cannot be opened. -/
def refuseFile (sh : Shell) (verb : String) (name : Octets) (reason : String) : Shell :=
  sh.complain (Octets.ofText ("cannot " ++ verb ++ " ") ++ name ++ Octets.ofText (": " ++ reason))

/-- Opens a file to write to; a refusal tells what was tried. -/
def openToWrite (sh : Shell) (verb : String) (descriptor : Nat) (name : Octets) (access : Access)
    (empties : Bool) : Bool × Shell :=
  match sh.surroundings.openToWrite name access empties sh.system with
  | (.ok stream, system) =>
    (true, { sh with system, descriptors := sh.descriptors.set descriptor stream })
  | (.error cause, system) =>
    (false, refuseFile { sh with system } verb name (creationReason cause))

/-- What a name stands for. -/
def nodeOf? (sh : Shell) (name : Octets) : Option Node :=
  (sh.system.store.node (sh.surroundings.path name)).toOption

/-- Whether a name stands for a file that is there. -/
def isThere (sh : Shell) (name : Octets) : Bool :=
  match nodeOf? sh name with
  | some (.file ..) => true
  | _ => false

/-- Opens a text that the script holds. A mistake in it fails the redirection alone. -/
def openDocument (finish : Finisher) (e : Engine) (descriptor number : Nat) (sh : Shell) :
    Bool × Shell :=
  let (text, sh) := textOf finish e .single ((sh.documents.lookup number).getD []) sh
  match sh.jump with
  | none => (true, sh.attach descriptor (.source (Octets.toBytes text) 0))
  | some (.exit (.exited _) _) => (false, { sh with jump := none })
  | some _ => (false, sh)

/-- Makes a descriptor the copy of another one. -/
def copyDescriptor (descriptor source : Nat) (sh : Shell) : Bool × Shell :=
  match sh.descriptors.lookup source with
  | some stream => (true, { sh with descriptors := sh.descriptors.set descriptor stream })
  | none =>
    let text := decimal source ++ Octets.ofText (": " ++ FileError.badDescriptor.reason)
    (false, sh.complain text)

/-- Gives a descriptor the stream that a redirection asks for; whether that succeeded. A descriptor
that is set aside, to be brought back later, is closed before it becomes the copy of another one. -/
def redirect (finish : Finisher) (e : Engine) (isSetAside : Bool) (sh : Shell) :
    Target → Bool × Shell
  | .file descriptor .read name =>
    match sh.surroundings.openToRead name sh.system with
    | (.ok stream, system) =>
      (true, { sh with system, descriptors := sh.descriptors.set descriptor stream })
    | (.error cause, system) =>
      (false, refuseFile { sh with system } "open" name (openingReason cause))
  | .file descriptor .write name =>
    if sh.has 'C' && isThere sh name then
      (false, refuseFile sh "create" name FileError.taken.reason)
    else
      let verb := if sh.has 'C' && (nodeOf? sh name).isSome then "open" else "create"
      openToWrite sh verb descriptor name .writing true
  | .file descriptor .overwrite name => openToWrite sh "create" descriptor name .writing true
  | .file descriptor .append name => openToWrite sh "create" descriptor name .appending false
  | .file descriptor .readWrite name =>
    openToWrite sh "create" descriptor name ⟨true, true, false⟩ false
  | .duplicate descriptor none =>
    (true, { sh with descriptors := sh.descriptors.close descriptor })
  | .duplicate descriptor (some source) =>
    if isSetAside && (sh.descriptors.lookup source).isNone then
      copyDescriptor descriptor source { sh with descriptors := sh.descriptors.close descriptor }
    else copyDescriptor descriptor source sh
  | .document descriptor number => openDocument finish e descriptor number sh

/-- Follows redirections in order, until one fails. Descriptors are set aside at their first one, if
they are to be brought back later; those that were before are given. -/
def redirectAll (finish : Finisher) (e : Engine) (isBrief : Bool) (done : List Nat) :
    List Target → Shell → Bool × Shell
  | [], sh => (true, sh)
  | t :: rest, sh =>
    match redirect finish e (isBrief && !done.contains t.descriptor) sh t with
    | (true, sh) => redirectAll finish e isBrief (t.descriptor :: done) rest sh
    | (false, sh) => (false, sh)

end Storyboard.Shell
