import Storyboard.Program.Listing
import Storyboard.Program.Search
import Storyboard.Text.FileName

/-!
Small programs that are always installed: `true` and `false`, which only end, and `cat` and `tee`,
which pass bytes on.
-/

namespace Storyboard

/-- What a program does with the name by which it is called, and its arguments. -/
abbrev Tool := (called : Octets) → List Octets → Process → System → ExitStatus × System

namespace Tool

def exitCode (failed : Bool) : ExitStatus :=
  .exited (if failed then 1 else 0)

/-- Tools that only end. -/
def ending (status : ExitStatus) : Tool :=
  fun _ _ _ s => (status, s)

/-! ### Options -/

/-- The long options of a tool, each with the letter that says the same. -/
abbrev LongOptions := List (String × Char)

/-- The long options that every tool has; they only print and end well. -/
def tellingOptions : List String :=
  ["help", "version"]

inductive Scanned where
  /-- The letters of the options, and the other arguments. -/
  | given (letters : List Char) (operands : List Octets)
  | telling
  | refused (reason : String)

namespace Scanned

def addLetters (letters : List Char) : Scanned → Scanned
  | .given others operands => .given (letters ++ others) operands
  | other => other

def addOperand (operand : Octets) : Scanned → Scanned
  | .given letters operands => .given letters (operand :: operands)
  | other => other

end Scanned

/-- The long option that an argument means, of some, and the value behind its equals sign. It may be
cut short if no other one begins so. -/
def longOption (names : List String) (argument : Octets) : Except String (String × Option Octets) :=
  let (name, rest) := argument.span (· != '=')
  let found :=
    match names.find? (·.toList = name) with
    | some exact => [exact]
    | none => names.filter fun word => name.isPrefixOf word.toList
  match found with
  | [] => .error ("unrecognized option '--" ++ Octets.toText argument ++ "'")
  | [word] => .ok (word, rest.head?.map fun _ => rest.tail)
  | several =>
    .error ("option '--" ++ Octets.toText argument ++ "' is ambiguous; possibilities:"
      ++ String.join (several.map fun word => " '--" ++ word ++ "'"))

/-- Says that a long option takes no value. -/
def refuseValue (word : String) : String :=
  "option '--" ++ word ++ "' doesn't allow an argument"

/-- What a long option says that takes no value. -/
def scanLong (long : LongOptions) (argument : Octets) : Scanned :=
  match longOption (long.map (·.1) ++ tellingOptions) argument with
  | .error reason => .refused reason
  | .ok (word, some _) => .refused (refuseValue word)
  | .ok (word, none) =>
    match long.lookup word with
    | some letter => .given [letter] []
    | none => .telling

/-- Reads the options among some arguments, wherever they stand before two dashes. -/
def scan (letters : List Char) (long : LongOptions) : List Octets → Scanned
  | [] => .given [] []
  | ['-', '-'] :: rest => .given [] rest
  | ('-' :: '-' :: name) :: rest =>
    match scanLong long name with
    | .given said _ => (scan letters long rest).addLetters said
    | other => other
  | ('-' :: c :: more) :: rest =>
    match (c :: more).find? (!letters.contains ·) with
    | some unknown => .refused ("invalid option -- '" ++ String.ofList [unknown] ++ "'")
    | none => (scan letters long rest).addLetters (c :: more)
  | operand :: rest => (scan letters long rest).addOperand operand

/-- Complains under the name by which a tool was called. -/
def complain (called : Octets) (reason : String) (p : Process) (s : System) : System :=
  p.complain (called ++ Octets.ofText (": " ++ reason ++ "\n")) s

/-- Complains about the use of a tool. -/
def refuse (called : Octets) (reason : String) (code : Nat) (p : Process) (s : System) :
    ExitStatus × System :=
  let hint := "Try '".toList ++ called ++ " --help' for more information.\n".toList
  (.exited code, p.complain hint (complain called reason p s))

/-- Complains about a file. -/
def blame (called name : Octets) (cause : FileError) (p : Process) (s : System) : System :=
  p.complain
    (called ++ Octets.ofText ": " ++ Text.FileName.write name
      ++ Octets.ofText (": " ++ cause.reason ++ "\n")) s

/-! ### Passing on -/

/-- Whether a stream, from which something is still to be read, is the file of another one. -/
def feedsItself (s : System) (source target : Nat) : Bool :=
  match s.stream? source, s.stream? target with
  | some (.file place offset _), some (.file other _ _) =>
    place == other &&
      (match s.store.find? place with
        | some (.file content _) => offset < content.size
        | _ => false)
  | _, _ => false

/-- Passing on: whether it has failed, and how far the listing has come. -/
structure Passing where
  listing : Listing
  state : Listing.State
  isFailed : Bool
  /-- Whether nothing more can be passed on. -/
  isOver : Bool
  system : System

namespace Passing

def fail (g : Passing) (system : System) : Passing :=
  { g with isFailed := true, system }

/-- Passes on one stream. -/
def passStream (called : Octets) (p : Process) (g : Passing) (name : Octets) (source : Nat) :
    Passing :=
  if (p.descriptors.lookup 1).any (feedsItself g.system source) then
    let text := called ++ Octets.ofText ": " ++ Text.FileName.write name
      ++ Octets.ofText ": input file is output file\n"
    g.fail (p.complain text g.system)
  else
    match g.system.read source none with
    | (.error cause, s) => g.fail (blame called name cause p s)
    | (.ok bytes, s) =>
      let (text, state) := g.listing.write g.state (Octets.ofBytes bytes)
      if text.isEmpty then { g with state, system := s }
      else
        match p.write 1 (Octets.toBytes text) s with
        | (.ok (), system) => { g with state, system }
        | (.error cause, s) =>
          { g.fail (complain called ("write error: " ++ cause.reason) p s) with isOver := true }

/-- Passes on what a name stands for; a dash names the standard input. -/
def passNamed (called : Octets) (p : Process) (g : Passing) (name : Octets) : Passing :=
  if g.isOver then g
  else if name = ['-'] then
    match p.descriptors.lookup 0 with
    | some source => g.passStream called p name source
    | none => g.fail (blame called name .badDescriptor p g.system)
  else
    match p.openToRead name g.system with
    | (.ok source, system) => passStream called p { g with system } name source
    | (.error cause, s) => g.fail (blame called name cause p s)

end Passing

/-- The options of `cat`. -/
def catLetters : List Char :=
  ['A', 'b', 'e', 'E', 'n', 's', 't', 'T', 'u', 'v']

def catWords : LongOptions :=
  [("number-nonblank", 'b'), ("number", 'n'), ("squeeze-blank", 's'), ("show-nonprinting", 'v'),
   ("show-ends", 'E'), ("show-tabs", 'T'), ("show-all", 'A')]

/-- Passes on the named files, one after the other. -/
def cat : Tool := fun called arguments p s =>
  match scan catLetters catWords arguments with
  | .telling => (.success, s)
  | .refused reason => refuse called reason 1 p s
  | .given letters operands =>
    if (p.descriptors.lookup 1).isNone then
      let reason := "standard output: " ++ FileError.badDescriptor.reason
      (exitCode true, complain called reason p s)
    else
    let names := if operands.isEmpty then [['-']] else operands
    let g := names.foldl (Passing.passNamed called p)
      ⟨.ofLetters letters, Listing.start, false, false, s⟩
    if names.contains ['-'] && (p.descriptors.lookup 0).isNone then
      let reason := "closing standard input: " ++ FileError.badDescriptor.reason
      (exitCode true, complain called reason p g.system)
    else (exitCode g.isFailed, g.system)

/-- Opens the files to which `tee` writes. -/
def openTargets (called : Octets) (p : Process) (appends : Bool) :
    List Octets → System → Bool × List (Octets × Nat) × System
  | [], s => (false, [], s)
  | name :: rest, s =>
    match p.openToWrite name (if appends then .appending else .writing) (!appends) s with
    | (.ok stream, s) =>
      let (failed, streams, s) := openTargets called p appends rest s
      (failed, (name, stream) :: streams, s)
    | (.error cause, s) =>
      let (_, streams, s) := openTargets called p appends rest (blame called name cause p s)
      (true, streams, s)

/-- Writes to some files, each by itself; the first result is whether that has failed for one. -/
def writeTargets (called : Octets) (p : Process) (bytes : ByteArray) :
    List (Octets × Nat) → System → Bool × System
  | [], s => (false, s)
  | (name, stream) :: rest, s =>
    match s.write stream bytes with
    | (.ok (), s) => writeTargets called p bytes rest s
    | (.error cause, s) =>
      let (_, s) := writeTargets called p bytes rest (blame called name cause p s)
      (true, s)

/-- Passes on the standard input, and writes it to the named files. -/
def tee : Tool := fun called arguments p s =>
  match scan ['a', 'i', 'p'] [("append", 'a'), ("ignore-interrupts", 'i'), ("output-error", 'p')]
      arguments with
  | .telling => (.success, s)
  | .refused reason => refuse called reason 1 p s
  | .given letters names =>
    let (failed, streams, s) := openTargets called p (letters.contains 'a') names s
    match p.readAll 0 s with
    | (.error cause, s) =>
      let s := complain called ("read error: " ++ cause.reason) p s
      let s :=
        if (p.descriptors.lookup 0).isSome then s
        else complain called ("standard input: " ++ cause.reason) p s
      (exitCode true, s)
    | (.ok bytes, s) =>
      let (failed, s) :=
        match p.write 1 bytes s with
        | (.ok (), s) => (failed, s)
        | (.error cause, s) =>
          if bytes.isEmpty then (failed, s)
          else (true, complain called ("'standard output': " ++ cause.reason) p s)
      let (isShort, s) := writeTargets called p bytes streams s
      (exitCode (failed || isShort), s)

/-- The tool of a name. -/
def find? (name : String) : Option Tool :=
  match name with
  | "true" => some (ending .success)
  | "false" => some (ending (exitCode true))
  | "cat" => some cat
  | "tee" => some tee
  | _ => none

end Tool

end Storyboard
