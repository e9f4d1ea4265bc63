/-!
Arguments of a command line. At each level, arguments are flags, options with a value, the name of
a command that opens the next level, or free arguments. Nothing may be given twice at one level, and
a value that opens with a dash must be joined to its option by an equals sign. A value is tested
where it stands, so that a bad one counts before anything behind it.
-/

namespace Storyboard.CommandLine

/-- A flag or an option: its long name and the letter that also stands for it. -/
structure Name where
  long : String
  letter : Option Char
deriving DecidableEq

/-- An option, with the values that it accepts. -/
structure Parameter where
  name : Name
  accepts : String → Bool

/-- What a level understands. -/
structure Level where
  flags : List Name
  options : List Parameter
  commands : List String
  /-- The greatest number of free arguments. -/
  free : Nat
  acceptsFree : String → Bool
  tellsVersion : Bool

/-- Why the reading of arguments stops early. -/
inductive Stop where
  | misused
  | version
  | help
deriving DecidableEq

/-- What has been given at a level. -/
structure Given where
  flags : List String
  values : List (String × String)
  free : List String
  /-- The option whose value comes next. -/
  pending : Option Parameter
  /-- Whether all further arguments are free ones. -/
  isLiteral : Bool

/-- What a level has been given, and the command that ends it with the arguments behind it. -/
structure Scanned where
  given : Given
  command : Option (String × List String)

namespace Given

def none : Given := ⟨[], [], [], .none, false⟩

def has (g : Given) (name : String) : Bool :=
  g.flags.contains name || (g.values.lookup name).isSome

def flag (g : Given) (name : String) : Except Stop Given :=
  if g.has name then .error .misused else .ok { g with flags := name :: g.flags }

def value (g : Given) (p : Parameter) (text : String) : Except Stop Given :=
  if g.has p.name.long || !p.accepts text then .error .misused
  else .ok { g with values := (p.name.long, text) :: g.values, pending := .none }

/-- Waits for the value of an option. -/
def await (g : Given) (p : Parameter) : Except Stop Given :=
  if g.has p.name.long then .error .misused else .ok { g with pending := p }

def value? (g : Given) (name : String) : Option String :=
  g.values.lookup name

end Given

namespace Level

def flagOf? (l : Level) (p : Name → Bool) : Option String :=
  (l.flags.find? p).map (·.long)

def optionOf? (l : Level) (p : Name → Bool) : Option Parameter :=
  l.options.find? fun o => p o.name

/-- Takes an argument with two dashes in front, without them. -/
def takeLong (l : Level) (g : Given) (text : List Char) : Except Stop Given :=
  let name := String.ofList (text.takeWhile (· != '='))
  let isNamed (n : Name) : Bool := n.long == name
  match text.dropWhile (· != '=') with
  | _ :: value =>
    match l.optionOf? isNamed with
    | some option => g.value option (String.ofList value)
    | none => .error .misused
  | [] =>
    match l.optionOf? isNamed, l.flagOf? isNamed with
    | some option, _ => g.await option
    | none, some flag => g.flag flag
    | none, none =>
      if name = "help" then .error .help
      else if l.tellsVersion && name = "version" then .error .version
      else .error .misused

/-- Takes letters behind a single dash; what follows the letter of an option is its value. -/
def takeLetters (l : Level) : Given → List Char → Except Stop Given
  | g, [] => .ok g
  | g, c :: rest =>
    let isLetter (n : Name) : Bool := n.letter == some c
    match l.flagOf? isLetter, l.optionOf? isLetter with
    | some flag, _ => do takeLetters l (← g.flag flag) rest
    | none, some option =>
      match rest with
      | [] => g.await option
      | '=' :: value => g.value option (String.ofList value)
      | value => g.value option (String.ofList value)
    | none, none =>
      if c = 'h' then .error .help
      else if l.tellsVersion && c = 'V' then .error .version
      else .error .misused

def takeFree (l : Level) (g : Given) (argument : String) : Except Stop Given :=
  if g.free.length < l.free && l.acceptsFree argument then
    .ok { g with free := g.free ++ [argument] }
  else .error .misused

/-- Whether an argument cannot be a value or a free argument as it stands. -/
def opensWithDash (argument : List Char) : Bool :=
  match argument with
  | '-' :: _ :: _ => true
  | _ => false

/-- Takes one argument that names no command. -/
def take (l : Level) (g : Given) (argument : String) : Except Stop Given :=
  if g.isLiteral then l.takeFree g argument
  else
    match g.pending with
    | some option =>
      if opensWithDash argument.toList then .error .misused else g.value option argument
    | none =>
      match argument.toList with
      | ['-', '-'] => .ok { g with isLiteral := true }
      | '-' :: '-' :: text => l.takeLong g text
      | '-' :: c :: text => l.takeLetters g (c :: text)
      | _ => l.takeFree g argument

/-- Whether an argument is the name of a command at this place. -/
def isCommand (l : Level) (g : Given) (argument : String) : Bool :=
  !g.isLiteral && g.pending.isNone && l.commands.contains argument

/-- Reads the arguments of a level up to the name of a command. -/
def scan (l : Level) : Given → List String → Except Stop Scanned
  | g, [] => if g.pending.isSome then .error .misused else .ok ⟨g, none⟩
  | g, argument :: rest =>
    if l.isCommand g argument then .ok ⟨g, some (argument, rest)⟩
    else do scan l (← l.take g argument) rest

end Level

end Storyboard.CommandLine
