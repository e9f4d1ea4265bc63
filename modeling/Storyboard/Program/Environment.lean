import Storyboard.Program.Tool

/-!
The program `env`: it changes the environment and starts another program in it, or tells what the
environment is.
-/

namespace Storyboard.Environment

/-- A name between quotes, with escapes for quotes and for what cannot be printed. -/
def quoted (name : Octets) : Octets :=
  '\'' :: name.flatMap escape ++ ['\'']
where
  escape (c : Char) : Octets :=
    if c = '\'' || c = '\\' then ['\\', c]
    else if Text.FileName.isPrinted c then [c]
    else Text.FileName.escaped c

/-! ### Options -/

/-- What the options of `env` ask for. -/
structure Wishes where
  /-- Whether nothing of the environment is kept. -/
  isEmpty : Bool
  /-- The variables that are taken away. -/
  removed : List Octets
  /-- Whether null characters end the lines that tell the environment. -/
  endsWithNull : Bool
  /-- The folder in which the program is started. -/
  folder : Option Octets

/-- The long options without a value, each with the letter that says the same. -/
def plainOptions : Tool.LongOptions :=
  [("ignore-environment", 'i'), ("null", '0')]

/-- The long options with a value, each with the letter that says the same. -/
def valuedOptions : Tool.LongOptions :=
  [("unset", 'u'), ("chdir", 'C'), ("split-string", 'S')]

/-- The words of a text, which spaces and tabs separate. -/
def wordsOf (text : Octets) : List Octets :=
  let (word, others) := text.foldr (fun c (word, others) =>
    if c = ' ' || c = '\t' then ([], word :: others) else (c :: word, others)) ([], [])
  (word :: others).filter (!·.isEmpty)

/-- What a letter without a value asks for. -/
def plainWish? (w : Wishes) (letter : Char) : Option Wishes :=
  if letter = 'i' then some { w with isEmpty := true }
  else if letter = '0' then some { w with endsWithNull := true }
  else none

/-- What a letter with a value asks for; a text is divided into arguments that come next. -/
def valuedWish? (w : Wishes) (letter : Char) (value : Octets) (rest : List Octets) :
    Option (Wishes × List Octets) :=
  if letter = 'u' then some ({ w with removed := value :: w.removed }, rest)
  else if letter = 'C' then some ({ w with folder := some value }, rest)
  else if letter = 'S' then some (w, wordsOf value ++ rest)
  else none

/-- What came of reading options. -/
inductive Asked where
  | given (w : Wishes) (rest : List Octets)
  | telling
  | refused (reason : String)
  /-- A blank stands for a letter, as where a line was not divided. -/
  | crowded (blank : Char)

def Asked.ofPair (p : Wishes × List Octets) : Asked :=
  .given p.1 p.2

def isBlank (c : Char) : Bool :=
  c = ' ' || c = '\t' || c = '\n'

/-- Refuses a letter. -/
def Asked.unknown (letter : Char) : Asked :=
  if isBlank letter then .crowded letter
  else .refused ("invalid option -- '" ++ String.ofList [letter] ++ "'")

/-- Reads the letters of one argument. -/
def lettersIn (w : Wishes) : Octets → List Octets → Asked
  | [], rest => .given w rest
  | c :: more, rest =>
    match plainWish? w c with
    | some w => lettersIn w more rest
    | none =>
      let said (value : Octets) (rest : List Octets) : Asked :=
        ((valuedWish? w c value rest).map Asked.ofPair).getD (.unknown c)
      match more, rest with
      | [], value :: rest => said value rest
      | [], [] =>
        if (valuedWish? w c [] []).isSome then
          .refused ("option requires an argument -- '" ++ String.ofList [c] ++ "'")
        else said [] []
      | value, rest => said value rest

/-- Reads a long option. -/
def longIn (w : Wishes) (argument : Octets) (rest : List Octets) : Asked :=
  let names := (plainOptions ++ valuedOptions).map (·.1) ++ Tool.tellingOptions
  match Tool.longOption names argument with
  | .error reason => .refused reason
  | .ok (word, value) =>
    match valuedOptions.lookup word with
    | some letter =>
      match value.or rest.head? with
      | some given =>
        let rest := if value.isSome then rest else rest.tail
        ((valuedWish? w letter given rest).map Asked.ofPair).getD .telling
      | none => .refused ("option '--" ++ word ++ "' requires an argument")
    | none =>
      if value.isSome then .refused (Tool.refuseValue word)
      else
        match (plainOptions.lookup word).bind (plainWish? w) with
        | some w => .given w rest
        | none => .telling

/-- Reads the options in front of the arguments. A dash alone behind them asks for no environment.
The first argument bounds the number of the arguments. -/
def optionsIn : Nat → Wishes → List Octets → Asked
  | 0, w, rest => .given w rest
  | count + 1, w, arguments =>
    let goOn (a : Asked) : Asked :=
      match a with
      | .given w rest => optionsIn count w rest
      | other => other
    match arguments with
    | ['-'] :: rest => .given { w with isEmpty := true } rest
    | ['-', '-'] :: ['-'] :: rest => .given { w with isEmpty := true } rest
    | ['-', '-'] :: rest => .given w rest
    | ('-' :: '-' :: name) :: rest => goOn (longIn w name rest)
    | ('-' :: letters) :: rest => goOn (lettersIn w letters rest)
    | rest => .given w rest

/-- How many options there can be among some arguments. -/
def optionBound (arguments : List Octets) : Nat :=
  arguments.foldl (fun n a => n + a.length + 1) 1

/-! ### The program -/

/-- The assignment that an argument makes. -/
def assignment? (argument : Octets) : Option (Octets × Octets) :=
  match argument.span (· != '=') with
  | (name, _ :: value) => some (name, value)
  | (_, []) => none

def setVariable (environment : List (Octets × Octets)) (a : Octets × Octets) :
    List (Octets × Octets) :=
  if environment.any (·.1 = a.1) then
    environment.map fun v => if v.1 = a.1 then a else v
  else environment ++ [a]

/-- The environment after the assignments in front of some arguments, and the arguments behind
them. -/
def assigned : List Octets → List (Octets × Octets) → List (Octets × Octets) × List Octets
  | [], environment => (environment, [])
  | argument :: rest, environment =>
    match assignment? argument with
    | some a => assigned rest (setVariable environment a)
    | none => (environment, argument :: rest)

/-- Starts a program that is found along the search path; one that is no program after all is read
by the shell. -/
def start (launch : Launch) (name : Octets) (arguments : List Octets) (p : Process) (s : System) :
    Except FileError ExitStatus × System :=
  let path := (p.setting? "PATH").getD Program.standardPath
  match Program.search p s.store path name with
  | .error cause => (.error cause, s)
  | .ok found =>
    match launch found name arguments p s with
    | (.error .notProgram, s) =>
      launch Program.shellPath Program.shellPath (found :: arguments) p s
    | other => other

/-- Complains, and ends with the status for that. -/
def fail (called reason : Octets) (code : Nat) (p : Process) (s : System) : ExitStatus × System :=
  (.exited code, p.complain (called ++ Octets.ofText ": " ++ reason ++ ['\n']) s)

/-- Tells the environment. -/
def tell (called : Octets) (endsWithNull : Bool) (p : Process) (s : System) :
    ExitStatus × System :=
  let ending := if endsWithNull then ['\x00'] else ['\n']
  let lines := p.environment.flatMap fun (name, value) => name ++ '=' :: value ++ ending
  match p.write 1 (Octets.toBytes lines) s with
  | (.ok (), s) => (.success, s)
  | (.error cause, s) =>
    if lines.isEmpty then (.success, s)
    else fail called (Octets.ofText ("write error: " ++ cause.reason)) 125 p s

/-- What to do about a line that was not divided. -/
def divideHint : String :=
  "use -[v]S to pass options in shebang lines"

/-- Starts a program, and says why that fails. A name with blanks is taken for a line that should
have been divided. -/
def startNamed (launch : Launch) (called name : Octets) (arguments : List Octets) (p : Process)
    (s : System) : ExitStatus × System :=
  match start launch name arguments p s with
  | (.ok status, s) => (status, s)
  | (.error cause, s) =>
    let isMissing := cause = .missing
    let (status, s) := fail called (quoted name ++ Octets.ofText (": " ++ cause.reason))
      (if isMissing then 127 else 126) p s
    (status, if isMissing && name.any isBlank then Tool.complain called divideHint p s else s)

/-- The process in the folder in which a program is to be started. -/
def inFolder (folder : Octets) (p : Process) (s : System) : Except FileError Process := do
  let l ← s.store.locate (p.path folder)
  match s.store.find? l with
  | some .directory => return { p with folder := l }
  | some _ => throw .notDirectory
  | none => throw .missing

/-- Does what the options and the arguments behind them ask for. -/
def obey (launch : Launch) (called : Octets) (w : Wishes) (rest : List Octets) (p : Process)
    (s : System) : ExitStatus × System :=
  let removed := if w.isEmpty then [] else w.removed.reverse
  match removed.find? fun name => name.isEmpty || name.contains '=' with
  | some name =>
    fail called (Octets.ofText "cannot unset " ++ quoted name ++ Octets.ofText ": Invalid argument")
      125 p s
  | none =>
    let kept := if w.isEmpty then [] else p.environment.filter fun v => !w.removed.contains v.1
    let (environment, words) := assigned rest kept
    let p := { p with environment }
    match words, w.folder with
    | [], some _ => Tool.refuse called "must specify command with --chdir (-C)" 125 p s
    | [], none => tell called w.endsWithNull p s
    | name :: arguments, folder =>
      if w.endsWithNull then
        Tool.refuse called "cannot specify --null (-0) with command" 125 p s
      else
        match folder.elim (.ok p) fun folder => inFolder folder p s with
        | .ok p => startNamed launch called name arguments p s
        | .error cause =>
          fail called (Octets.ofText "cannot change directory to " ++ quoted (folder.getD [])
            ++ Octets.ofText (": " ++ cause.reason)) 125 p s

/-- Tells the environment, or starts a program in one that is changed. -/
def tool (launch : Launch) : Tool := fun called arguments p s =>
  match optionsIn (optionBound arguments) ⟨false, [], false, none⟩ arguments with
  | .given w rest => obey launch called w rest p s
  | .telling => (.success, s)
  | .refused reason => Tool.refuse called reason 125 p s
  | .crowded blank =>
    let reason := "invalid option -- '" ++ String.ofList [blank] ++ "'"
    Tool.refuse called divideHint 125 p (Tool.complain called reason p s)

end Storyboard.Environment
