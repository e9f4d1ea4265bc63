import Storyboard.Shell.Command.Variable

/-!
The commands that change the arguments and the options of the shell, and the one that reads the
options of a script.
-/

namespace Storyboard.Shell

/-! ### Options of the shell -/

/-- The names of the options, with their letters where they have some. -/
def optionNames : List (String × Option Char) :=
  [("errexit", some 'e'), ("noglob", some 'f'), ("ignoreeof", some 'I'), ("interactive", some 'i'),
   ("monitor", some 'm'), ("noexec", some 'n'), ("stdin", some 's'), ("xtrace", some 'x'),
   ("verbose", some 'v'), ("vi", some 'V'), ("emacs", some 'E'), ("noclobber", some 'C'),
   ("allexport", some 'a'), ("notify", some 'b'), ("nounset", some 'u'), ("privileged", some 'p'),
   ("nolog", none), ("debug", none)]

/-- Turns an option on or off. -/
def turn (sh : Shell) (isOn : Bool) (letter : Char) : Shell :=
  let others := sh.options.filter (· != letter)
  { sh with options := if isOn then letter :: others else others }

/-- The option that the letter of another one turns off. -/
def rivalOf? (letter : Char) : Option Char :=
  if letter = 'V' then some 'E' else if letter = 'E' then some 'V' else none

/-- Turns on or off the option of a letter. -/
def turnLetter (sh : Shell) (isOn : Bool) (letter : Char) : Except Octets Shell :=
  if optionNames.any (·.2 = some letter) then
    let sh := sh.turn isOn letter
    .ok (if isOn then (rivalOf? letter).elim sh (sh.turn false) else sh)
  else .error (Octets.ofText "Illegal option -" ++ [letter])

/-- Turns on or off the option of a name. -/
def turnName (sh : Shell) (isOn : Bool) (name : Octets) : Except Octets Shell :=
  match optionNames.find? (·.1.toList = name) with
  | some (_, letter) => .ok ((letter.map (sh.turn isOn)).getD sh)
  | none => .error (Octets.ofText "Illegal option -o " ++ name)

def isOn (sh : Shell) (letter : Option Char) : Bool :=
  letter.any sh.has

/-- The lines that tell the options, to be read or to be run again. -/
def toldSettings (sh : Shell) (isList : Bool) : Octets :=
  if isList then
    Octets.ofText "Current option settings\n"
      ++ optionNames.flatMap fun (name, letter) =>
        let gap := String.ofList (List.replicate (16 - name.length) ' ')
        Octets.ofText (name ++ gap ++ (if sh.isOn letter then "on\n" else "off\n"))
  else
    optionNames.flatMap fun (name, letter) =>
      Octets.ofText ((if sh.isOn letter then "set -o " else "set +o ") ++ name ++ "\n")

/-- What came of reading settings: the shell, what is printed, and the arguments behind them, if
these are to be the arguments of the shell. -/
structure Settled where
  shell : Shell
  printed : Octets
  arguments : Option (List Octets)

/-- Reads the letters of one argument; the letter for names takes the next argument. -/
def settingLetters (isOn : Bool) : Octets → List Octets → Shell →
    Except Octets (Shell × Octets × List Octets)
  | [], rest, sh => .ok (sh, [], rest)
  | 'o' :: more, [], sh => do
    let (sh, printed, rest) ← settingLetters isOn more [] sh
    return (sh, sh.toldSettings isOn ++ printed, rest)
  | 'o' :: more, name :: rest, sh => do
    settingLetters isOn more rest (← sh.turnName isOn name)
  | c :: more, rest, sh => do
    settingLetters isOn more rest (← sh.turnLetter isOn c)

/-- Reads settings in front of some arguments; the first argument bounds their number. -/
def settings : Nat → List Octets → Shell → Except Octets Settled
  | _, ['-'] :: rest, sh =>
    .ok ⟨(sh.turn false 'x').turn false 'v', [], if rest.isEmpty then none else some rest⟩
  | _, ['-', '-'] :: rest, sh => .ok ⟨sh, [], some rest⟩
  | count + 1, (c :: letters) :: rest, sh =>
    if c = '-' || c = '+' then do
      let (sh, printed, rest) ← settingLetters (c = '-') letters rest sh
      let settled ← settings count rest sh
      return { settled with printed := printed ++ settled.printed }
    else .ok ⟨sh, [], some ((c :: letters) :: rest)⟩
  | _, [], sh => .ok ⟨sh, [], none⟩
  | _, rest, sh => .ok ⟨sh, [], some rest⟩

/-- Jobs cannot be controlled, as there is no terminal: the first shell refuses that option. -/
def refuseControl (sh : Shell) : Shell :=
  if sh.has 'm' && sh.process = sh.main then
    (sh.complain (Octets.ofText "can't access tty; job control turned off")).turn false 'm'
  else sh

/-- Gives the shell other arguments. -/
def withArguments (sh : Shell) (arguments : List Octets) : Shell :=
  { sh.restartOptions 1 with arguments }

/-- Changes the options and the arguments of the shell, or tells its variables. -/
def set : Command := fun _ arguments sh =>
  if arguments.isEmpty then
    sh.prints (told [] (sh.bindings.filter (·.value.isSome)))
  else
    match settings arguments.length arguments sh with
    | .ok s =>
      let sh := s.shell.refuseControl
      prints ((s.arguments.map sh.withArguments).getD sh) s.printed
    | .error reason => sh.refuses reason

/-- Drops arguments in front. -/
def shift : Command := fun _ arguments sh =>
  let count := (arguments.head?.map numberIn).getD (.ok 1)
  match count with
  | .error reason => sh.refuses reason
  | .ok n =>
    if n ≤ sh.arguments.length then answers (sh.withArguments (sh.arguments.drop n)) 0
    else sh.refuses (Octets.ofText "can't shift that many")

/-! ### Options of a script -/

/-- What reading an option of a script leads to. -/
structure OptionRead where
  letter : Char
  /-- What the option is given; nothing takes the variable for it away. -/
  value : Option Octets
  complaint : Octets
  /-- The argument that comes next, and how far the one before it was read. -/
  index : Nat
  offset : Option Nat
  isDone : Bool

/-- Whether a letter is among the options, and whether it wants an argument. -/
def wanted? (letters : Octets) (letter : Char) : Option Bool :=
  match letters with
  | [] => none
  | c :: ':' :: rest => if c = letter then some true else wanted? rest letter
  | c :: rest => if c = letter then some false else wanted? rest letter

/-- Reads a letter, with what is behind it in its argument and the index of the next argument. -/
def optionAt (letters : Octets) (arguments : List Octets) (index : Nat) (letter : Char)
    (behind : Octets) (position : Nat) : OptionRead :=
  let isQuiet := letters.head? = some ':'
  let offset := some (position + 1)
  match wanted? (if isQuiet then letters.tail else letters) letter with
  | none =>
    if isQuiet then ⟨'?', some [letter], [], index, offset, false⟩
    else
      let text := Octets.ofText "Illegal option -" ++ [letter, '\n']
      ⟨'?', none, text, index, offset, false⟩
  | some false => ⟨letter, some [], [], index, offset, false⟩
  | some true =>
    if !behind.isEmpty then ⟨letter, some behind, [], index, none, false⟩
    else
      match arguments[index - 1]? with
      | some value => ⟨letter, some value, [], index + 1, none, false⟩
      | none =>
        if isQuiet then ⟨':', some [letter], [], index, none, false⟩
        else
          let text := Octets.ofText "No arg for -" ++ letter :: Octets.ofText " option\n"
          ⟨'?', none, text, index, none, false⟩

/-- Reads the next option. -/
def nextOption (sh : Shell) (letters : Octets) (arguments : List Octets) : OptionRead :=
  let index := if sh.optionIndex ≤ arguments.length + 1 then sh.optionIndex else 1
  let offset := if sh.optionIndex ≤ arguments.length + 1 then sh.optionOffset else none
  let current := (if index ≤ 1 then none else arguments[index - 2]?).getD []
  let started :=
    match offset with
    | some n => if index ≤ 1 then [] else current.drop n
    | none => []
  match started with
  | letter :: behind =>
    optionAt letters arguments index letter behind (current.length - behind.length - 1)
  | [] =>
    match arguments[index - 1]? with
    | some ('-' :: letter :: behind) =>
      if letter = '-' && behind.isEmpty then ⟨'?', none, [], index + 1, none, true⟩
      else optionAt letters arguments (index + 1) letter behind 1
    | _ => ⟨'?', none, [], index, none, true⟩

/-- Keeps what was read of an option in variables. -/
def keepOption (name : Octets) (r : OptionRead) (sh : Shell) : Except Octets Shell := do
  let given := "OPTARG".toList
  let sh ←
    match r.value with
    | some value => sh.assign given value false
    | none => if r.isDone then .ok sh else unsetVariable given sh
  let sh ← sh.assign optionVariable (decimal r.index) false
  let sh := { sh with optionIndex := r.index, optionOffset := r.offset }
  sh.assignChecked name [r.letter]

/-- Reads the next option of a script into a variable. -/
def readOption : Command := fun _ arguments sh =>
  match arguments with
  | letters :: name :: others =>
    let r := nextOption sh letters (if others.isEmpty then sh.arguments else others)
    let sh := if r.complaint.isEmpty then sh else sh.say r.complaint
    match keepOption name r sh with
    | .ok sh => sh.answers (truth (!r.isDone))
    | .error reason => sh.refuses reason
  | _ => sh.refuses (Octets.ofText "Usage: getopts optstring var [arg...]")

end Storyboard.Shell
