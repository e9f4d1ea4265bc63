import Storyboard.Program.Environment
import Storyboard.Program.Interpreter
import Storyboard.Shell.Start

/-!
The programs that can be called: those that are installed, and files that may be run, whose first
line names the program that reads them.
-/

namespace Storyboard.Program

/-- The installed program of a name. -/
def tool? (launch : Launch) (name : String) : Option Tool :=
  match name with
  | "sh" | "dash" | "bash" => some (Shell.tool launch)
  | "env" => some (Environment.tool launch)
  | name => Tool.find? name

/-- How often scripts may name scripts as their interpreters. -/
def chainLimit : Nat := 5

/-- Starts the program at a path; the first argument bounds the scripts that name each other as
their interpreters. -/
def startAt (tools : String → Option Tool) : Nat → Launch
  | 0, _, _, _, _, s => (.error .tooManyLinks, s)
  | chain + 1, path, called, arguments, p, s =>
    match (installedAt? path).bind tools with
    | some tool =>
      let (status, s) := tool called arguments p s
      (.ok status, s)
    | none =>
      match s.store.node (p.path path) with
      | .error cause => (.error cause, s)
      | .ok .directory | .ok (.device _) | .ok (.file _ false) => (.error .permission, s)
      | .ok (.file content true) =>
        match interpreter? content with
        | none => (.error .notProgram, s)
        | some (interpreter, argument) =>
          startAt tools chain interpreter interpreter (argument.toList ++ path :: arguments) p s

/-- How many bytes an argument may have. -/
def argumentLimit : Nat := 131071

/-- Starts a program; the first argument bounds how deeply programs start each other. -/
def launch : Nat → Launch
  | 0, _, _, _, _, s => (.error .permission, s)
  | depth + 1, path, called, arguments, p, s =>
    match standing p s.store path with
    | .error cause => (.error cause, s)
    | .ok () =>
      if arguments.any (argumentLimit < ·.length) then (.error .argumentTooLong, s)
      else startAt (tool? (launch depth)) (chainLimit + 1) path called arguments p s

/-- How deeply programs may start each other. -/
def depthLimit : Nat := 64

/-- The variables around the programs that are called, apart from those that are set. -/
def standardEnvironment : List (String × String) :=
  [("PATH", "/usr/local/sbin:/usr/local/bin:/usr/sbin:/usr/bin:/sbin:/bin"), ("HOME", "/root"),
   ("PWD", Process.home)]

/-- The rights that are kept from the files of the programs that are called. -/
def standardMask : Nat := 0o022

/-- The limits of the programs that are called, where there are some. -/
def standardLimits : List (Char × Limit) :=
  [('s', ⟨some 8192, none⟩), ('c', ⟨some 0, none⟩), ('l', ⟨some 8192, some 8192⟩),
   ('n', ⟨some 1048576, some 1048576⟩), ('r', ⟨some 0, some 0⟩)]

/-- The system in which a call starts: its input, and two streams for what is written. -/
def startingSystem (input : ByteArray) (store : Store) : System :=
  ⟨store, [.source input 0, .gathering .empty, .gathering .empty], 1, []⟩

/-- The process in which a call starts. -/
def startingProcess (environment : List (String × String)) : Process :=
  let others := standardEnvironment.filter fun v => !environment.any (·.1 = v.1)
  ⟨(environment ++ others).map fun (name, value) => (Octets.ofText name, Octets.ofText value),
    [(0, 0), (1, 1), (2, 2)], [], 1, standardMask, standardLimits, []⟩

/-- Runs what is installed and what the working directory holds, in an environment. -/
def runsIn (environment : List (String × String)) : RunsPrograms := fun call store =>
  if '\x00' ∈ call.program.toList || call.arguments.any (fun a => a.toList.contains '\x00') then
    (.error .nullInArgument, store)
  else
    let p := startingProcess environment
    let name := Octets.ofText call.program
    match search p store ((p.setting? "PATH").getD standardPath) name with
    | .error cause => (.error cause, store)
    | .ok path =>
      let (result, s) := launch depthLimit path name (call.arguments.map Octets.ofText) p
        (startingSystem call.input store)
      (result.map fun status => ⟨status, s.gathered 1, s.gathered 2, s.unread 0⟩, s.store)

/-- Runs what is installed and what the working directory holds. -/
def runs : RunsPrograms :=
  runsIn []

end Storyboard.Program
