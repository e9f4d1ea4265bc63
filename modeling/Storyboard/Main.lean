import Storyboard.CommandLine.Execution

/-!
The program: it takes a picture of the working directory, executes its command line on that, and
carries what has changed back to the directory.
-/

namespace Storyboard

/-- Whether a file can be called as a program: it names its interpreter. -/
def isProgramText (content : ByteArray) : Bool :=
  (Program.interpreter? content).isSome

/-- Adds the files and directories below a location to a picture. -/
partial def addPicture (s : Store) (l : Location) : IO Store := do
  let mut s := s
  let here ← IO.currentDir
  for entry in ← (l.foldl (fun path name => path / name) here).readDir do
    let place := l ++ [entry.fileName]
    match (← entry.path.metadata).type with
    | .dir => s ← addPicture (s.put place .directory) place
    | .file =>
      let content ← IO.FS.readBinFile entry.path
      s := s.put place (.file content (isProgramText content))
    | _ => pure ()
  return s

def pathOfLocation (l : Location) : String :=
  if l.isRooted then "/" ++ "/".intercalate l.tail else "/".intercalate ("." :: l)

/-- Carries the differences between two pictures to the working directory. -/
def carryBack (before after : Store) : IO Unit := do
  for (l, node) in after.entries do
    if before.find? l ≠ some node then
      match node with
      | .directory => IO.FS.createDirAll (pathOfLocation l)
      | .file content _ =>
        IO.FS.createDirAll (pathOfLocation l.dropLast)
        IO.FS.writeBinFile (pathOfLocation l) content
      | .device _ => pure ()
  for (l, _) in before.entries do
    if (after.find? l).isNone then IO.FS.removeFile (pathOfLocation l)

/-- All bytes of the standard input. -/
partial def readAll (input : IO.FS.Stream) (done : ByteArray) : IO ByteArray := do
  let bytes ← input.read 65536
  if bytes.isEmpty then return done else readAll input (done ++ bytes)

end Storyboard

open Storyboard in
/-- Runs the program; the result is its exit code. -/
def main (arguments : List String) : IO UInt32 := do
  let settings : CommandLine.Settings :=
    ⟨← IO.getEnv "SPEECH_FORMAT", ← IO.getEnv "FFMPEG_PATH", ← IO.getEnv "RUST_LOG"⟩
  let input ←
    if arguments.any (CommandLine.asksInput .empty) then readAll (← IO.getStdin) .empty
    else pure .empty
  let before ← addPicture .empty []
  let (finish, after) := CommandLine.execute settings arguments input before
  carryBack before after
  IO.print finish.output
  IO.eprint (if finish.isMisused then CommandLine.helpText else finish.complaint)
  return finish.exitCode.toUInt32
