import Storyboard.Program.Basic
import Storyboard.Speech.Format

/-!
The world of a build: the files, and whatever else the parties to the build keep for themselves.
What a party does either succeeds or fails with an error; the world it leaves counts in both cases.
The files are on a medium, which may fail at any change; what is said of no medium is said of one
that does not fail.
-/

namespace Storyboard

structure World (σ : Type) where
  store : Store
  own : σ

/-- What a party to a build does. -/
abbrev Act (σ α : Type) := EStateM Error (World σ) α

/-- How the programs of a world run. -/
abbrev Runner (σ : Type) := ProgramCall → World σ → Except FileError ProgramResult × World σ

/-- Programs that know of nothing but the files. -/
def Runner.ofPrograms {σ : Type} (runs : RunsPrograms) : Runner σ := fun call w =>
  let (result, store) := runs call w.store
  (result, { w with store })

/-- A party that turns a text into a file of speech. -/
structure Synthesizer (σ : Type) where
  synthesize : (text voice speech : String) → Act σ Unit

/-- A party that turns a file of speech into one of the formats that are delivered. -/
structure Encoder (σ : Type) where
  /-- Fails where the encoder cannot work at all. -/
  available : Act σ Unit
  encode : (speech target : String) → SpeechFormat → Act σ Unit

/-- When there is a mishap on the device that holds the files: as directories are made on the way to
a path, or as the file at a path is written or taken away. -/
structure Medium (σ : Type) where
  making : (folder : String) → World σ → Option Mishap
  writing : (path : String) → World σ → Option Mishap
  removing : (path : String) → World σ → Option Mishap

/-- A medium without mishaps. -/
def Medium.sound {σ : Type} : Medium σ :=
  ⟨fun _ _ => none, fun _ _ => none, fun _ _ => none⟩

namespace Act

variable {σ : Type}

def store : Act σ Store :=
  return (← get).store

def setStore (s : Store) : Act σ Unit :=
  modify fun w => { w with store := s }

/-- Does what the parties keep account of for themselves. -/
def keeping {α : Type} (f : σ → α × σ) : Act σ α :=
  modifyGet fun w =>
    let (a, own) := f w.own
    (a, { w with own })

/-- Changes the files, or fails with an error about the cause. -/
def changing (error : FileError → Error) (change : Store → Except FileError Store) :
    Act σ Unit := do
  match change (← store) with
  | .ok s => setStore s
  | .error cause => throw (error cause)

/-- Changes the files as far as that goes, and fails with an error about what was in the way. -/
def attempting (error : FileError → Error) (change : World σ → Except FileError Unit × Store) :
    Act σ Unit := do
  let (result, s) := change (← get)
  setStore s
  match result with
  | .ok () => pure ()
  | .error cause => throw (error cause)

theorem attempting_eq (error : FileError → Error)
    (change : World σ → Except FileError Unit × Store) (w : World σ) :
    attempting error change w =
      match change w with
      | (.ok (), s) => .ok () { w with store := s }
      | (.error cause, s) => .error (error cause) { w with store := s } := by
  change (match change w with
    | (result, s) => do
      setStore s
      match result with
      | .ok () => pure ()
      | .error cause => throw (error cause) : Act σ Unit) w = _
  obtain ⟨_ | _, s⟩ := change w <;> rfl

/-- Calls a program. -/
def call (runs : Runner σ) (c : ProgramCall) : Act σ (Except FileError ProgramResult) :=
  modifyGet (runs c)

/-- Makes the directory that a path lies in. -/
def makeParentOn (m : Medium σ) (path : String) : Act σ Unit :=
  match Path.parent? path with
  | none => pure ()
  | some parent =>
    attempting (.noAssetDirectory parent) fun w =>
      w.store.makeDirectoriesAmid parent (m.making parent w)

abbrev makeParent : String → Act σ Unit :=
  makeParentOn .sound

theorem makeParentOn_of_none (m : Medium σ) {path : String} (h : Path.parent? path = none) :
    makeParentOn m path = pure () := by
  rw [makeParentOn, h]

theorem makeParentOn_eq (m : Medium σ) {path parent : String} (h : Path.parent? path = some parent)
    (w : World σ) : makeParentOn m path w =
      match w.store.makeDirectoriesAmid parent (m.making parent w) with
      | (.ok (), s) => .ok () { w with store := s }
      | (.error cause, s) => .error (.noAssetDirectory parent cause) { w with store := s } := by
  rw [makeParentOn, h]
  exact attempting_eq _ _ w

theorem makeParent_of_none {path : String} (h : Path.parent? path = none) :
    makeParent path = (pure () : Act σ Unit) :=
  makeParentOn_of_none .sound h

theorem makeParent_eq {path parent : String} (h : Path.parent? path = some parent) (w : World σ) :
    makeParent path w =
      match w.store.makeDirectories parent with
      | (.ok (), s) => .ok () { w with store := s }
      | (.error cause, s) => .error (.noAssetDirectory parent cause) { w with store := s } :=
  makeParentOn_eq .sound h w

/-- Writes a document, and the directory that it lies in. -/
def writeTextOn (m : Medium σ) (path text : String) : Act σ Unit := do
  makeParentOn m path
  attempting (.unwritten path) fun w => w.store.writeAmid path text.toUTF8 (m.writing path w)

abbrev writeText : (path text : String) → Act σ Unit :=
  writeTextOn .sound

/-- On a sound medium, the writing of a document is a change of the files like others. -/
theorem writeText_eq (path text : String) : (writeText path text : Act σ Unit) = (do
    makeParent path
    changing (.unwritten path) (·.writeText path text)) := by
  have hwrite : (attempting (.unwritten path) fun w =>
      w.store.writeAmid path text.toUTF8 (Medium.sound.writing path w) : Act σ Unit) =
        changing (.unwritten path) (·.writeText path text) := by
    funext w
    rw [attempting_eq]
    change _ = (match w.store.write path text.toUTF8 with
      | .ok s => setStore s
      | .error cause => throw (.unwritten path cause) : Act σ Unit) w
    simp only [Medium.sound, Store.writeAmid]
    cases w.store.write path text.toUTF8 <;> rfl
  rw [writeText, writeTextOn, hwrite]

end Act

end Storyboard
