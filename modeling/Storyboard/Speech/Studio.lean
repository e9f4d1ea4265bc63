import Storyboard.Speech.AssetName
import Storyboard.Speech.Catalogue
import Storyboard.Speech.Pronunciation
import Storyboard.Speech.World

/-!
Studios produce the speech of timelines. An asset that is there already is used as it is, speech
that is there already is only encoded; the synthesizer is opened when it is first needed and kept.
In the produced timeline, every cue has become a sound. All of this is done on some medium.
-/

namespace Storyboard

structure StudioOptions where
  /-- The root of all that is served. -/
  publicRoot : String
  scriptFolder : String
  format : SpeechFormat
deriving DecidableEq

namespace StudioOptions

def standard : StudioOptions :=
  ⟨"public", "timelines", .opus⟩

/-- The options with the format of a setting, unless it is missing, blank or unknown. -/
def withSetting (o : StudioOptions) (setting : Option String) : StudioOptions :=
  match (setting.map SpeechFormat.ofName) with
  | some (.ok format) => { o with format }
  | _ => o

def speechRoot (o : StudioOptions) : String :=
  Path.join o.publicRoot "speech"

/-- Where the documents of timelines and the catalogue are written. -/
def outputFolder (o : StudioOptions) : String :=
  Path.join o.publicRoot "timelines"

end StudioOptions

/-- The asset of a cue: where its speech is kept and where it is delivered. -/
structure Asset where
  /-- The name of the timeline of the cue. -/
  timeline : String
  /-- The text as it is spoken. -/
  text : String
  voice : String
  /-- The path of the speech before it is encoded. -/
  speech : String
  /-- The path of the encoded speech. -/
  encoded : String
  /-- The address of the encoded speech below the public root. -/
  source : String
deriving DecidableEq

namespace Asset

def speechExtension : String := "wav"

def named (base extension : String) : String :=
  base ++ "." ++ extension

/-- The asset of a cue of the timeline with a name. -/
def ofCue (o : StudioOptions) (name : String) (c : Cue) : Asset :=
  let text := Pronunciation.apply c.text
  let base := AssetName.basename text c.voice
  let folder := Path.join o.speechRoot name
  let delivered := named base o.format.extension
  ⟨name, text, c.voice, Path.join folder (named base speechExtension), Path.join folder delivered,
    "speech/" ++ name ++ "/" ++ delivered⟩

end Asset

/-- How a cue came by its asset. -/
inductive Origin where
  | cached
  | encoded
  | synthesized
deriving DecidableEq

/-- The counts of a build whose cues came by their assets in some ways. -/
def BuildCounts.ofOrigins (origins : List Origin) : BuildCounts :=
  ⟨origins.length, origins.countP (· = .cached), origins.countP (· = .synthesized),
    origins.countP (· ≠ .cached)⟩

structure Studio (σ : Type) where
  options : StudioOptions
  /-- Opens a synthesizer. -/
  openSynthesizer : Act σ (Synthesizer σ)
  encoder : Encoder σ

/-- What happens during a run. -/
inductive BuildEvent where
  | started (scripts : Nat)
  | cached (a : Asset)
  | synthesizing (a : Asset)
  /-- A synthesizer was opened for an asset. -/
  | opened (a : Asset)
  /-- The speech of an asset was taken away, since the asset is encoded. -/
  | discarded (a : Asset)
  /-- The speech of an asset could not be taken away. -/
  | kept (a : Asset) (cause : FileError)
  | released (entry : CatalogueEntry)
  | failed (path : String) (e : Error)
  | catalogued (path : String) (built failed : Nat)

/-- The world during the builds of one studio, with its synthesizer. -/
structure Session (σ : Type) where
  world : World σ
  synthesizer : Option (Synthesizer σ)
  /-- How often a synthesizer was opened. -/
  opened : Nat
  /-- What has happened so far. -/
  events : List BuildEvent

namespace Session

/-- A session in which nothing has been built. -/
def start {σ : Type} (w : World σ) : Session σ :=
  ⟨w, none, 0, []⟩

end Session

/-- What a studio does in a session. -/
abbrev Build (σ α : Type) := EStateM Error (Session σ) α

namespace Build

variable {σ α : Type}

/-- Acts on the world of the session. -/
def act (a : Act σ α) : Build σ α := fun s =>
  match a s.world with
  | .ok x w => .ok x { s with world := w }
  | .error e w => .error e { s with world := w }

/-- Notes that something happens. -/
def note (e : BuildEvent) : Build σ Unit :=
  modify fun s => { s with events := s.events ++ [e] }

/-- Turns a failure into a result. -/
def attempt (b : Build σ α) : Build σ (Except Error α) := fun s =>
  match b s with
  | .ok x s => .ok (.ok x) s
  | .error e s => .ok (.error e) s

end Build

namespace Studio

variable {σ : Type}

/-- The synthesizer of the session, opened for an asset if there is none yet. -/
def synthesizer (studio : Studio σ) (a : Asset) : Build σ (Synthesizer σ) := do
  match (← get).synthesizer with
  | some opened => return opened
  | none =>
    let opened ← Build.act studio.openSynthesizer
    modify fun s => { s with synthesizer := some opened, opened := s.opened + 1 }
    Build.note (.opened a)
    return opened

section Production

variable (studio : Studio σ) (m : Medium σ)

/-- Makes sure that the speech of an asset is there, synthesizing it if it is not. -/
def speakOn (a : Asset) : Build σ Origin := do
  if (← Build.act Act.store).contains a.speech then return .encoded
  else
    Build.note (.synthesizing a)
    Build.act (Act.makeParentOn m a.speech)
    let opened ← studio.synthesizer a
    Build.act (opened.synthesize a.text a.voice a.speech)
    return .synthesized

/-- Takes the speech of an asset away, if that can be done. -/
def discardOn (m : Medium σ) (a : Asset) : Build σ Unit := do
  let w ← Build.act get
  match w.store.removeAmid a.speech (m.removing a.speech w) with
  | .ok s =>
    Build.act (Act.setStore s)
    Build.note (.discarded a)
  | .error cause => Build.note (.kept a cause)

theorem discardOn_eq (m : Medium σ) (a : Asset) (s : Session σ) :
    discardOn m a s =
      match s.world.store.removeAmid a.speech (m.removing a.speech s.world) with
      | .ok store => .ok () { s with
          world := { s.world with store }
          events := s.events ++ [.discarded a] }
      | .error cause => .ok () { s with events := s.events ++ [.kept a cause] } := by
  change (match s.world.store.removeAmid a.speech (m.removing a.speech s.world) with
    | .ok store => do
      Build.act (Act.setStore store)
      Build.note (.discarded a)
    | .error cause => Build.note (.kept a cause) : Build σ Unit) s = _
  cases s.world.store.removeAmid a.speech (m.removing a.speech s.world) <;> rfl

/-- Makes sure that an asset is there. -/
def produceOn (a : Asset) : Build σ Origin := do
  if (← Build.act Act.store).contains a.encoded then
    Build.note (.cached a)
    return .cached
  else
    let origin ← studio.speakOn m a
    Build.act (studio.encoder.encode a.speech a.encoded studio.options.format)
    discardOn m a
    return origin

/-- Produces the asset of a cue, and the sound that takes the place of the cue. -/
def produceCueOn (name : String) (c : Cue) : Build σ (Attachment × Origin) := do
  let a := Asset.ofCue studio.options name c
  let origin ← studio.produceOn m a
  return (.plain a.source c.anchor c.offset, origin)

def produceItemOn (name : String) (i : Item) : Build σ (Item × List Origin) := do
  let produced ← i.speech.mapM (studio.produceCueOn m name)
  return (i.withSound [] (i.audio ++ produced.map (·.1)), produced.map (·.2))

/-- Produces the speech of a timeline: the timeline without cues, and how the cues came by their
assets. -/
def enrichOn (t : Timeline) : Build σ (Timeline × List Origin) := do
  let produced ← t.items.mapM (studio.produceItemOn m t.name)
  return (⟨t.name, produced.map (·.1)⟩, (produced.map (·.2)).flatten)

end Production

/-! ### On a sound medium -/

abbrev speak (studio : Studio σ) : Asset → Build σ Origin :=
  studio.speakOn .sound

abbrev discard : Asset → Build σ Unit :=
  discardOn .sound

theorem discard_eq (a : Asset) (s : Session σ) :
    discard a s =
      match s.world.store.remove a.speech with
      | .ok store => .ok () { s with
          world := { s.world with store }
          events := s.events ++ [.discarded a] }
      | .error cause => .ok () { s with events := s.events ++ [.kept a cause] } :=
  discardOn_eq .sound a s

abbrev produce (studio : Studio σ) : Asset → Build σ Origin :=
  studio.produceOn .sound

abbrev produceCue (studio : Studio σ) : String → Cue → Build σ (Attachment × Origin) :=
  studio.produceCueOn .sound

abbrev produceItem (studio : Studio σ) : String → Item → Build σ (Item × List Origin) :=
  studio.produceItemOn .sound

abbrev enrich (studio : Studio σ) : Timeline → Build σ (Timeline × List Origin) :=
  studio.enrichOn .sound

end Studio

end Storyboard
