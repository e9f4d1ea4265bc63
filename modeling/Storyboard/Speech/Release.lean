import Storyboard.Script.Compile
import Storyboard.Script.Folder
import Storyboard.Speech.Bundle
import Storyboard.Speech.Studio
import Storyboard.Timeline.Check

/-!
Releases: a timeline is checked, enriched and written as document and bundle. A run releases every
script of a folder, each on its own, and writes a catalogue of those that succeeded.
-/

namespace Storyboard

/-- What became of the scripts of a run, in the order of the scripts. -/
structure RunReport where
  outcomes : List (String × Except Error CatalogueEntry)
  cataloguePath : String

namespace RunReport

def built (r : RunReport) : List CatalogueEntry :=
  r.outcomes.filterMap fun (_, outcome) => outcome.toOption

def failures (r : RunReport) : List (String × Error) :=
  r.outcomes.filterMap fun (path, outcome) =>
    match outcome with
    | .ok _ => none
    | .error e => some (path, e)

def isSuccess (r : RunReport) : Bool :=
  r.failures.isEmpty

end RunReport

namespace Studio

variable {σ : Type}

def documentPath (o : StudioOptions) (name : String) : String :=
  Path.join o.outputFolder (name ++ ".json")

def bundlePath (o : StudioOptions) (name : String) : String :=
  Path.join o.outputFolder (name ++ ".speech.js")

def cataloguePath (o : StudioOptions) : String :=
  Path.join o.outputFolder "registry.json"

def catalogueEntry (t : Timeline) (origins : List Origin) : CatalogueEntry :=
  ⟨t.name, t.name, Bundle.address t.name, .ofOrigins origins⟩

/-- Checks and enriches a timeline and writes its document and its bundle, all on a medium. -/
def releaseOn (studio : Studio σ) (m : Medium σ) (t : Timeline) :
    Build σ (Timeline × CatalogueEntry) := do
  match t.check with
  | .error fault => throw (.invalid fault)
  | .ok () =>
    let (enriched, origins) ← studio.enrichOn m t
    Build.act (Act.writeTextOn m (documentPath studio.options t.name) enriched.document)
    Build.act (Act.writeTextOn m (bundlePath studio.options t.name) (Bundle.text enriched))
    let entry := catalogueEntry enriched origins
    Build.note (.released entry)
    return (enriched, entry)

abbrev release (studio : Studio σ) : Timeline → Build σ (Timeline × CatalogueEntry) :=
  studio.releaseOn .sound

/-- Releases the script at a path, with the names that earlier scripts have taken. -/
def releaseScript (studio : Studio σ) (taken : List String) (path : String) :
    Build σ (List String × Except Error CatalogueEntry) := do
  match (← Build.act Act.store).readText path with
  | .error cause => return (taken, .error (.unreadScript path cause))
  | .ok text =>
    match Script.compile text with
    | .error e => return (taken, .error e)
    | .ok t =>
      if t.name ∈ taken then return (taken, .error (.duplicateName t.name))
      else
        let result ← Build.attempt (studio.release t)
        return (t.name :: taken, result.map (·.2))

def releaseScripts (studio : Studio σ) :
    List String → List String → Build σ (List (String × Except Error CatalogueEntry))
  | _, [] => return []
  | taken, path :: rest => do
    let (taken, outcome) ← studio.releaseScript taken path
    match outcome with
    | .ok _ => pure ()
    | .error e => Build.note (.failed path e)
    let outcomes ← studio.releaseScripts taken rest
    return (path, outcome) :: outcomes

/-- Releases all scripts of the script folder. -/
def releaseFolder (studio : Studio σ) : Build σ (List (String × Except Error CatalogueEntry)) := do
  Build.act studio.encoder.available
  match Script.discover (← Build.act Act.store) studio.options.scriptFolder with
  | .error e => throw e
  | .ok scripts =>
    Build.note (.started scripts.length)
    studio.releaseScripts [] scripts

/-- Writes the catalogue of a run with some outcomes. -/
def catalogue (studio : Studio σ) (outcomes : List (String × Except Error CatalogueEntry)) :
    Build σ RunReport := do
  let report : RunReport := ⟨outcomes, cataloguePath studio.options⟩
  Build.act (Act.writeText report.cataloguePath (Catalogue.document report.built))
  Build.note (.catalogued report.cataloguePath report.built.length report.failures.length)
  return report

/-- Releases all scripts of the script folder and writes the catalogue. -/
def releaseAll (studio : Studio σ) : Build σ RunReport := do
  studio.catalogue (← studio.releaseFolder)

end Studio

end Storyboard
