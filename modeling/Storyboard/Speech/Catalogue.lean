import Storyboard.Json.Printer
import Storyboard.Timeline.Document

/-!
Catalogues: the timelines that a run has built, sorted by name, with the addresses of their bundles
and their titles. Of several entries with one name, the last decides the title.
-/

namespace Storyboard

/-- How many cues a build has met and what it did for them. -/
structure BuildCounts where
  cues : Nat
  cached : Nat
  synthesized : Nat
  encoded : Nat
deriving DecidableEq

/-- What a run records about a timeline that it has built. -/
structure CatalogueEntry where
  name : String
  title : String
  address : String
  counts : BuildCounts
deriving DecidableEq

def BuildCounts.toJson (c : BuildCounts) : Json :=
  Json.ofMembers
    [("cues", some (Json.ofNat c.cues)),
     ("cached", some (Json.ofNat c.cached)),
     ("synthesized", some (Json.ofNat c.synthesized)),
     ("encoded", some (Json.ofNat c.encoded))]

def CatalogueEntry.toJson (e : CatalogueEntry) : Json :=
  Json.ofMembers
    [("name", some (Json.ofString e.name)),
     ("title", some (Json.ofString e.title)),
     ("module", some (Json.ofString e.address)),
     ("stats", some e.counts.toJson)]

namespace Catalogue

def before (a b : CatalogueEntry) : Bool :=
  !(b.name < a.name : Bool)

/-- The entries by name; entries with one name keep their order. -/
def sorted (entries : List CatalogueEntry) : List CatalogueEntry :=
  entries.mergeSort before

/-- Of neighbours with one name, the last. -/
def lastOfName : List CatalogueEntry → List CatalogueEntry
  | [] => []
  | [e] => [e]
  | e :: f :: rest =>
    if e.name = f.name then lastOfName (f :: rest) else e :: lastOfName (f :: rest)

def toJson (entries : List CatalogueEntry) : Json :=
  let entries := sorted entries
  Json.ofMembers
    [("names", some (Json.ofStrings (entries.map (·.name)))),
     ("modules", some (Json.ofStrings (entries.map (·.address)))),
     ("titles", some (Json.ofMembers
        ((lastOfName entries).map fun e => (e.name, some (Json.ofString e.title)))))]

/-- The text of the catalogue of some entries. -/
def document (entries : List CatalogueEntry) : String :=
  (toJson entries).pretty

end Catalogue

end Storyboard
