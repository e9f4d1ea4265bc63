import Storyboard.Timeline.Document

/-!
Bundles: a module for players that exports a timeline and registers it, or leaves it to be found by
a player that is loaded later. The name is spliced in as a JSON literal, the items as pretty JSON.
-/

namespace Storyboard.Bundle

/-- The address under which a player loads the bundle of a timeline. -/
def address (name : String) : String :=
  "/timelines/" ++ name ++ ".speech.js"

/-- The lines of a bundle around the literals of its name and items. -/
def lines (name items : String) : List String :=
  ["// AUTO-GENERATED for timeline " ++ name ++ " - DO NOT EDIT",
   "export const name = " ++ name ++ ";",
   "export const timeline = " ++ items ++ ";",
   "if (typeof globalThis !== \"undefined\") \x7b",
   "  const root = (globalThis.shellScene ??= \x7b\x7d);",
   "  if (typeof root.registerTimeline === \"function\") \x7b",
   "    root.registerTimeline(name, timeline, " ++ name ++ ");",
   "  \x7d else \x7b",
   "    (root.__timelines ??= \x7b\x7d)[name] = timeline;",
   "    (root.__titles ??= \x7b\x7d)[name] = " ++ name ++ ";",
   "  \x7d",
   "\x7d"]

def ended (lines : List String) : String :=
  String.join (lines.map (· ++ "\n"))

/-- The text of the bundle of a timeline. -/
def text (t : Timeline) : String :=
  ended (lines (Json.ofString t.name).compact t.itemsJson.pretty)

end Storyboard.Bundle
