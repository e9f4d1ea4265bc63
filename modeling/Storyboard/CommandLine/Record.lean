import Storyboard.CommandLine.LogFilter
import Storyboard.Speech.Release
import Storyboard.Text.Quote

/-!
The notes of a build: what the log tells of the things that happen during the run.
-/

namespace Storyboard.CommandLine

def quotedText (s : String) : String :=
  String.ofList (Text.quoted s.toList)

/-- How many characters of a text are told. -/
def excerptLength : Nat := 42

/-- The beginning of a text, with a sign that more follows. -/
def excerpt (text : String) : String :=
  if text.length ≤ excerptLength then text
  else String.ofList (text.toList.take excerptLength) ++ "…"

/-- A note of what happens to the asset of a cue, during the release of its timeline. -/
def assetNote (a : Asset) (level : LogLevel) (message : String) (fields : List (String × String)) :
    LogNote :=
  ⟨level, releasePart, message, fields, some a.timeline⟩

/-- What the log tells of an event. -/
def noteOf : BuildEvent → LogNote
  | .started scripts =>
    ⟨.notice, runPart, "building speech assets", [("scripts", toString scripts)], none⟩
  | .cached a => assetNote a .detail "speech cached" [("asset", quotedText a.source)]
  | .synthesizing a =>
    assetNote a .notice "synthesizing" [("voice", quotedText a.voice), ("text", excerpt a.text)]
  | .opened a => ⟨.notice, synthesizerPart, "speech synthesizer ready", [], some a.timeline⟩
  | .discarded a => assetNote a .detail "removed intermediate wav" [("wav", a.speech)]
  | .kept a cause =>
    assetNote a .warning ("could not delete intermediate wav: " ++ cause.message)
      [("wav", a.speech)]
  | .released entry =>
    ⟨.notice, releasePart, "wrote " ++ entry.name ++ ".\x7bjson,speech.js\x7d",
      [("cues", toString entry.counts.cues), ("synthesized", toString entry.counts.synthesized),
       ("cached", toString entry.counts.cached)], some entry.name⟩
  | .failed path e =>
    ⟨.error, runPart, "failed building timeline: " ++ e.message, [("file", path)], none⟩
  | .catalogued path built failed =>
    ⟨.notice, runPart, "wrote " ++ path,
      [("built", toString built), ("failed", toString failed)], none⟩

end Storyboard.CommandLine
