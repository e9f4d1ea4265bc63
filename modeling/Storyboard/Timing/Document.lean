import Storyboard.Timeline.Document
import Storyboard.Timing.Plan

/-!
How schedules, chapters, sounds and plans are written as JSON.
-/

namespace Storyboard

def Transition.toJson (t : Transition) : Json :=
  Json.ofMembers t.members

def FrameRate.toJson (r : FrameRate) : Json :=
  Json.ofMembers
    [("num", some (Json.ofNat r.frames.toNat)), ("den", some (Json.ofNat r.seconds.toNat))]

def Geometry.toJson (g : Geometry) : Json :=
  Json.ofMembers
    [("start", some (Json.ofInt g.start)),
     ("incomingTransitionFrames", some (Json.ofNat g.incoming)),
     ("baseFrames", some (Json.ofNat g.base)),
     ("occupiedDuration", some (Json.ofNat g.occupied))]

def Placement.toJson (p : Placement) : Json :=
  Json.ofMembers
    [("sourceIndex", some (Json.ofNat p.slot.index)),
     ("kind", some (Json.ofString p.slot.kind.name)),
     ("baseFrames", some (Json.ofNat p.base)),
     ("inTransition", p.slot.incoming.map Transition.toJson),
     ("outTransition", p.slot.outgoing.map Transition.toJson),
     ("inFrames", some (Json.ofNat p.incomingFrames)),
     ("outFrames", some (Json.ofNat p.outgoingFrames)),
     ("inOverlapFrames", some (Json.ofNat p.shared)),
     ("outOverlapFrames", some (Json.ofNat p.slot.overlap)),
     ("start", some (Json.ofInt p.start)),
     ("duration", some (Json.ofNat p.duration))]

def Chapter.toJson (c : Chapter) : Json :=
  Json.ofMembers
    [("title", some (Json.ofString c.title)),
     ("frame", some (Json.ofInt c.frame)),
     ("clip", some (Json.ofNat c.clip))]

def Chapters.toJson (c : Chapters) : Json :=
  Json.ofMembers
    [("chapters", some (.array (c.list.map Chapter.toJson))),
     ("endFrame", some (Json.ofInt c.endFrame))]

def Sound.toJson (s : Sound) : Json :=
  Json.ofMembers
    [("clip", some (Json.ofNat s.clip)),
     ("src", some (Json.ofString s.source)),
     ("anchor", some (Json.ofString s.anchor.name)),
     ("cueFrame", some (Json.ofInt s.cueFrame)),
     ("from", some (Json.ofNat s.skipped)),
     ("window", some (Json.ofNat s.window)),
     ("volume", some (Json.ofBinary64 s.volume)),
     ("looped", some (Json.bool s.looped)),
     ("fadeInFrames", some (Json.ofNat s.fadeIn)),
     ("fadeOutFrames", some (Json.ofNat s.fadeOut)),
     ("label", s.label.map Json.ofString)]

def Plan.toJson (p : Plan) : Json :=
  Json.ofMembers
    [("name", some (Json.ofString p.name)),
     ("fps", some p.rate.toJson),
     ("clips", some (.array (p.schedule.clips.map Placement.toJson))),
     ("totalFrames", some (Json.ofNat p.schedule.totalFrames)),
     ("chapters", some p.chapters.toJson),
     ("audio", some (.array (p.sounds.map Sound.toJson)))]

/-- The text of a plan. -/
def Plan.document (p : Plan) : String :=
  p.toJson.pretty

end Storyboard
