import Storyboard.Main
import Storyboard.Proofs.Timing.Positions
import Storyboard.Proofs.Timing.Resolution
import Storyboard.Proofs.Timing.Coverage
import Storyboard.Proofs.Timing.SharedFrames
import Storyboard.Proofs.Timing.Navigation
import Storyboard.Proofs.Timing.Lookup
import Storyboard.Proofs.Timing.Planning
import Storyboard.Proofs.Timing.Sounds
import Storyboard.Proofs.Script.Blocks
import Storyboard.Proofs.Script.Document
import Storyboard.Proofs.Script.Check
import Storyboard.Proofs.Script.Narration
import Storyboard.Proofs.Timeline.RoundTrip
import Storyboard.Proofs.Speech.Enrichment
import Storyboard.Proofs.Speech.Provenance
import Storyboard.Proofs.Speech.Repetition
import Storyboard.Proofs.Speech.Documents
import Storyboard.Proofs.Speech.Isolation
import Storyboard.Proofs.Speech.Delivery
import Storyboard.Proofs.Speech.Confinement
import Storyboard.Proofs.Speech.Respelling
import Storyboard.Proofs.Speech.Sharing
import Storyboard.Proofs.Speech.Economy
import Storyboard.Proofs.Speech.Template
import Storyboard.Proofs.Speech.Bundle
import Storyboard.Proofs.Timeline.Rearrangement
import Storyboard.Proofs.Recording.LocalPath
import Storyboard.Proofs.Recording.Length
import Storyboard.Proofs.Timeline.SoundForms
import Storyboard.Proofs.Speech.Failure
import Storyboard.Proofs.Speech.Listing
import Storyboard.Proofs.Script.Lengthening
import Storyboard.Proofs.Script.Cursor
