import Mathlib
import Storyboard.Proofs.Speech.Session
import Storyboard.Proofs.Timeline.Check
import Storyboard.Proofs.Timing.Outline

/-!
The timeline that a studio produces is told without the studio: it depends on the timeline and the
format alone, not on the files or on how the cues came by their assets. It has nothing left to
produce, passes the checks that the timeline has passed, and has the same layout and chapters.
-/

namespace Storyboard

/-! ### Produced timelines -/

/-- The sound that takes the place of a cue in the timeline with a name. -/
def Cue.sound (format : SpeechFormat) (name : String) (c : Cue) : Attachment :=
  .plain ("speech/" ++ name ++ "/" ++ AssetName.basename (Pronunciation.apply c.text) c.voice ++
    "." ++ format.extension) c.anchor c.offset

/-- The item with its sounds, and behind them one for each cue. -/
def Item.produced (format : SpeechFormat) (name : String) (i : Item) : Item :=
  i.withSound [] (i.audio ++ i.speech.map (Cue.sound format name))

def Timeline.produced (format : SpeechFormat) (t : Timeline) : Timeline :=
  ⟨t.name, t.items.map (Item.produced format t.name)⟩

/-! ### What production keeps -/

namespace Item

theorem withSound_self (i : Item) : i.withSound i.speech i.audio = i := by
  cases i <;> rfl

variable (format : SpeechFormat) (name : String) (i : Item)

@[simp] theorem speech_produced : (i.produced format name).speech = [] := by
  cases i <;> rfl

theorem keepsOutline_produced : KeepsOutline (produced format name) :=
  ⟨fun i => by cases i <;> rfl, fun i => by cases i <;> rfl, fun i => by cases i <;> rfl⟩

end Item

namespace Timeline

variable {t : Timeline} (format : SpeechFormat)

theorem check_produced (h : t.check = .ok ()) : (t.produced format).check = .ok () := by
  obtain ⟨hname, hitems⟩ := check_eq_ok.mp h
  refine check_eq_ok.mpr ⟨hname, List.forall_mem_map.mpr fun i hi => ?_⟩
  obtain ⟨hspeech, haudio⟩ := Item.checkSound_eq_ok.mp (Item.checkSound_of_check (hitems i hi))
  refine Item.check_withSound (hitems i hi) (List.forall_mem_nil _) ?_
  refine List.forall_mem_append.mpr ⟨haudio, List.forall_mem_map.mpr fun c hc => ?_⟩
  exact Attachment.check_plain (by simp) (Cue.check_eq_ok.mp (hspeech c hc)).2

end Timeline

namespace Studio

/-! ### Production -/

variable {σ : Type} {studio : Studio σ} {m : Medium σ}

theorem produceCue_eq_ok {name : String} {c : Cue} {s s' : Session σ} {r : Attachment × Origin}
    (h : studio.produceCueOn m name c s = .ok r s') : r.1 = c.sound studio.options.format name := by
  obtain ⟨origin, t, _, h⟩ := bind_eq_ok h
  obtain ⟨rfl, _⟩ := pure_eq_ok h
  simp only [Asset.ofCue, Asset.named, Cue.sound, String.append_assoc]

theorem produceItem_eq_ok {name : String} {i : Item} {s s' : Session σ} {r : Item × List Origin}
    (h : studio.produceItemOn m name i s = .ok r s') :
    r.1 = i.produced studio.options.format name := by
  obtain ⟨produced, t, hcues, h⟩ := bind_eq_ok h
  obtain ⟨rfl, _⟩ := pure_eq_ok h
  have hsounds : produced.map (·.1) = i.speech.map (Cue.sound studio.options.format name) :=
    map_of_mapM_eq_ok (fun _ _ _ _ => produceCue_eq_ok) hcues
  simp only [Item.produced, hsounds]

/-- The produced timeline, whatever the files, the medium and the parties are. -/
theorem enrich_eq_ok {t : Timeline} {s s' : Session σ} {r : Timeline × List Origin}
    (h : studio.enrichOn m t s = .ok r s') : r.1 = t.produced studio.options.format := by
  obtain ⟨produced, u, hitems, h⟩ := bind_eq_ok h
  obtain ⟨rfl, _⟩ := pure_eq_ok h
  have hproduced : produced.map (·.1) = t.items.map (Item.produced studio.options.format t.name) :=
    map_of_mapM_eq_ok (fun _ _ _ _ => produceItem_eq_ok) hitems
  simp only [Timeline.produced, hproduced]

/-- Nothing is done for a timeline without cues. -/
theorem enrich_of_silent {t : Timeline} (h : ∀ i ∈ t.items, i.speech = []) :
    studio.enrichOn m t = pure (t, []) := by
  have hitem : ∀ i ∈ t.items, studio.produceItemOn m t.name i = pure (i, []) := by
    intro i hi
    have hsame : i.withSound [] i.audio = i := by
      rw [← h i hi]
      exact i.withSound_self
    rw [produceItemOn, h i hi, List.mapM_nil, pure_bind, List.map_nil, List.map_nil,
      List.append_nil, hsame]
  have hitems : (t.items.map fun i => (i, ([] : List Origin))).map (·.1) = t.items := by
    rw [List.map_map]
    exact List.map_id _
  have horigins : ((t.items.map fun i => (i, ([] : List Origin))).map (·.2)).flatten = [] := by
    simp [Function.comp_def]
  rw [enrichOn, mapM_eq_pure hitem, pure_bind, hitems, horigins]

end Studio

/-! ### What a studio changes in a timeline -/

/-- The second timeline is the first one with sounds in place of its cues. -/
structure Timeline.IsProduced (format : SpeechFormat) (t u : Timeline) : Prop where
  name : u.name = t.name
  length : u.items.length = t.items.length
  transition : ∀ {k : Nat} {x : Transition}, t.items[k]? = some (.transition x) →
    u.items[k]? = some (.transition x)
  card : ∀ {k : Nat} {c : Card}, t.items[k]? = some (.card c) → u.items[k]? = some (.card
    { c with speech := [], audio := c.audio ++ c.speech.map (Cue.sound format t.name) })
  cast : ∀ {k : Nat} {c : Cast}, t.items[k]? = some (.cast c) → u.items[k]? = some (.cast
    { c with speech := [], audio := c.audio ++ c.speech.map (Cue.sound format t.name) })

theorem Timeline.isProduced_produced (format : SpeechFormat) (t : Timeline) :
    t.IsProduced format (t.produced format) := by
  have hitem {k : Nat} {i : Item} (h : t.items[k]? = some i) :
      (t.produced format).items[k]? = some (i.produced format t.name) := by
    rw [produced, List.getElem?_map, h]
    rfl
  exact ⟨rfl, List.length_map _, hitem, hitem, hitem⟩

namespace Studio

/-- Production does not show how the cues came by their assets: two studios with one format give
the same timeline, whatever they find and whoever works for them. It differs from the checked one
only in the sounds that take the place of the cues; so it passes the checks, leaves no studio
anything to do, and is laid out as before, with the same chapters. -/
theorem enrich_transparent {σ τ : Type} {studio : Studio σ} {other : Studio τ}
    {t u v : Timeline} {s s' : Session σ} {r r' : Session τ} {origins others : List Origin}
    (hcheck : t.check = .ok ()) (hformat : other.options.format = studio.options.format)
    (hu : studio.enrich t s = .ok (u, origins) s') (hv : other.enrich t r = .ok (v, others) r') :
    v = u ∧ t.IsProduced studio.options.format u ∧ u.check = .ok () ∧
      (∀ {ρ : Type} (third : Studio ρ), third.enrich u = pure (u, [])) ∧
      (∀ lengths, u.layout lengths = t.layout lengths) ∧
      ∀ schedule, Chapters.ofSchedule u schedule = Chapters.ofSchedule t schedule := by
  have hproduced : u = t.produced studio.options.format := enrich_eq_ok hu
  have hother : v = t.produced other.options.format := enrich_eq_ok hv
  rw [hformat] at hother
  subst hproduced
  have houtline := Item.keepsOutline_produced studio.options.format t.name
  refine ⟨hother, t.isProduced_produced _, Timeline.check_produced _ hcheck, ?_,
    houtline.layout_map _ _, houtline.chapters_map _ _⟩
  intro ρ third
  exact enrich_of_silent (List.forall_mem_map.mpr fun i _ => i.speech_produced _ _)

/-- A studio whose parties succeed without doing anything. -/
def idle : Studio Unit :=
  ⟨⟨"p", "t", .opus⟩, pure ⟨fun _ _ _ => pure ()⟩, ⟨pure (), fun _ _ _ => pure ()⟩⟩

def greeting : Timeline :=
  ⟨"d", [.card ⟨"A", none, .zero, [⟨"", "v", .inEnd, .zero⟩], []⟩]⟩

/-- Files among which the encoded speech of the greeting is. -/
def greeted : Store :=
  (((Store.empty.put ["p"] .directory).put ["p", "speech"] .directory).put ["p", "speech", "d"]
    .directory).put ["p", "speech", "d", Asset.named (AssetName.basename "" "v") "opus"]
      (.file .empty false)

/-- The greeting is the same whether its cue is synthesized or found. -/
theorem enrich_transparent_greeting :
    ∃ u v s' r', idle.enrich greeting (.start ⟨.empty, ()⟩) = .ok (u, [.synthesized]) s' ∧
      idle.enrich greeting (.start ⟨greeted, ()⟩) = .ok (v, [.cached]) r' ∧ v = u ∧
      idle.enrich u = pure (u, []) := by
  have hsilent : ((idle.enrich greeting).run' (.start ⟨.empty, ()⟩)) =
      some (greeting.produced .opus, [.synthesized]) := by decide +kernel
  have hgreeted : ((idle.enrich greeting).run' (.start ⟨greeted, ()⟩)) =
      some (greeting.produced .opus, [.cached]) := by decide +kernel
  obtain ⟨s', hu⟩ := exists_of_run'_eq_some hsilent
  obtain ⟨r', hv⟩ := exists_of_run'_eq_some hgreeted
  obtain ⟨hsame, _, _, hagain, _⟩ := enrich_transparent rfl rfl hu hv
  exact ⟨_, _, s', r', hu, hv, hsame, hagain idle⟩

end Studio

end Storyboard
