import Mathlib
import Storyboard.Proofs.Speech.Footprint

/-!
Observed studios. A studio whose parties keep account of their calls does what it did before, and
the account tells how often and in which order it has asked for speech and for encodings.
-/

namespace Storyboard

/-- What a party to a build was asked for. -/
inductive PartyCall where
  | synthesize (text voice speech : String)
  | encode (speech target : String) (format : SpeechFormat)
deriving DecidableEq

namespace PartyCall

def isSynthesize : PartyCall → Bool
  | synthesize .. => true
  | encode .. => false

def isEncode : PartyCall → Bool
  | synthesize .. => false
  | encode .. => true

end PartyCall

/-! ### Accounts -/

variable {σ α β γ δ : Type}

def World.observed (w : World σ) (calls : List PartyCall) : World (σ × List PartyCall) :=
  ⟨w.store, w.own, calls⟩

/-- The act as it was, behind some calls that are put down. -/
def Act.observed (a : Act σ α) (calls : List PartyCall) : Act (σ × List PartyCall) α := fun w =>
  match a ⟨w.store, w.own.1⟩ with
  | .ok x v => .ok x (v.observed (w.own.2 ++ calls))
  | .error e v => .error e (v.observed (w.own.2 ++ calls))

def Synthesizer.observed (x : Synthesizer σ) : Synthesizer (σ × List PartyCall) :=
  ⟨fun text voice speech =>
    Act.observed (x.synthesize text voice speech) [.synthesize text voice speech]⟩

def Studio.observed (studio : Studio σ) : Studio (σ × List PartyCall) where
  options := studio.options
  openSynthesizer := Synthesizer.observed <$> Act.observed studio.openSynthesizer []
  encoder := ⟨Act.observed studio.encoder.available [], fun speech target format =>
    Act.observed (studio.encoder.encode speech target format) [.encode speech target format]⟩

def Session.observed (s : Session σ) (calls : List PartyCall) : Session (σ × List PartyCall) :=
  ⟨s.world.observed calls, s.synthesizer.map Synthesizer.observed, s.opened, s.events⟩

/-- The observed build leads from one session to another, and puts down some calls. -/
def Build.Observes (b : Build (σ × List PartyCall) α) (s : Session σ) (calls : List PartyCall)
    (x : α) (s' : Session σ) : Prop :=
  ∀ log, b (s.observed log) = .ok x (s'.observed (log ++ calls))

/-! ### Observed builds -/

variable {s s' t : Session σ} {w w' : World σ} {calls calls' : List PartyCall}

namespace Act

theorem observed_eq_ok {a : Act σ α} {x : α} (h : a w = .ok x w') (calls log : List PartyCall) :
    a.observed calls (w.observed log) = .ok x (w'.observed (log ++ calls)) := by
  have hsame : (⟨(w.observed log).store, (w.observed log).own.1⟩ : World σ) = w := rfl
  simp only [observed, hsame, h]
  rfl

/-- Acts that know of nothing but the files are the same under observation. -/
theorem makeParent_observed {path : String} (h : makeParent path w = .ok () w')
    (log : List PartyCall) : makeParent path (w.observed log) = .ok () (w'.observed log) := by
  cases hparent : Path.parent? path with
  | none =>
      rw [makeParent_of_none hparent] at h ⊢
      obtain ⟨-, rfl⟩ := pure_eq_ok h
      rfl
  | some parent =>
      have hstore : (w.observed log).store = w.store := rfl
      rw [makeParent_eq hparent] at h ⊢
      rw [hstore]
      generalize w.store.makeDirectories parent = made at h ⊢
      obtain ⟨result, made⟩ := made
      cases result with
      | error cause => cases h
      | ok u =>
          cases h
          rfl

theorem changing_observed {error : FileError → Error} {change : Store → Except FileError Store}
    (h : changing error change w = .ok () w') (log : List PartyCall) :
    changing error change (w.observed log) = .ok () (w'.observed log) := by
  have hstore : (w.observed log).store = w.store := rfl
  rw [changing, store_bind] at h ⊢
  rw [hstore]
  cases hchange : change w.store with
  | ok s =>
      rw [hchange] at h
      cases h
      rfl
  | error cause =>
      rw [hchange] at h
      cases h

theorem writeText_observed {path text : String} (h : writeText path text w = .ok () w')
    (log : List PartyCall) :
    writeText path text (w.observed log) = .ok () (w'.observed log) := by
  rw [writeText_eq] at h ⊢
  obtain ⟨_, w₁, hparent, h⟩ := bind_eq_ok h
  rw [bind_of_ok (makeParent_observed hparent log)]
  exact changing_observed h log

end Act

namespace Build

variable {b : Build (σ × List PartyCall) α} {x : α}

theorem observes_pure (x : α) : Observes (pure x) s [] x s := by
  intro log
  rw [List.append_nil]
  rfl

theorem Observes.bind (h : Observes b s calls x t) {f : α → Build (σ × List PartyCall) β} {y : β}
    (hf : Observes (f x) t calls' y s') : Observes (b >>= f) s (calls ++ calls') y s' := by
  intro log
  rw [bind_of_ok (h log), hf, List.append_assoc]

theorem Observes.silent_bind (h : Observes b s [] x t) {f : α → Build (σ × List PartyCall) β}
    {y : β} (hf : Observes (f x) t calls y s') : Observes (b >>= f) s calls y s' :=
  h.bind hf

theorem Observes.bind_silent (h : Observes b s calls x t) {f : α → Build (σ × List PartyCall) β}
    {y : β} (hf : Observes (f x) t [] y s') : Observes (b >>= f) s calls y s' := by
  have hboth := h.bind hf
  rwa [List.append_nil] at hboth

theorem observes_note (e : BuildEvent) :
    Observes (note e) s [] () { s with events := s.events ++ [e] } := by
  intro log
  rw [List.append_nil]
  rfl

theorem observes_store : Observes (act Act.store) s [] s.world.store s := by
  intro log
  rw [List.append_nil]
  rfl

theorem observes_act {a : Act (σ × List PartyCall) α}
    (h : ∀ log, a (s.world.observed log) = .ok x (w.observed log)) :
    Observes (act a) s [] x { s with world := w } := by
  intro log
  rw [List.append_nil]
  exact act_of_ok (h log)

theorem observes_observed {a : Act σ α} (h : a s.world = .ok x w) (calls : List PartyCall) :
    Observes (act (a.observed calls)) s calls x { s with world := w } :=
  fun log => act_of_ok (Act.observed_eq_ok h calls log)

end Build

namespace Studio

variable {studio : Studio σ} {a : Asset}

/-- What is asked for an asset that comes about in some way. -/
def requests (format : SpeechFormat) (a : Asset) : Origin → List PartyCall
  | .cached => []
  | .encoded => [.encode a.speech a.encoded format]
  | .synthesized => [.synthesize a.text a.voice a.speech, .encode a.speech a.encoded format]

theorem observes_synthesizer {x : Synthesizer σ} (h : studio.synthesizer a s = .ok x s') :
    Build.Observes (studio.observed.synthesizer a) s [] x.observed s' := by
  intro log
  rw [synthesizer_eq] at h ⊢
  rw [List.append_nil]
  cases hopened : s.synthesizer with
  | some y =>
      rw [hopened] at h
      cases h
      simp only [Session.observed, hopened]
      rfl
  | none =>
      rw [hopened] at h
      dsimp only at h
      cases hopen : studio.openSynthesizer s.world with
      | error e w =>
          rw [hopen] at h
          cases h
      | ok y w =>
          rw [hopen] at h
          cases h
          have hobserved := Act.observed_eq_ok hopen [] log
          rw [List.append_nil] at hobserved
          have hopens : studio.observed.openSynthesizer (s.world.observed log) =
              .ok x.observed (w.observed log) := by
            change (Synthesizer.observed <$> Act.observed studio.openSynthesizer []) _ = _
            rw [map_eq_pure_bind, bind_of_ok hobserved]
            rfl
          simp only [Session.observed, hopened, Option.map_none, hopens]
          rfl

theorem observes_speak {origin : Origin} (h : studio.speak a s = .ok origin s') :
    Build.Observes (studio.observed.speak a) s
      (if origin = .synthesized then [.synthesize a.text a.voice a.speech] else []) origin s' := by
  unfold speak speakOn
  refine Build.observes_store.silent_bind ?_
  obtain ⟨hthere, rfl, rfl⟩ | ⟨hmissing, rfl, w, x, s₁, w₁, hparent, hopen, hspeak, rfl⟩ :=
    speak_eq_ok h
  · rw [if_pos hthere]
    exact Build.observes_pure _
  · rw [if_neg hmissing, if_pos rfl]
    let s₀ : Session σ := { s with events := s.events ++ [.synthesizing a] }
    have hmade : Build.Observes (Build.act (Act.makeParent a.speech)) s₀ [] ()
        { s₀ with world := w } :=
      Build.observes_act (Act.makeParent_observed hparent)
    refine (Build.observes_note _).silent_bind (hmade.silent_bind ?_)
    refine (observes_synthesizer hopen).silent_bind ?_
    exact (Build.observes_observed hspeak [.synthesize a.text a.voice a.speech]).bind_silent
      (Build.observes_pure _)

theorem observes_discard (h : discard a s = .ok () s') :
    Build.Observes (discard a) s [] () s' := by
  intro log
  have hstore : (s.observed log).world.store = s.world.store := rfl
  rw [discard_eq, hstore, List.append_nil]
  obtain ⟨store, hremove, rfl⟩ | ⟨cause, hremove, rfl⟩ := discard_eq_ok h
  · rw [hremove]
    rfl
  · rw [hremove]
    rfl

/-- The production of an asset asks for what its outcome tells. -/
theorem observes_produce {origin : Origin} (h : studio.produce a s = .ok origin s') :
    Build.Observes (studio.observed.produce a) s (requests studio.options.format a origin) origin
      s' := by
  unfold produce produceOn
  refine Build.observes_store.silent_bind ?_
  obtain ⟨hthere, rfl, rfl⟩ | ⟨hmissing, s₁, w, hspeak, hencode, hdiscard⟩ := produce_eq_ok h
  · rw [if_pos hthere]
    exact (Build.observes_note _).silent_bind (Build.observes_pure _)
  · rw [if_neg hmissing]
    have hencoded : Build.Observes (Build.act (studio.observed.encoder.encode a.speech a.encoded
        studio.observed.options.format)) s₁ [.encode a.speech a.encoded studio.options.format] ()
        { s₁ with world := w } :=
      Build.observes_observed hencode _
    have hrequests : requests studio.options.format a origin =
        (if origin = .synthesized then [.synthesize a.text a.voice a.speech] else []) ++
          [.encode a.speech a.encoded studio.options.format] := by
      obtain ⟨-, rfl, -⟩ | ⟨-, rfl, -⟩ := speak_eq_ok hspeak <;> rfl
    rw [hrequests]
    refine (observes_speak hspeak).bind (hencoded.bind_silent ?_)
    exact (observes_discard hdiscard).silent_bind (Build.observes_pure origin)

theorem observes_produceCue {name : String} {c : Cue} {r : Attachment × Origin}
    (h : studio.produceCue name c s = .ok r s') :
    Build.Observes (studio.observed.produceCue name c) s
      (requests studio.options.format (.ofCue studio.options name c) r.2) r s' := by
  obtain ⟨origin, t, hproduce, h⟩ := bind_eq_ok h
  obtain ⟨rfl, rfl⟩ := pure_eq_ok h
  exact (observes_produce hproduce).bind_silent (Build.observes_pure _)

/-- What is asked for some cues that came by their assets in some ways. -/
def requestsFor (o : StudioOptions) (name : String) (cues : List Cue) (origins : List Origin) :
    List PartyCall :=
  (List.zipWith (fun c => requests o.format (.ofCue o name c)) cues origins).flatten

theorem observes_mapM {f : α → Build σ β} {f' : α → Build (σ × List PartyCall) β}
    (calls : α → β → List PartyCall)
    (hf : ∀ {a s b s'}, f a s = .ok b s' → Build.Observes (f' a) s (calls a b) b s')
    {as : List α} {bs : List β} (h : as.mapM f s = .ok bs s') :
    Build.Observes (as.mapM f') s (List.zipWith calls as bs).flatten bs s' := by
  induction as generalizing bs s with
  | nil =>
      obtain ⟨rfl, rfl⟩ := pure_eq_ok h
      exact Build.observes_pure []
  | cons a as ih =>
      rw [List.mapM_cons] at h ⊢
      obtain ⟨b, t, hb, h⟩ := bind_eq_ok h
      obtain ⟨rest, t', hrest, h⟩ := bind_eq_ok h
      obtain ⟨rfl, rfl⟩ := pure_eq_ok h
      rw [List.zipWith_cons_cons, List.flatten_cons]
      exact (hf hb).bind ((ih hrest).bind_silent (Build.observes_pure _))

theorem observes_produceItem {name : String} {i : Item} {r : Item × List Origin}
    (h : studio.produceItem name i s = .ok r s') :
    r.2.length = i.speech.length ∧ Build.Observes (studio.observed.produceItem name i) s
      (requestsFor studio.options name i.speech r.2) r s' := by
  obtain ⟨produced, t, hcues, h⟩ := bind_eq_ok h
  obtain ⟨rfl, rfl⟩ := pure_eq_ok h
  have hlength : produced.map (fun _ => ()) = i.speech.map fun _ => () :=
    map_of_mapM_eq_ok (fun _ _ _ _ _ => rfl) hcues
  refine ⟨by simpa using congrArg List.length hlength, ?_⟩
  rw [requestsFor, List.zipWith_map_right]
  refine (observes_mapM (fun c (r : Attachment × Origin) =>
    requests studio.options.format (.ofCue studio.options name c) r.2) ?_ hcues).bind_silent
      (Build.observes_pure _)
  intro c t r t' hcue
  exact observes_produceCue hcue

theorem observes_items {name : String} {items : List Item} {produced : List (Item × List Origin)}
    (h : items.mapM (studio.produceItem name) s = .ok produced s') :
    Build.Observes (items.mapM (studio.observed.produceItem name)) s
      (requestsFor studio.options name (items.flatMap (·.speech)) (produced.map (·.2)).flatten)
      produced s' := by
  induction items generalizing produced s with
  | nil =>
      obtain ⟨rfl, rfl⟩ := pure_eq_ok h
      exact Build.observes_pure []
  | cons i items ih =>
      rw [List.mapM_cons] at h ⊢
      obtain ⟨r, t, hitem, h⟩ := bind_eq_ok h
      obtain ⟨rest, t', hrest, h⟩ := bind_eq_ok h
      obtain ⟨rfl, rfl⟩ := pure_eq_ok h
      obtain ⟨hlength, hobserved⟩ := observes_produceItem hitem
      have hrequests : requestsFor studio.options name ((i :: items).flatMap (·.speech))
          ((r :: rest).map (·.2)).flatten =
          requestsFor studio.options name i.speech r.2 ++
            requestsFor studio.options name (items.flatMap (·.speech))
              (rest.map (·.2)).flatten := by
        rw [List.flatMap_cons, List.map_cons, List.flatten_cons, requestsFor,
          List.zipWith_append hlength.symm, List.flatten_append]
        rfl
      rw [hrequests]
      exact hobserved.bind ((ih hrest).bind_silent (Build.observes_pure _))

/-- A release asks for what the outcomes of its cues tell, cue by cue. -/
theorem observes_release {t : Timeline} {r : Timeline × CatalogueEntry}
    (h : studio.release t s = .ok r s') :
    ∃ enriched s₁, studio.enrich t s = .ok enriched s₁ ∧
      r = (enriched.1, catalogueEntry enriched.1 enriched.2) ∧
      Build.Observes (studio.observed.release t) s
        (requestsFor studio.options t.name (t.items.flatMap (·.speech)) enriched.2) r s' := by
  obtain ⟨hcheck, enriched, s₁, w, henrich, -, hdocument, hbundle, hsession, hr⟩ :=
    parts_of_release h
  refine ⟨enriched, s₁, henrich, hr, ?_⟩
  obtain ⟨produced, t₁, hitems, henriched⟩ := bind_eq_ok henrich
  obtain ⟨rfl, rfl⟩ := pure_eq_ok henriched
  have henrich' : Build.Observes (studio.observed.enrich t) s
      (requestsFor studio.options t.name (t.items.flatMap (·.speech)) (produced.map (·.2)).flatten)
      (⟨t.name, produced.map (·.1)⟩, (produced.map (·.2)).flatten) s₁ :=
    (observes_items hitems).bind_silent (Build.observes_pure _)
  have hdocument' := Build.observes_act (Act.writeText_observed hdocument)
  have hbundle' : Build.Observes _ { s₁ with world := w } _ () _ :=
    Build.observes_act (Act.writeText_observed hbundle)
  rw [hsession, hr, release, releaseOn, hcheck]
  exact henrich'.bind_silent (hdocument'.silent_bind (hbundle'.silent_bind
    ((Build.observes_note _).silent_bind (Build.observes_pure _))))

end Studio

end Storyboard
