import Mathlib
import Storyboard.Proofs.Speech.Enrichment
import Storyboard.Proofs.Speech.Output
import Storyboard.Speech.EncoderProgram

/-!
What a release leaves behind that has succeeded: every asset of the timeline is there, its document
and its bundle are written, and of the other files nothing is different but the speech and the
assets. Of the parties it is known only that one that succeeds has made its file and nothing else.
-/

namespace Storyboard

/-! ### Careful parties -/

/-- A file has come to stand at a path, or has changed there, and nothing else is different but for
directories that were made. -/
def Store.Receives (path : String) (s s' : Store) : Prop :=
  ∃ t l content isProgram, s.AddsDirectories t ∧ t.locate path = .ok l ∧
    t.find? l ≠ some .directory ∧ t.ChangesAt l s' ∧ s'.find? l = some (.file content isProgram)

namespace Store.Receives

variable {s s' : Store} {W : Location → Prop} {path : String}

theorem keeps (h : s.Receives path s') (hW : W (Path.place path))
    (hscript : Script.isPlace (Path.place path) = false) : s.Keeps W s' := by
  obtain ⟨t, l, content, isProgram, hadds, hl, hdir, hchange, hfile⟩ := h
  obtain rfl := locate_eq_ok hl
  refine .trans (.of_addsDirectories hadds) (.of_changesAt hchange hW hscript hdir (.inr ?_))
  rw [hfile]
  rfl

theorem contains (h : s.Receives path s') : s'.contains path := by
  obtain ⟨t, l, content, isProgram, _, hl, hdir, hchange, hfile⟩ := h
  have hkept : ∀ m, t.find? m = some .directory → s'.find? m = some .directory := by
    intro m hm
    rwa [hchange.find?_eq]
    rintro rfl
    exact hdir hm
  exact contains_iff.mpr ⟨l, locate_mono hkept hl, by rw [hfile]; rfl⟩

theorem of_addsDirectories {t : Store} (hadds : s.AddsDirectories t) (h : t.Receives path s') :
    s.Receives path s' := by
  obtain ⟨u, l, content, isProgram, hadds', hrest⟩ := h
  exact ⟨u, l, content, isProgram, hadds.trans hadds', hrest⟩

end Store.Receives

/-- Whoever succeeds in speaking has made the file of the speech and nothing else. -/
def Synthesizer.Careful {σ : Type} (x : Synthesizer σ) : Prop :=
  ∀ {text voice speech : String} {w w' : World σ},
    x.synthesize text voice speech w = .ok () w' → w.store.Receives speech w'.store

/-- Opening a synthesizer touches no file, and whoever succeeds in speaking or encoding has made the
one file that was asked for. -/
structure Studio.Careful {σ : Type} (studio : Studio σ) : Prop where
  opening : ∀ {w w' : World σ} {x : Synthesizer σ},
    studio.openSynthesizer w = .ok x w' → w'.store = w.store ∧ x.Careful
  encoding : ∀ {speech target : String} {format : SpeechFormat} {w w' : World σ},
    studio.encoder.encode speech target format w = .ok () w' → w.store.Receives target w'.store

def Session.Careful {σ : Type} (s : Session σ) : Prop :=
  ∀ x ∈ s.synthesizer, x.Careful

/-- A session with a careful synthesizer, if any, in which a build has written at some locations. -/
structure Session.Keeps {σ : Type} (W : Location → Prop) (s s' : Session σ) : Prop where
  store : s.world.store.Keeps W s'.world.store
  careful : s'.Careful

variable {σ α : Type} {s s' : Session σ}

/-! ### Single acts -/

namespace Build

theorem act_eq_ok {a : Act σ α} {x : α} (h : act a s = .ok x s') :
    ∃ w, a s.world = .ok x w ∧ s' = { s with world := w } := by
  unfold act at h
  split at h
  · next y w hw =>
      cases h
      exact ⟨w, hw, rfl⟩
  · cases h

theorem act_of_ok {a : Act σ α} {x : α} {w : World σ} (h : a s.world = .ok x w) :
    act a s = .ok x { s with world := w } := by
  simp only [act, h]

theorem act_store_bind (f : Store → Build σ α) :
    (act Act.store >>= f) s = f s.world.store s :=
  rfl

theorem note_bind (e : BuildEvent) (f : Unit → Build σ α) :
    (note e >>= f) s = f () { s with events := s.events ++ [e] } :=
  rfl

end Build

namespace Act

variable {w w' : World σ} {path text : String}

theorem store_bind (f : Store → Act σ α) : (store >>= f) w = f w.store w :=
  rfl

theorem changing_eq_ok {error : FileError → Error} {change : Store → Except FileError Store}
    (h : changing error change w = .ok () w') : change w.store = .ok w'.store := by
  rw [changing, store_bind] at h
  cases hchange : change w.store with
  | ok s =>
      rw [hchange] at h
      cases h
      rfl
  | error cause =>
      rw [hchange] at h
      cases h

theorem changing_of_ok {error : FileError → Error} {change : Store → Except FileError Store}
    {s : Store} (h : change w.store = .ok s) :
    changing error change w = .ok () { w with store := s } := by
  rw [changing, store_bind, h]
  rfl

theorem makeParent_eq_ok (h : makeParent path w = .ok () w') :
    w.store.AddsDirectories w'.store ∧
      ∀ parent ∈ Path.parent? path, w'.store.Furnished parent := by
  cases hparent : Path.parent? path with
  | none =>
      rw [makeParent_of_none hparent] at h
      obtain ⟨_, rfl⟩ := pure_eq_ok h
      exact ⟨.refl _, nofun⟩
  | some parent =>
      rw [makeParent_eq hparent] at h
      have hadds := Store.addsDirectories_makeDirectories w.store parent
      have hfurnished : (w.store.makeDirectories parent).1 = .ok () →
          (w.store.makeDirectories parent).2.Furnished parent :=
        Store.furnished_of_makeDirectories
      generalize w.store.makeDirectories parent = made at h hadds hfurnished
      obtain ⟨_ | u, made⟩ := made
      · cases h
      · cases h
        refine ⟨hadds, ?_⟩
        rintro _ ⟨⟩
        exact hfurnished rfl

theorem makeParent_of_furnished (h : ∀ parent ∈ Path.parent? path, w.store.Furnished parent) :
    makeParent path w = .ok () w := by
  cases hparent : Path.parent? path with
  | none =>
      rw [makeParent_of_none hparent]
      rfl
  | some parent =>
      rw [makeParent_eq hparent, Store.makeDirectories_of_furnished (h parent hparent)]

/-- What was written once is there, and can be written again without directories being made. -/
theorem writeText_eq_ok (h : writeText path text w = .ok () w')
    (hW : W (Path.place path)) (hscript : Script.isPlace (Path.place path) = false) :
    w.store.Keeps W w'.store ∧ w'.store.Ready path ∧
      w'.store.writeAt (Path.place path) text.toUTF8 = .ok w'.store := by
  rw [writeText_eq] at h
  obtain ⟨_, w₁, hparent, h⟩ := bind_eq_ok h
  obtain ⟨hadds, hfurnished⟩ := makeParent_eq_ok hparent
  obtain ⟨l, hl, hwrite⟩ := Store.write_eq_ok.mp (changing_eq_ok h)
  obtain rfl := Store.place_of_steps (Store.locateNew_eq_ok hl).1
  have hkeeps : w₁.store.Keeps W w'.store := .of_writeAt hwrite hW hscript
  refine ⟨.trans (.of_addsDirectories hadds) hkeeps, ⟨?_, ?_⟩, ?_⟩
  · exact fun parent hp => (hfurnished parent hp).mono fun _ => hkeeps.directory
  · exact Store.locateNew_mono (fun _ => hkeeps.directory) hl
  · rw [Store.writeAt_writeAt hwrite, hwrite]

theorem writeText_of_ready (hready : w.store.Ready path) {s : Store}
    (hwrite : w.store.writeAt (Path.place path) text.toUTF8 = .ok s) :
    writeText path text w = .ok () { w with store := s } := by
  rw [writeText_eq, bind_of_ok (makeParent_of_furnished hready.furnished)]
  exact changing_of_ok (Store.write_eq_ok.mpr ⟨_, hready.located, hwrite⟩)

end Act

/-! ### Programs as parties -/

/-- Where a call of a program ends well, the program has made a file and nothing else. -/
def Runner.Makes (runs : Runner σ) (call : ProgramCall) (path : String) : Prop :=
  ∀ {w w' : World σ} {r : ProgramResult}, runs call w = (.ok r, w') → r.status = .success →
    w.store.Receives path w'.store

/-- An encoder that succeeds was called where at most directories had been made, and ended well. -/
theorem EncoderProgram.encode_eq_ok {runs : Runner σ} {e : EncoderProgram}
    {speech target : String} {format : SpeechFormat} {w w' : World σ}
    (h : e.encode runs speech target format w = .ok () w') :
    ∃ w₁ r, w.store.AddsDirectories w₁.store ∧
      runs (e.encodeCall speech target format) w₁ = (.ok r, w') ∧ r.status = .success := by
  obtain ⟨_, w₁, hparent, h⟩ := bind_eq_ok h
  obtain ⟨result, w₂, hcall, h⟩ := bind_eq_ok h
  have hruns : runs (e.encodeCall speech target format) w₁ = (result, w₂) := by
    cases hcall
    rfl
  cases result with
  | error cause => cases h
  | ok r =>
      dsimp only at h
      split at h
      · cases h
      · next hstatus =>
          obtain ⟨_, rfl⟩ := pure_eq_ok h
          exact ⟨w₁, r, (Act.makeParent_eq_ok hparent).1, hruns, not_not.mp hstatus⟩

theorem EncoderProgram.receives_of_encode {runs : Runner σ} {e : EncoderProgram}
    {speech target : String} {format : SpeechFormat} {w w' : World σ}
    (hmakes : runs.Makes (e.encodeCall speech target format) target)
    (h : e.encode runs speech target format w = .ok () w') : w.store.Receives target w'.store := by
  obtain ⟨_, _, hadds, hruns, hstatus⟩ := encode_eq_ok h
  exact .of_addsDirectories hadds (hmakes hruns hstatus)

/-- A command that succeeds was called where at most directories had been made, ended well, and left
a file at the path that it was to write to. -/
theorem SpeakerCommand.synthesize_eq_ok {runs : Runner σ} {c : SpeakerCommand}
    {text voice speech : String} {w w' : World σ}
    (h : c.synthesize runs text voice speech w = .ok () w') :
    ∃ w₁ r, w.store.AddsDirectories w₁.store ∧
      runs (c.call text voice speech) w₁ = (.ok r, w') ∧ r.status = .success ∧
      w'.store.contains speech := by
  obtain ⟨_, w₁, hparent, h⟩ := bind_eq_ok h
  obtain ⟨result, w₂, hcall, h⟩ := bind_eq_ok h
  have hruns : runs (c.call text voice speech) w₁ = (result, w₂) := by
    cases hcall
    rfl
  cases result with
  | error cause => cases h
  | ok r =>
      dsimp only at h
      split at h
      · cases h
      · split at h
        · cases h
        · next hstatus =>
            rw [Act.store_bind] at h
            split at h
            · cases h
            · next hfile =>
                obtain ⟨_, rfl⟩ := pure_eq_ok h
                rw [Bool.not_eq_true, Bool.not_eq_false'] at hfile
                exact ⟨w₁, r, (Act.makeParent_eq_ok hparent).1, hruns, not_not.mp hstatus, hfile⟩

theorem SpeakerCommand.receives_of_synthesize {runs : Runner σ} {c : SpeakerCommand}
    {text voice speech : String} {w w' : World σ}
    (hmakes : runs.Makes (c.call text voice speech) speech)
    (h : c.synthesize runs text voice speech w = .ok () w') : w.store.Receives speech w'.store := by
  obtain ⟨_, _, hadds, hruns, hstatus, -⟩ := synthesize_eq_ok h
  exact .of_addsDirectories hadds (hmakes hruns hstatus)

/-! ### Production -/

/-- The encoded speech of a cue is there. -/
def Store.HasAsset (s : Store) (o : StudioOptions) (name : String) (c : Cue) : Prop :=
  s.contains (Asset.ofCue o name c).encoded

theorem Asset.ending_encoded_ne (o : StudioOptions) (name : String) (c : Cue) :
    (Path.place (ofCue o name c).encoded).ending ≠ speechExtension.toList := by
  rw [ending_encoded]
  cases o.format <;> decide

theorem Store.Keeps.hasAsset {s s' : Store} (h : s.Keeps W s') {o : StudioOptions} {name : String}
    {c : Cue} (hs : s.HasAsset o name c) : s'.HasAsset o name c :=
  h.contains (Asset.ending_encoded_ne _ _ _) hs

/-- A way for files to change while assets are produced: directories may be made and speech may be
taken away, but no asset goes. -/
structure Store.IsCourse (R : Store → Store → Prop) : Prop where
  refl : ∀ s, R s s
  trans : ∀ {s s' s''}, R s s' → R s' s'' → R s s''
  directories : ∀ {s s'}, s.AddsDirectories s' → R s s'
  removal : ∀ {s s' path}, s.remove path = .ok s' →
    (Path.place path).ending = Asset.speechExtension.toList → R s s'
  hasAsset : ∀ {s s' o name c}, R s s' → s.HasAsset o name c → s'.HasAsset o name c

theorem Store.isCourse_keeps : IsCourse (Keeps Location.isAsset) where
  refl := .refl _
  trans := .trans
  directories := .of_addsDirectories
  removal hremove hending := .of_remove hremove (.inl hending) hending
  hasAsset h := h.hasAsset

/-- A session whose files went along a course, with a synthesizer, if any, of some kind. -/
structure Session.Along {σ : Type} (R : Store → Store → Prop) (P : Synthesizer σ → Prop)
    (s s' : Session σ) : Prop where
  store : R s.world.store s'.world.store
  synthesizer : ∀ x ∈ s'.synthesizer, P x

/-- Whoever succeeds in what is asked for an asset has gone along a course, and the synthesizers are
of some kind. -/
structure Studio.Along {σ : Type} (R : Store → Store → Prop) (P : Synthesizer σ → Prop)
    (studio : Studio σ) : Prop where
  opening : ∀ {w w' : World σ} {x : Synthesizer σ}, studio.openSynthesizer w = .ok x w' →
    R w.store w'.store ∧ P x
  speaking : ∀ {x : Synthesizer σ} {name : String} {c : Cue} {text voice : String}
    {w w' : World σ}, P x →
      x.synthesize text voice (Asset.ofCue studio.options name c).speech w = .ok () w' →
        R w.store w'.store
  encoding : ∀ {name : String} {c : Cue} {speech : String} {w w' : World σ},
    studio.encoder.encode speech (Asset.ofCue studio.options name c).encoded
      studio.options.format w = .ok () w' → R w.store w'.store

/-- Whenever the encoder succeeds for an asset, there is something where it is delivered. -/
def Studio.Delivers {σ : Type} (studio : Studio σ) (a : Asset) : Prop :=
  ∀ {w w' : World σ},
    studio.encoder.encode a.speech a.encoded studio.options.format w = .ok () w' →
      w'.store.contains a.encoded

namespace Studio

variable {studio : Studio σ} {a : Asset} {origin : Origin}

theorem speak_eq_ok (h : studio.speak a s = .ok origin s') :
    (s.world.store.contains a.speech ∧ origin = .encoded ∧ s' = s) ∨
      ¬ s.world.store.contains a.speech ∧ origin = .synthesized ∧ ∃ w x s₁ w₁,
        Act.makeParent a.speech s.world = .ok () w ∧
        studio.synthesizer a { s with world := w, events := s.events ++ [.synthesizing a] } =
          .ok x s₁ ∧
        x.synthesize a.text a.voice a.speech s₁.world = .ok () w₁ ∧
        s' = { s₁ with world := w₁ } := by
  unfold speak speakOn at h
  rw [Build.act_store_bind] at h
  split at h
  · next hthere =>
      obtain ⟨rfl, rfl⟩ := pure_eq_ok h
      exact .inl ⟨hthere, rfl, rfl⟩
  · next hmissing =>
      rw [Build.note_bind] at h
      obtain ⟨_, s₁, hparent, h⟩ := bind_eq_ok h
      obtain ⟨w, hw, rfl⟩ := Build.act_eq_ok hparent
      obtain ⟨x, s₂, hopen, h⟩ := bind_eq_ok h
      obtain ⟨_, s₃, hspeak, h⟩ := bind_eq_ok h
      obtain ⟨w₁, hw₁, rfl⟩ := Build.act_eq_ok hspeak
      obtain ⟨rfl, rfl⟩ := pure_eq_ok h
      exact .inr ⟨hmissing, rfl, w, x, s₂, w₁, hw, hopen, hw₁, rfl⟩

theorem discard_eq_ok (h : discard a s = .ok () s') :
    (∃ store, s.world.store.remove a.speech = .ok store ∧
      s' = { s with world := { s.world with store }, events := s.events ++ [.discarded a] }) ∨
    ∃ cause, s.world.store.remove a.speech = .error cause ∧
      s' = { s with events := s.events ++ [.kept a cause] } := by
  rw [discard_eq] at h
  split at h
  · next store hremove =>
      cases h
      exact .inl ⟨store, hremove, rfl⟩
  · next cause hremove =>
      cases h
      exact .inr ⟨cause, hremove, rfl⟩

theorem produce_eq_ok (h : studio.produce a s = .ok origin s') :
    (s.world.store.contains a.encoded ∧ origin = .cached ∧
      s' = { s with events := s.events ++ [.cached a] }) ∨
    ¬ s.world.store.contains a.encoded ∧ ∃ s₁ w, studio.speak a s = .ok origin s₁ ∧
      studio.encoder.encode a.speech a.encoded studio.options.format s₁.world = .ok () w ∧
      discard a { s₁ with world := w } = .ok () s' := by
  unfold produce produceOn at h
  rw [Build.act_store_bind] at h
  split at h
  · next hthere =>
      rw [Build.note_bind] at h
      obtain ⟨rfl, rfl⟩ := pure_eq_ok h
      exact .inl ⟨hthere, rfl, rfl⟩
  · next hmissing =>
      obtain ⟨_, s₁, hspeak, h⟩ := bind_eq_ok h
      obtain ⟨_, s₂, hencode, h⟩ := bind_eq_ok h
      obtain ⟨w, hw, rfl⟩ := Build.act_eq_ok hencode
      obtain ⟨_, s₃, hdiscard, h⟩ := bind_eq_ok h
      obtain ⟨rfl, rfl⟩ := pure_eq_ok h
      exact .inr ⟨hmissing, s₁, w, hspeak, hw, hdiscard⟩

end Studio

section Course

variable {R : Store → Store → Prop} {P : Synthesizer σ → Prop}

theorem Session.Along.trans (hR : Store.IsCourse R) {s'' : Session σ} (h : s.Along R P s')
    (h' : s'.Along R P s'') : s.Along R P s'' :=
  ⟨hR.trans h.store h'.store, h'.synthesizer⟩

theorem Session.Along.self (hR : Store.IsCourse R) (h : s.Along R P s') : s'.Along R P s' :=
  ⟨hR.refl _, h.synthesizer⟩

namespace Studio

variable {studio : Studio σ} {name : String} {c : Cue}

theorem synthesizer_along (hR : Store.IsCourse R) (hstudio : studio.Along R P) {a : Asset}
    {x : Synthesizer σ} (h : studio.synthesizer a s = .ok x s')
    (hs : ∀ x ∈ s.synthesizer, P x) : s.Along R P s' ∧ P x := by
  unfold synthesizer at h
  obtain ⟨_, _, hget, h⟩ := bind_eq_ok h
  cases hget
  cases hopened : s.synthesizer with
  | some opened =>
      rw [hopened] at h
      obtain ⟨rfl, rfl⟩ := pure_eq_ok h
      exact ⟨⟨hR.refl _, hs⟩, hs _ hopened⟩
  | none =>
      rw [hopened] at h
      obtain ⟨opened, _, hopen, h⟩ := bind_eq_ok h
      obtain ⟨w, hw, rfl⟩ := Build.act_eq_ok hopen
      obtain ⟨hcourse, hP⟩ := hstudio.opening hw
      cases h
      refine ⟨⟨hcourse, ?_⟩, hP⟩
      rintro x ⟨⟩
      exact hP

theorem speak_along (hR : Store.IsCourse R) (hstudio : studio.Along R P) {origin : Origin}
    (h : studio.speak (Asset.ofCue studio.options name c) s = .ok origin s')
    (hs : ∀ x ∈ s.synthesizer, P x) : s.Along R P s' := by
  obtain ⟨-, -, rfl⟩ | ⟨-, -, w, x, s₁, w₁, hparent, hopen, hspeak, rfl⟩ := speak_eq_ok h
  · exact ⟨hR.refl _, hs⟩
  · obtain ⟨hopened, hx⟩ := synthesizer_along hR hstudio hopen hs
    have hmade : R s.world.store w.store := hR.directories (Act.makeParent_eq_ok hparent).1
    exact ⟨hR.trans (hR.trans hmade hopened.store) (hstudio.speaking hx hspeak),
      hopened.synthesizer⟩

theorem discard_along (hR : Store.IsCourse R)
    (h : discard (Asset.ofCue studio.options name c) s = .ok () s')
    (hs : ∀ x ∈ s.synthesizer, P x) : s.Along R P s' := by
  obtain ⟨store, hremove, rfl⟩ | ⟨cause, -, rfl⟩ := discard_eq_ok h
  · exact ⟨hR.removal hremove (Asset.ending_speech _ _ _), hs⟩
  · exact ⟨hR.refl _, hs⟩

theorem produce_along (hR : Store.IsCourse R) (hstudio : studio.Along R P) {origin : Origin}
    (h : studio.produce (Asset.ofCue studio.options name c) s = .ok origin s')
    (hs : ∀ x ∈ s.synthesizer, P x) :
    s.Along R P s' ∧ (studio.Delivers (Asset.ofCue studio.options name c) →
      s'.world.store.HasAsset studio.options name c) := by
  obtain ⟨hthere, -, rfl⟩ | ⟨-, s₁, w, hspeak, hencode, hdiscard⟩ := produce_eq_ok h
  · exact ⟨⟨hR.refl _, hs⟩, fun _ => hthere⟩
  · have hspoken := speak_along hR hstudio hspeak hs
    have hencoded : s₁.Along R P { s₁ with world := w } :=
      ⟨hstudio.encoding hencode, hspoken.synthesizer⟩
    -- The speech is taken away behind the encoding; by its extension, it is another file.
    have hdiscarded := discard_along hR hdiscard hencoded.synthesizer
    exact ⟨(hspoken.trans hR hencoded).trans hR hdiscarded,
      fun hdelivers => hR.hasAsset hdiscarded.store (hdelivers hencode)⟩

theorem produceItem_along (hR : Store.IsCourse R) (hstudio : studio.Along R P) {i : Item}
    {r : Item × List Origin} (h : studio.produceItem name i s = .ok r s')
    (hs : ∀ x ∈ s.synthesizer, P x) :
    s.Along R P s' ∧ ∀ c ∈ i.speech, studio.Delivers (Asset.ofCue studio.options name c) →
      s'.world.store.HasAsset studio.options name c := by
  obtain ⟨produced, t, hcues, h⟩ := bind_eq_ok h
  obtain ⟨rfl, rfl⟩ := pure_eq_ok h
  refine forall_of_mapM_eq_ok (R := Session.Along R P)
    (Q := fun c s => studio.Delivers (Asset.ofCue studio.options name c) →
      s.world.store.HasAsset studio.options name c)
    (Session.Along.trans hR) (Session.Along.self hR)
    (fun hst hasset hdelivers => hR.hasAsset hst.store (hasset hdelivers))
    (fun hself hcue => ?_) ⟨hR.refl _, hs⟩ hcues
  obtain ⟨origin, u, hproduce, hcue⟩ := bind_eq_ok hcue
  obtain ⟨_, rfl⟩ := pure_eq_ok hcue
  exact produce_along hR hstudio hproduce hself.synthesizer

/-- Where a timeline was enriched, the files went along any course that the parties keep to, and the
asset of a cue is there if the encoder delivers it. -/
theorem enrich_along (hR : Store.IsCourse R) (hstudio : studio.Along R P) {t : Timeline}
    {r : Timeline × List Origin} (h : studio.enrich t s = .ok r s')
    (hs : ∀ x ∈ s.synthesizer, P x) :
    s.Along R P s' ∧ ∀ i ∈ t.items, ∀ c ∈ i.speech,
      studio.Delivers (Asset.ofCue studio.options t.name c) →
        s'.world.store.HasAsset studio.options t.name c := by
  obtain ⟨produced, u, hitems, h⟩ := bind_eq_ok h
  obtain ⟨rfl, rfl⟩ := pure_eq_ok h
  exact forall_of_mapM_eq_ok (R := Session.Along R P)
    (Q := fun i s => ∀ c ∈ i.speech, studio.Delivers (Asset.ofCue studio.options t.name c) →
      s.world.store.HasAsset studio.options t.name c)
    (Session.Along.trans hR) (Session.Along.self hR)
    (fun hst hitem c hc hdelivers => hR.hasAsset hst.store (hitem c hc hdelivers))
    (fun hself hitem => produceItem_along hR hstudio hitem hself.synthesizer)
    ⟨hR.refl _, hs⟩ hitems

end Studio

end Course

namespace Studio

variable {studio : Studio σ}

theorem Careful.along (h : studio.Careful) :
    studio.Along (Store.Keeps Location.isAsset) Synthesizer.Careful where
  opening hw := by
    obtain ⟨hstore, hx⟩ := h.opening hw
    exact ⟨hstore ▸ .refl _ _, hx⟩
  speaking {_ name c _ _ _ _} hx hw := by
    have hasset : Location.isAsset (Path.place (Asset.ofCue studio.options name c).speech) :=
      .inl (Asset.ending_speech _ _ _)
    exact (hx hw).keeps hasset (Location.isPlace_of_isAsset hasset)
  encoding {name c _ _ _} hw := by
    have hasset : Location.isAsset (Path.place (Asset.ofCue studio.options name c).encoded) :=
      .inr ⟨_, Asset.ending_encoded _ _ _⟩
    exact (h.encoding hw).keeps hasset (Location.isPlace_of_isAsset hasset)

theorem enrich_keeps (hstudio : studio.Careful) {t : Timeline} {r : Timeline × List Origin}
    (h : studio.enrich t s = .ok r s') (hs : s.Careful) :
    s.Keeps Location.isAsset s' ∧
      ∀ i ∈ t.items, ∀ c ∈ i.speech, s'.world.store.HasAsset studio.options t.name c := by
  obtain ⟨hkept, hassets⟩ := enrich_along Store.isCourse_keeps hstudio.along h hs
  exact ⟨⟨hkept.store, hkept.synthesizer⟩,
    fun i hi c hc => hassets i hi c hc fun hw => (hstudio.encoding hw).contains⟩

/-- Each cue came by its asset in one way. -/
theorem length_origins_of_enrich {t : Timeline} {r : Timeline × List Origin}
    (h : studio.enrich t s = .ok r s') : r.2.length = t.cueCount := by
  obtain ⟨produced, u, hitems, h⟩ := bind_eq_ok h
  obtain ⟨rfl, _⟩ := pure_eq_ok h
  have hlengths : produced.map (fun p => p.2.length) = t.items.map (·.speech.length) := by
    refine map_of_mapM_eq_ok (fun i s p s' hitem => ?_) hitems
    obtain ⟨cues, _, hcues, hitem⟩ := bind_eq_ok hitem
    obtain ⟨rfl, _⟩ := pure_eq_ok hitem
    have hlength : cues.map (fun _ => ()) = i.speech.map fun _ => () :=
      map_of_mapM_eq_ok (fun _ _ _ _ _ => rfl) hcues
    simpa using congrArg List.length hlength
  rw [List.length_flatten, List.map_map, Timeline.cueCount, ← hlengths]
  rfl

end Studio

/-! ### Releases -/

/-- Everything that a release makes of a timeline is there. The document of a timeline that is named
like the catalogue gives way to it. -/
structure Timeline.Released (t : Timeline) (o : StudioOptions) (s : Store) : Prop where
  check : t.check = .ok ()
  assets : ∀ i ∈ t.items, ∀ c ∈ i.speech, s.HasAsset o t.name c
  document : s.Ready (Studio.documentPath o t.name)
  bundle : s.Ready (Studio.bundlePath o t.name)
  documentWritten : t.name ≠ "registry" →
    s.writeAt (Path.place (Studio.documentPath o t.name)) (t.produced o.format).document.toUTF8 =
      .ok s
  bundleWritten :
    s.writeAt (Path.place (Studio.bundlePath o t.name))
      (Bundle.text (t.produced o.format)).toUTF8 = .ok s

namespace Timeline.Released

variable {t : Timeline} {o : StudioOptions}

theorem not_mem_name {store : Store} (h : t.Released o store) : '/' ∉ t.name.toList :=
  Studio.not_mem_of_checkName (check_eq_ok.mp h.check).1

/-- What was released stays where nothing is written for its name but the catalogue. -/
theorem keeps {store store' : Store} {names : String → Prop} (h : t.Released o store)
    (hkeeps : store.Keeps (o.writesInRun names) store') (hname : ¬ names t.name) :
    t.Released o store' := by
  have hslash := h.not_mem_name
  refine ⟨h.check, fun i hi c hc => ?_, h.document.mono fun _ => hkeeps.directory,
    h.bundle.mono fun _ => hkeeps.directory, fun hregistry => ?_, ?_⟩
  · exact hkeeps.hasAsset (h.assets i hi c hc)
  · refine hkeeps.writeAt_self ?_ (h.documentWritten hregistry)
    rintro (hwrites | hcatalogue)
    · exact Studio.not_writes_documentPath hslash hname hwrites
    · exact hregistry (Studio.documentPath_injective hslash (by decide) hcatalogue)
  · refine hkeeps.writeAt_self ?_ h.bundleWritten
    rintro (hwrites | hcatalogue)
    · exact Studio.not_writes_bundlePath hslash hname hwrites
    · have hending := Studio.ending_bundlePath o t.name
      rw [hcatalogue, Studio.cataloguePath_eq, Studio.ending_documentPath] at hending
      exact absurd hending (by decide)

end Timeline.Released

namespace Studio

variable {studio : Studio σ}

/-- A release that succeeds has checked and enriched the timeline and written its two files. -/
theorem parts_of_release {t : Timeline} {r : Timeline × CatalogueEntry}
    (h : studio.release t s = .ok r s') :
    t.check = .ok () ∧ ∃ enriched s₁ w, studio.enrich t s = .ok enriched s₁ ∧
      enriched.1 = t.produced studio.options.format ∧
      Act.writeText (documentPath studio.options t.name) enriched.1.document s₁.world = .ok () w ∧
      Act.writeText (bundlePath studio.options t.name) (Bundle.text enriched.1) w =
        .ok () s'.world ∧
      s' = { s₁ with world := s'.world, events := s₁.events ++ [.released r.2] } ∧
      r = (enriched.1, catalogueEntry enriched.1 enriched.2) := by
  unfold release releaseOn at h
  cases hcheck : t.check with
  | error fault =>
      rw [hcheck] at h
      cases h
  | ok u =>
      rw [hcheck] at h
      obtain ⟨enriched, s₁, henrich, h⟩ := bind_eq_ok h
      obtain ⟨_, s₂, hdocument, h⟩ := bind_eq_ok h
      obtain ⟨w₂, hw₂, rfl⟩ := Build.act_eq_ok hdocument
      obtain ⟨_, s₃, hbundle, h⟩ := bind_eq_ok h
      obtain ⟨w₃, hw₃, rfl⟩ := Build.act_eq_ok hbundle
      rw [Build.note_bind] at h
      obtain ⟨rfl, rfl⟩ := pure_eq_ok h
      exact ⟨rfl, enriched, s₁, w₂, henrich, enrich_eq_ok henrich, hw₂, hw₃, rfl, rfl⟩

theorem release_eq_ok (hstudio : studio.Careful) {t : Timeline} {r : Timeline × CatalogueEntry}
    (h : studio.release t s = .ok r s') (hs : s.Careful) :
    s.Keeps (studio.options.writes (· = t.name)) s' ∧ t.Released studio.options s'.world.store ∧
      ∃ origins, origins.length = t.cueCount ∧
        r.2 = catalogueEntry (t.produced studio.options.format) origins := by
  obtain ⟨hcheck, enriched, s₁, w, henrich, hproduced, hdocument, hbundle, hsession, rfl⟩ :=
    parts_of_release h
  have hsynthesizer : s'.synthesizer = s₁.synthesizer := by rw [hsession]
  obtain ⟨hkept, hassets⟩ := enrich_keeps hstudio henrich hs
  have hslash : '/' ∉ t.name.toList := not_mem_of_checkName (Timeline.check_eq_ok.mp hcheck).1
  have hdocumentPlace : studio.options.writes (· = t.name)
      (Path.place (documentPath studio.options t.name)) := .inr ⟨_, rfl, hslash, .inl rfl⟩
  have hbundlePlace : studio.options.writes (· = t.name)
      (Path.place (bundlePath studio.options t.name)) := .inr ⟨_, rfl, hslash, .inr rfl⟩
  -- Writing the bundle leaves the document alone.
  have hother : Path.place (documentPath studio.options t.name) ≠
      Path.place (bundlePath studio.options t.name) := by
    intro hsame
    have hending := ending_documentPath studio.options t.name
    rw [hsame, ending_bundlePath] at hending
    exact absurd hending (by decide)
  obtain ⟨hkept₂, hready, hwritten⟩ := Act.writeText_eq_ok hdocument hdocumentPlace
    (isPlace_of_writes hdocumentPlace)
  obtain ⟨hkept₃, hready', hwritten'⟩ := Act.writeText_eq_ok (W := (· =
    Path.place (bundlePath studio.options t.name))) hbundle rfl (isPlace_of_writes hbundlePlace)
  have hbehind := hkept₂.trans (hkept₃.mono fun l hl => hl ▸ hbundlePlace)
  refine ⟨⟨(hkept.store.mono fun _ => .inl).trans hbehind, fun x hx => ?_⟩, ?_,
    enriched.2, length_origins_of_enrich henrich, by rw [← hproduced]⟩
  · exact hkept.careful x (hsynthesizer ▸ hx)
  rw [hproduced] at hwritten hwritten'
  refine ⟨hcheck, fun i hi c hc => ?_, hready.mono fun _ => hkept₃.directory, hready',
    fun _ => hkept₃.writeAt_self hother hwritten, hwritten'⟩
  exact hbehind.hasAsset (hassets i hi c hc)

end Studio

end Storyboard
