import Mathlib
import Storyboard.Proofs.Disk.Mishap
import Storyboard.Proofs.Speech.Confinement
import Storyboard.Proofs.Speech.Isolation

/-!
What a failed release leaves of the two documents of its timeline. They are written one after the
other, the bundle last, and only when every cue has its asset. So a release that fails has left the
bundle as it was, and the document too, unless all that failed is the writing of the bundle. The
file whose writing failed is as it was or, where the medium failed in the middle of it, has a
beginning of its text.
-/

namespace Storyboard

theorem bind_eq_error {ε σ α β : Type} {x : EStateM ε σ α} {f : α → EStateM ε σ β} {s s' : σ}
    {e : ε} (h : (x >>= f) s = .error e s') :
    x s = .error e s' ∨ ∃ a t, x s = .ok a t ∧ f a t = .error e s' := by
  cases hx : x s with
  | ok a t =>
      rw [bind_of_ok hx] at h
      exact .inr ⟨a, t, rfl, h⟩
  | error e' t =>
      rw [bind_of_error hx] at h
      cases h
      exact .inl rfl

theorem after_of_error {ε σ α : Type} {x : EStateM ε σ α} {s t : σ} {e : ε}
    (h : x s = .error e t) : after x s = t := by
  rw [after, h]

/-! ### Parties that leave some locations alone -/

variable {σ α : Type} {X : Location → Prop}

/-- Whoever speaks into a file leaves some locations alone, unless the file is at one of them. -/
def Synthesizer.Avoids (X : Location → Prop) (x : Synthesizer σ) : Prop :=
  ∀ (text voice speech : String) (w : World σ), ¬ X (Path.place speech) →
    w.store.SameAt X (after (x.synthesize text voice speech) w).store

/-- Parties that leave some locations alone, whether they succeed or fail, unless they are called for
a file at one of them. -/
structure Studio.Avoids (X : Location → Prop) (studio : Studio σ) : Prop where
  opening : ∀ w : World σ, w.store.SameAt X (after studio.openSynthesizer w).store
  opened : ∀ {x : Synthesizer σ} {w w' : World σ}, studio.openSynthesizer w = .ok x w' → x.Avoids X
  encoding : ∀ (speech target : String) (format : SpeechFormat) (w : World σ),
    ¬ X (Path.place target) →
      w.store.SameAt X (after (studio.encoder.encode speech target format) w).store

/-- A session in which some locations are as they were when there were some files, and whose
synthesizer, if any, leaves them alone. -/
structure Session.KeptAt (X : Location → Prop) (before : Store) (s : Session σ) : Prop where
  store : before.SameAt X s.world.store
  synthesizer : ∀ x ∈ s.synthesizer, x.Avoids X

variable {before : Store} {m : Medium σ} {s s' : Session σ} {w w' : World σ}
  {path folder text : String} {e : Error}

/-! ### Texts that could not be written -/

/-- How the file for a text is left when an error has come up: as it was or, where the medium failed
while the text was written, with a beginning of it. -/
inductive Medium.Leaves (m : Medium σ) (path text : String) (s : Store) (e : Error) (s' : Store) :
    Prop
  | unchanged (hfile : s'.find? (Path.place path) = s.find? (Path.place path))
  | cut (w : World σ) (cause : FileError) (n : Nat) (isProgram : Bool)
      (hmishap : m.writing path w = some ⟨cause, some n⟩) (herror : e = .unwritten path cause)
      (hfile : s'.find? (Path.place path) = some (.file (text.toUTF8.extract 0 n) isProgram))

/-- An error tells that a file could not be written or that, after a mishap, its directory could not
be made. -/
inductive Medium.Hinders (m : Medium σ) (path : String) (e : Error) : Prop
  | file (cause : FileError) (herror : e = .unwritten path cause)
  | directory (w : World σ) (parent : String) (mishap : Mishap) (cause : FileError)
      (hmishap : m.making parent w = some mishap) (herror : e = .noAssetDirectory parent cause)

/-- What was as before when the writing began is left as before by it, or cut. -/
theorem Medium.Leaves.of_same {before s s' : Store} (h : m.Leaves path text s e s')
    (hsame : s.find? (Path.place path) = before.find? (Path.place path)) :
    m.Leaves path text before e s' := by
  cases h with
  | unchanged hfile => exact .unchanged (hfile.trans hsame)
  | cut w cause n isProgram hmishap herror hfile =>
      exact .cut w cause n isProgram hmishap herror hfile

theorem Medium.leaves_sound {before after : Store} :
    Medium.sound.Leaves (σ := σ) path text before e after ↔
      after.find? (Path.place path) = before.find? (Path.place path) := by
  constructor
  · rintro (hfile | ⟨w, cause, n, isProgram, ⟨⟩, -, -⟩)
    exact hfile
  · exact .unchanged

theorem Medium.hinders_sound :
    Medium.sound.Hinders (σ := σ) path e ↔ ∃ cause, e = .unwritten path cause := by
  constructor
  · rintro (⟨cause, herror⟩ | ⟨w, parent, mishap, cause, ⟨⟩, -⟩)
    exact ⟨cause, herror⟩
  · rintro ⟨cause, herror⟩
    exact .file cause herror

namespace Act

theorem sameAt_makeParent (hparent : Path.parent? path = some folder)
    (hclear : w.store.Clears X (Path.lineage folder)) :
    w.store.SameAt X (after (makeParentOn m path) w).store := by
  rw [after_makeParentOn_eq hparent]
  exact Store.sameAt_makeDirectoriesAmid hclear _

/-- What is made amid mishaps and succeeds is made just so without them. -/
theorem makeParent_of_makeParentOn (h : makeParentOn m path w = .ok () w') :
    makeParent path w = .ok () w' := by
  cases hparent : Path.parent? path with
  | none =>
      rw [makeParentOn_of_none m hparent] at h
      rw [makeParent_of_none hparent]
      exact h
  | some folder =>
      rw [makeParentOn_eq m hparent] at h
      rw [makeParent_eq hparent]
      split at h
      · next made hmade =>
          rw [Store.makeDirectoriesAmid_eq_ok hmade]
          exact h
      · cases h

theorem after_attempting (error : FileError → Error)
    (change : World σ → Except FileError Unit × Store) (w : World σ) :
    after (attempting error change) w = { w with store := (change w).2 } := by
  rw [after, attempting_eq]
  obtain ⟨_ | _, s⟩ := change w <;> rfl

theorem sameAt_writeText (hparent : Path.parent? path = some folder)
    (hclear : w.store.Clears X (Path.lineage folder)) (hpath : ¬ X (Path.place path)) :
    w.store.SameAt X (after (writeTextOn m path text) w).store := by
  refine after_bind (I := fun w' : World σ => w.store.SameAt X w'.store)
    (sameAt_makeParent hparent hclear) fun {_ w₁} _ hmade => ?_
  rw [after_attempting]
  exact hmade.trans (Store.sameAt_writeAmid hpath)

/-- Writing touches nothing but the file, whatever comes of it. -/
theorem confined_writeTextOn (hparent : Path.parent? path = some folder)
    (hpath : X (Path.place path)) :
    w.store.Confined Location.anywhere X (after (writeTextOn m path text) w).store := by
  refine after_bind (I := fun w' : World σ => w.store.Confined Location.anywhere X w'.store) ?_
    fun {_ w₁} _ hmade => ?_
  · rw [after_makeParentOn_eq hparent]
    have hadds := Store.addsDirectories_makeDirectoriesAmid w.store folder (m.making folder w)
    exact ⟨hadds.node, fun _ => hadds.node,
      fun _ hl => (hadds.added hl).imp_right fun hn => ⟨hn, trivial⟩⟩
  · rw [after_attempting]
    refine hmade.trans ?_
    obtain hsame | ⟨part, hwrite⟩ :=
      Store.writeAmid_snd w₁.store path text.toUTF8 (m.writing path w₁)
    · rw [hsame]
      exact .refl _ X w₁.store
    · exact .of_write hwrite hpath

theorem attempting_eq_ok {error : FileError → Error}
    {change : World σ → Except FileError Unit × Store} (h : attempting error change w = .ok () w') :
    change w = (.ok (), w'.store) := by
  rw [attempting_eq] at h
  split at h
  · next s hchange =>
      cases h
      exact hchange
  · cases h

theorem attempting_eq_error {error : FileError → Error}
    {change : World σ → Except FileError Unit × Store}
    (h : attempting error change w = .error e w') :
    ∃ cause, e = error cause ∧ change w = (.error cause, w'.store) := by
  rw [attempting_eq] at h
  split at h
  · cases h
  · next cause s hchange =>
      cases h
      exact ⟨cause, rfl, hchange⟩

/-- A text that was written is there, and so is its directory. -/
theorem wrote_of_writeTextOn (hparent : Path.parent? path = some folder)
    (h : writeTextOn m path text w = .ok () w') :
    w'.store.Wrote path text ∧ w'.store.Furnished folder := by
  obtain ⟨_, w₁, hmake, hwrite⟩ := bind_eq_ok h
  replace hwrite := Store.writeAmid_eq_ok (attempting_eq_ok hwrite)
  refine ⟨Store.wrote_of_write hwrite, ?_⟩
  obtain ⟨-, hfurnished⟩ := makeParent_eq_ok (makeParent_of_makeParentOn hmake)
  have hconfined : w₁.store.Confined Location.anywhere (· = Path.place path) w'.store :=
    .of_write hwrite rfl
  exact (hfurnished folder hparent).mono fun _ => hconfined.directory

theorem leaves_of_writeText_error (hparent : Path.parent? path = some folder)
    (hclear : w.store.Clears (· = Path.place path) (Path.lineage folder))
    (h : writeTextOn m path text w = .error e w') :
    m.Leaves path text w.store e w'.store := by
  have hmade := sameAt_makeParent (m := m) hparent hclear
  rcases bind_eq_error h with hfailed | ⟨_, w₁, hdone, hwrite⟩
  · rw [after_of_error hfailed] at hmade
    exact .unchanged (hmade _ rfl)
  rw [after_of_ok hdone] at hmade
  obtain ⟨cause, rfl, hfailed⟩ := attempting_eq_error hwrite
  obtain hsame | ⟨n, hmishap, hpart⟩ := Store.writeAmid_eq_error hfailed
  · rw [← hsame] at hmade
    exact .unchanged (hmade _ rfl)
  obtain ⟨l, hl, hwrite⟩ := Store.write_eq_ok.mp hpart
  obtain rfl := Store.locate_eq_ok (Store.locate_of_locateNew hl)
  obtain ⟨isProgram, hfile⟩ | ⟨hsame, -⟩ := Store.find?_of_writeAt hwrite
  · exact .cut w₁ cause n isProgram hmishap rfl hfile
  · rw [← hsame] at hmade
    exact .unchanged (hmade _ rfl)

/-- Where the directory is there, it is the file that cannot be written, but for a mishap. -/
theorem hinders_of_writeText_error (hparent : Path.parent? path = some folder)
    (hfurnished : w.store.Furnished folder) (h : writeTextOn m path text w = .error e w') :
    m.Hinders path e := by
  rcases bind_eq_error h with hfailed | ⟨_, w₁, -, hwrite⟩
  · rw [makeParentOn_eq m hparent] at hfailed
    cases hmishap : m.making folder w with
    | none =>
        rw [hmishap, Store.makeDirectoriesAmid,
          Store.makeDirectories_of_furnished hfurnished] at hfailed
        cases hfailed
    | some mishap =>
        split at hfailed
        · cases hfailed
        · cases hfailed
          exact .directory w folder mishap _ hmishap rfl
  · obtain ⟨cause, rfl, -⟩ := attempting_eq_error hwrite
    exact .file cause rfl

end Act

namespace Build

theorem keptAt_act {a : Act σ α} (hs : s.KeptAt X before)
    (ha : s.world.store.SameAt X (after a s.world).store) :
    (after (act a) s).KeptAt X before := by
  rw [after_act]
  exact ⟨hs.store.trans ha, hs.synthesizer⟩

theorem act_eq_error {a : Act σ α} {e : Error} (h : act a s = .error e s') :
    ∃ w, a s.world = .error e w ∧ s' = { s with world := w } := by
  unfold act at h
  split at h
  · cases h
  · next e' w hw =>
      cases h
      exact ⟨w, hw, rfl⟩

theorem keptAt_note (hs : s.KeptAt X before) (e : BuildEvent) :
    Session.KeptAt X before { s with events := s.events ++ [e] } :=
  ⟨hs.store, hs.synthesizer⟩

end Build

/-! ### Production -/

namespace Studio

variable {studio : Studio σ} {a : Asset} {t : Timeline}

theorem keptAt_synthesizer (havoids : studio.Avoids X) (hs : s.KeptAt X before) (a : Asset) :
    Safe (Session.KeptAt X before) (Synthesizer.Avoids X) (studio.synthesizer a) s := by
  refine safe_synthesizer hs hs.synthesizer havoids.opened
    (Build.keptAt_act hs (havoids.opening s.world)) fun hx ht => ⟨ht.store, ?_⟩
  rintro _ ⟨⟩
  exact hx

theorem keptAt_produce (havoids : studio.Avoids X) (hs : s.KeptAt X before)
    (hspeech : ¬ X (Path.place a.speech)) (hencoded : ¬ X (Path.place a.encoded))
    (hparent : Path.parent? a.speech = some folder)
    (hclear : before.Clears X (Path.lineage folder)) :
    (after (studio.produceOn m a) s).KeptAt X before := by
  have hnote : ∀ {t : Session σ} {e : BuildEvent}, (∀ b, e ≠ .cached b) → t.KeptAt X before →
      Session.KeptAt X before { t with events := t.events ++ [e] } :=
    fun _ ht => Build.keptAt_note ht _
  have hspeak : (after (studio.speakOn m a) s).KeptAt X before := by
    refine after_speak hnote (fun ht => ?_) (fun _ {t} ht => keptAt_synthesizer havoids ht a)
      (fun hx ht => ?_) hs
    · exact Build.keptAt_act ht (Act.sameAt_makeParent hparent (hclear.of_sameAt ht.store))
    · exact Build.keptAt_act ht (hx _ _ _ _ hspeech)
  refine after_produce hnote (fun _ => Build.keptAt_note hs _) (fun _ => hspeak)
    (fun _ {_ t} _ ht => ?_) fun {t u} ht hremove => ?_
  · exact Build.keptAt_act ht (havoids.encoding _ _ _ _ hencoded)
  · exact ⟨ht.store.trans (.of_remove (Store.removeAmid_eq_ok hremove) hspeech), ht.synthesizer⟩

/-- However enriching ends, it leaves alone what is no sound of the timeline's cues. -/
theorem keptAt_enrich (havoids : studio.Avoids X) (hs : s.KeptAt X before) (ht : t.check = .ok ())
    (hsounds : ∀ l, studio.options.soundFiles t l → ¬ X l)
    (hclear : before.Clears X (Path.lineage (Path.join studio.options.speechRoot t.name))) :
    (after (studio.enrichOn m t) s).KeptAt X before := by
  refine after_enrich (fun i hi c hc {s} hs => ?_) hs
  obtain ⟨hparent, -⟩ := parent?_asset studio.options (Timeline.check_eq_ok.mp ht).1
    (Timeline.isVoice_of_check ht hi hc)
  exact keptAt_produce havoids hs (hsounds _ (soundFiles_speech ht hi hc))
    (hsounds _ (soundFiles_encoded ht hi hc)) hparent hclear

/-! ### Failed releases -/

/-- None of the directories that a release may have to make is to be made where one of its two
documents belongs. -/
structure Uncrossed (o : StudioOptions) (t : Timeline) (before : Store) : Prop where
  sounds : before.Clears (o.documentFiles t) (Path.lineage (Path.join o.speechRoot t.name))
  documents : before.Clears (o.documentFiles t) (Path.lineage o.outputFolder)

theorem find?_of_sameAt {o : StudioOptions} {store store' : Store} (ht : t.check = .ok ())
    (h : store.SameAt (o.documentFiles t) store') :
    store'.find? (Path.place (documentPath o t.name)) =
        store.find? (Path.place (documentPath o t.name)) ∧
      store'.find? (Path.place (bundlePath o t.name)) =
        store.find? (Path.place (bundlePath o t.name)) :=
  ⟨h _ (place_documentFiles ht).1, h _ (place_documentFiles ht).2⟩

/-- A document that could not be written leaves the bundle as it was. -/
theorem document_of_error {o : StudioOptions} {document : String} {w₁ : World σ}
    (ht : t.check = .ok ())
    (hclear : w.store.Clears (o.documentFiles t) (Path.lineage o.outputFolder))
    (hdocument : Act.writeTextOn m (documentPath o t.name) document w = .error e w₁) :
    m.Leaves (documentPath o t.name) document w.store e w₁.store ∧
      w₁.store.find? (Path.place (bundlePath o t.name)) =
        w.store.find? (Path.place (bundlePath o t.name)) := by
  have hparent := parent?_documentPath o (not_mem_of_checkName (Timeline.check_eq_ok.mp ht).1)
  have hbundleClear : w.store.Clears (· = Path.place (bundlePath o t.name))
      (Path.lineage o.outputFolder) := hclear.mono fun l hl => hl ▸ (place_documentFiles ht).2
  have hbeside : w.store.SameAt (· = Path.place (bundlePath o t.name)) w₁.store := by
    rw [← after_of_error hdocument]
    exact Act.sameAt_writeText hparent hbundleClear (place_documentPath_ne o t.name)
  refine ⟨Act.leaves_of_writeText_error hparent ?_ hdocument, hbeside _ rfl⟩
  exact hclear.mono fun l hl => hl ▸ (place_documentFiles ht).1

/-- A bundle that could not be written behind its document leaves the document as it was written. -/
theorem bundle_of_error {o : StudioOptions} {document bundle : String} {w₁ w₂ : World σ}
    (ht : t.check = .ok ())
    (hclear : w.store.Clears (o.documentFiles t) (Path.lineage o.outputFolder))
    (hdocument : Act.writeTextOn m (documentPath o t.name) document w = .ok () w₁)
    (hbundle : Act.writeTextOn m (bundlePath o t.name) bundle w₁ = .error e w₂) :
    m.Hinders (bundlePath o t.name) e ∧ w₂.store.Holds (documentPath o t.name) document ∧
      m.Leaves (bundlePath o t.name) bundle w.store e w₂.store := by
  have hname := not_mem_of_checkName (Timeline.check_eq_ok.mp ht).1
  have hdocumentParent := parent?_documentPath o hname
  have hbundleParent := parent?_bundlePath o hname
  replace hclear : w.store.Clears (· = Path.place (bundlePath o t.name))
      (Path.lineage o.outputFolder) := hclear.mono fun l hl => hl ▸ (place_documentFiles ht).2
  have hsame : w.store.SameAt (· = Path.place (bundlePath o t.name)) w₁.store := by
    rw [← after_of_ok hdocument]
    exact Act.sameAt_writeText hdocumentParent hclear (place_documentPath_ne o t.name)
  obtain ⟨hwrote, hfurnished⟩ := Act.wrote_of_writeTextOn hdocumentParent hdocument
  have hkept : w₁.store.Confined Location.anywhere (· = Path.place (bundlePath o t.name))
      w₂.store := by
    rw [← after_of_error hbundle]
    exact Act.confined_writeTextOn hbundleParent rfl
  refine ⟨Act.hinders_of_writeText_error hbundleParent hfurnished hbundle,
    (hkept.wrote (place_documentPath_ne o t.name) hwrote).holds, ?_⟩
  exact (Act.leaves_of_writeText_error hbundleParent (hclear.of_sameAt hsame) hbundle).of_same
    (hsame _ rfl)

/-- A release that fails leaves the bundle of its timeline as it was, and the document too, unless it
is the bundle that could not be written; then the document holds the produced timeline. The file that
could not be written may have a beginning of its text if the medium failed in the middle of it. Of
the parties it is assumed that they leave the two files alone, of the files that no directory is
missing in their place. -/
theorem release_of_error (havoids : studio.Avoids (studio.options.documentFiles t))
    (hsession : ∀ x ∈ s.synthesizer, x.Avoids (studio.options.documentFiles t))
    (huncrossed : Uncrossed studio.options t s.world.store)
    (h : studio.releaseOn m t s = .error e s') :
    m.Leaves (documentPath studio.options t.name) (t.produced studio.options.format).document
        s.world.store e s'.world.store ∧
      s'.world.store.find? (Path.place (bundlePath studio.options t.name)) =
        s.world.store.find? (Path.place (bundlePath studio.options t.name)) ∨
    m.Hinders (bundlePath studio.options t.name) e ∧
      s'.world.store.Holds (documentPath studio.options t.name)
        (t.produced studio.options.format).document ∧
      m.Leaves (bundlePath studio.options t.name)
        (Bundle.text (t.produced studio.options.format)) s.world.store e s'.world.store := by
  unfold releaseOn at h
  cases hcheck : t.check with
  | error fault =>
      rw [hcheck] at h
      cases h
      exact .inl ⟨.unchanged rfl, rfl⟩
  | ok u =>
      rw [hcheck] at h
      have henriched : (after (studio.enrichOn m t) s).KeptAt (studio.options.documentFiles t)
          s.world.store :=
        keptAt_enrich havoids ⟨.refl _ _, hsession⟩ hcheck
          (fun l hl hdocument => StudioOptions.not_soundFiles_of_documentFiles hdocument hl)
          huncrossed.sounds
      rcases bind_eq_error h with hfailed | ⟨enriched, s₁, henrich, h⟩
      · rw [after_of_error hfailed] at henriched
        obtain ⟨hdocument, hbundle⟩ := find?_of_sameAt hcheck henriched.store
        exact .inl ⟨.unchanged hdocument, hbundle⟩
      rw [after_of_ok henrich] at henriched
      have hclear := huncrossed.documents.of_sameAt henriched.store
      obtain ⟨hdocument, hbundle⟩ := find?_of_sameAt hcheck henriched.store
      have hproduced : enriched.1 = t.produced studio.options.format := enrich_eq_ok henrich
      rw [← hproduced]
      rcases bind_eq_error h with hfailed | ⟨_, s₂, hwritten, h⟩
      · obtain ⟨w₂, hw₂, rfl⟩ := Build.act_eq_error hfailed
        obtain ⟨hleaves, hbeside⟩ := document_of_error hcheck hclear hw₂
        exact .inl ⟨hleaves.of_same hdocument, hbeside.trans hbundle⟩
      obtain ⟨w₂, hw₂, rfl⟩ := Build.act_eq_ok hwritten
      rcases bind_eq_error h with hfailed | ⟨_, s₃, -, h⟩
      · obtain ⟨w₃, hw₃, rfl⟩ := Build.act_eq_error hfailed
        obtain ⟨hhinders, hholds, hleaves⟩ := bundle_of_error hcheck hclear hw₂ hw₃
        exact .inr ⟨hhinders, hholds, hleaves.of_same hbundle⟩
      · cases h

theorem avoids_restingAt (publicRoot scriptFolder : String) :
    (restingAt publicRoot scriptFolder).Avoids X where
  opening w := .refl X w.store
  opened h := by cases h
  encoding _ _ _ w _ := .refl X w.store

theorem exists_error_of_told {m : Medium Unit} {studio : Studio Unit} {s : Session Unit}
    {P : Session Unit → Prop} [DecidablePred P]
    (h : (match studio.releaseOn m t s with
      | .ok _ _ => false
      | .error _ s' => decide (P s')) = true) :
    ∃ e s', studio.releaseOn m t s = .error e s' ∧ P s' := by
  split at h
  · cases h
  · next e s' hrelease => exact ⟨e, s', hrelease, of_decide_eq_true h⟩

/-- A release that fails and leaves another document or another bundle than there was. -/
def Torn (studio : Studio Unit) (m : Medium Unit) (store : Store) (t : Timeline) : Prop :=
  ∃ e s', studio.releaseOn m t (.start ⟨store, ()⟩) = .error e s' ∧
    ¬ (s'.world.store.find? (Path.place (documentPath studio.options t.name)) =
          store.find? (Path.place (documentPath studio.options t.name)) ∧
        s'.world.store.find? (Path.place (bundlePath studio.options t.name)) =
          store.find? (Path.place (bundlePath studio.options t.name)))

/-- A medium on which there is room for some bytes only of the file at a path. -/
def cramped (path : String) (room : Nat) : Medium Unit :=
  { Medium.sound with
    writing := fun target _ => if target = path then some ⟨.noSpace, some room⟩ else none }

/-- A timeline without narration. -/
def titled : Timeline :=
  ⟨"a", [.card ⟨"A", none, .zero, [], []⟩]⟩

/-- A directory stands where the bundle of the timeline belongs, beside an older document. -/
def barred : Store :=
  (((Store.empty.put ["p"] .directory).put ["p", "timelines"] .directory).put
    ["p", "timelines", "a.json"] (.file "old".toUTF8 false)).put
    ["p", "timelines", "a.speech.js"] .directory

theorem uncrossed_resting {store : Store} (h : store = barred ∨ store = .empty) :
    Uncrossed (restingAt "p" "t").options titled store := by
  obtain rfl | rfl := h
  all_goals constructor <;> unfold Store.Clears StudioOptions.documentFiles <;> decide +kernel

/-- The document is a new one, although the bundle could not be written; there is nothing of the
bundle or, where there was not the room for it, a beginning of it. -/
theorem release_of_error_barred :
    (∃ e s', (restingAt "p" "t").release titled (.start ⟨barred, ()⟩) = .error e s' ∧
      (∃ cause, e = .unwritten "p/timelines/a.speech.js" cause) ∧
      s'.world.store.Holds "p/timelines/a.json" (titled.produced .opus).document ∧
      s'.world.store.find? (Path.place "p/timelines/a.speech.js") = some .directory) ∧
    ∃ e s', (restingAt "p" "t").releaseOn (cramped "p/timelines/a.speech.js" 3) titled
        (.start ⟨.empty, ()⟩) = .error e s' ∧
      s'.world.store.Holds "p/timelines/a.json" (titled.produced .opus).document ∧
      ∃ isProgram, s'.world.store.find? (Path.place "p/timelines/a.speech.js") =
        some (.file ((Bundle.text (titled.produced .opus)).toUTF8.extract 0 3) isProgram) := by
  constructor
  · obtain ⟨e, s', hfailed, htorn⟩ : ∃ e s',
        (restingAt "p" "t").release titled (.start ⟨barred, ()⟩) = .error e s' ∧
          s'.world.store.find? (Path.place "p/timelines/a.json") ≠
            barred.find? (Path.place "p/timelines/a.json") :=
      exists_error_of_told (by decide +kernel)
    obtain ⟨hdocument, -⟩ | ⟨hhinders, hholds, hbundle⟩ := release_of_error
      (avoids_restingAt "p" "t") (by rintro x ⟨⟩) (uncrossed_resting (.inl rfl)) hfailed
    · exact absurd (Medium.leaves_sound.mp hdocument) htorn
    · exact ⟨e, s', hfailed, Medium.hinders_sound.mp hhinders, hholds,
        Medium.leaves_sound.mp hbundle⟩
  · obtain ⟨e, s', hfailed, hbegun⟩ : ∃ e s',
        (restingAt "p" "t").releaseOn (cramped "p/timelines/a.speech.js" 3) titled
          (.start ⟨.empty, ()⟩) = .error e s' ∧
          s'.world.store.find? (Path.place "p/timelines/a.speech.js") ≠ none :=
      exists_error_of_told (by decide +kernel)
    obtain ⟨-, hbundle⟩ | ⟨-, hholds, hbundle | ⟨_, _, n, isProgram, hmishap, -, hfile⟩⟩ :=
      release_of_error (avoids_restingAt "p" "t") (by rintro x ⟨⟩) (uncrossed_resting (.inr rfl))
        hfailed
    · exact absurd hbundle hbegun
    · exact absurd hbundle hbegun
    · cases hmishap
      exact ⟨e, s', hfailed, hholds, isProgram, hfile⟩

/-- A studio whose synthesizer writes a document of its own and then cannot be opened. -/
def meddling : Studio Unit :=
  { restingAt "p" "t" with
    openSynthesizer := do
      Act.writeText "p/timelines/d.json" ""
      throw .emptyCommand }

/-- The two documents are not changed together where the bundle cannot be written, where there is
not the room for one of them, where a party writes one of them and fails, or where the document is
taken for a directory on the way to it. -/
theorem release_together_fails :
    Torn (restingAt "p" "t") .sound barred titled ∧
      Torn (restingAt "p" "t") (cramped "p/timelines/a.json" 3) .empty titled ∧
      Torn meddling .sound .empty greetings ∧
      Torn (restingAt "m/timelines/a.json/../.." "t") .sound .empty titled :=
  ⟨exists_error_of_told (by decide +kernel), exists_error_of_told (by decide +kernel),
    exists_error_of_told (by decide +kernel), exists_error_of_told (by decide +kernel)⟩

end Studio

end Storyboard
