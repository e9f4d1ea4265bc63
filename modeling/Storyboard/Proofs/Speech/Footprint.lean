import Mathlib
import Storyboard.Proofs.Speech.Catalogue
import Storyboard.Proofs.Speech.Naming
import Storyboard.Proofs.Speech.Provenance

/-!
What a release can touch. Whether it succeeds or fails, it leaves everything as it is but the files
that are kept under the name of its timeline, as long as the parties to it touch no file but the one
they are called for. So what one timeline has got, no other one takes away: the only document that
is written twice is one that bears the name of the catalogue.
-/

namespace Storyboard

/-! ### Changes at some locations -/

/-- Files before and after something that touches nothing but some locations, and makes directories
at others. -/
structure Store.Confined (D X : Location → Prop) (s s' : Store) : Prop where
  directory : ∀ {l}, s.find? l = some .directory → s'.find? l = some .directory
  node : ∀ {l n}, ¬ X l → s.find? l = some n → s'.find? l = some n
  added : ∀ {l n}, ¬ X l → s'.find? l = some n → s.find? l = some n ∨ n = .directory ∧ D l

/-- Making a directory and those it lies in makes nothing but at some locations. -/
def Store.MakesOnly (D : Location → Prop) (s : Store) (folder : String) : Prop :=
  ∀ {l}, (s.makeDirectories folder).2.find? l = some .directory →
    s.find? l = some .directory ∨ D l

namespace Store.Confined

variable {s s' s'' : Store} {D X Y : Location → Prop} {l : Location} {path text : String}

protected theorem refl (D X : Location → Prop) (s : Store) : Confined D X s s :=
  ⟨id, fun _ => id, fun _ => .inl⟩

protected theorem trans (h : Confined D X s s') (h' : Confined D X s' s'') :
    Confined D X s s'' where
  directory hl := h'.directory (h.directory hl)
  node hX hl := h'.node hX (h.node hX hl)
  added hX hl := (h'.added hX hl).elim (h.added hX) .inr

theorem mono (h : Confined D X s s') (hXY : ∀ l, X l → Y l) : Confined D Y s s' :=
  ⟨h.directory, fun hY => h.node fun hX => hY (hXY _ hX),
    fun hY => h.added fun hX => hY (hXY _ hX)⟩

theorem of_makeDirectories {folder : String} (h : s.MakesOnly D folder) :
    Confined D X s (s.makeDirectories folder).2 := by
  have hadds := addsDirectories_makeDirectories s folder
  refine ⟨hadds.node, fun _ => hadds.node, ?_⟩
  intro l n _ hl
  rcases hadds.added hl with hthere | rfl
  · exact .inl hthere
  · exact (h hl).imp id fun hD => ⟨rfl, hD⟩

theorem of_changesAt (h : s.ChangesAt l s') (hX : X l) (hdir : s.find? l ≠ some .directory) :
    Confined D X s s' where
  directory := by
    intro m hm
    rwa [h.find?_eq]
    rintro rfl
    exact hdir hm
  node := by
    intro m n hm hn
    rwa [h.find?_eq]
    rintro rfl
    exact hm hX
  added := by
    intro m n hm hn
    rw [h.find?_eq] at hn
    · exact .inl hn
    · rintro rfl
      exact hm hX

theorem of_write {content : ByteArray} (h : s.write path content = .ok s')
    (hX : X (Path.place path)) : Confined D X s s' := by
  obtain ⟨l, hl, hwrite⟩ := write_eq_ok.mp h
  obtain rfl := locate_eq_ok (locate_of_locateNew hl)
  exact of_changesAt (changesAt_writeAt hwrite) hX (find?_ne_directory_of_writeAt hwrite)

theorem of_remove (h : s.remove path = .ok s') (hX : X (Path.place path)) : Confined D X s s' := by
  obtain ⟨content, isProgram, hfile, rfl⟩ := remove_eq_ok h
  refine of_changesAt changesAt_erase hX ?_
  rw [hfile]
  rintro ⟨⟩

theorem contains (h : Confined D X s s') (hX : ¬ X (Path.place path)) (hs : s.contains path) :
    s'.contains path := by
  obtain ⟨l, hl, hsome⟩ := contains_iff.mp hs
  obtain ⟨n, hn⟩ := Option.isSome_iff_exists.mp hsome
  have hn' : s'.find? l = some n := h.node (locate_eq_ok hl ▸ hX) hn
  exact contains_iff.mpr ⟨l, locate_mono (fun _ => h.directory) hl, hn' ▸ rfl⟩

theorem wrote (h : Confined D X s s') (hX : ¬ X (Path.place path)) (hs : s.Wrote path text) :
    s'.Wrote path text := by
  refine ⟨locateNew_mono (fun _ => h.directory) hs.located, ?_⟩
  refine writeAt_self_congr hs.written ?_
  obtain ⟨isProgram, hl⟩ | ⟨_, d, hl⟩ := find?_of_writeAt hs.written
  all_goals rw [hl, h.node hX hl]

theorem readText (h : Confined D X s s') (hX : ¬ X (Path.place path))
    (hs : s.readText path = .ok text) : s'.readText path = .ok text :=
  readText_mono (fun _ => h.directory) (h.node hX) hs

end Store.Confined

/-! ### Places of a name -/

namespace StudioOptions

variable (o : StudioOptions) {name other : String} {l : Location}

/-- Where the timeline with a name is released to: the sounds in its folder, its document and its
bundle. -/
def outputs (name : String) (l : Location) : Prop :=
  (l.isAsset ∧ ∃ file, l = .kept o.publicRoot name file) ∨ l = Path.place (Studio.documentPath o name) ∨
    l = Path.place (Studio.bundlePath o name)

theorem place_outputFolder :
    Path.place o.outputFolder = Path.place o.publicRoot ++ ["timelines"] := by
  rw [outputFolder, Path.place_join_name _ ⟨by decide, by decide, by decide⟩,
    Location.child_eq (by decide) (by decide)]

variable {o}

theorem outputs_cases (hname : '/' ∉ name.toList) (h : o.outputs name l) :
    (∃ file, l = Path.place o.publicRoot ++ ["speech", name, file]) ∨
      l = Path.place o.publicRoot ++ ["timelines", name ++ ".json"] ∨
      l = Path.place o.publicRoot ++ ["timelines", name ++ ".speech.js"] := by
  rcases h with ⟨_, hkept⟩ | rfl | rfl
  · exact .inl hkept
  · rw [Studio.place_documentPath hname, place_outputFolder, List.append_assoc]
    exact .inr (.inl rfl)
  · rw [Studio.place_bundlePath hname, place_outputFolder, List.append_assoc]
    exact .inr (.inr rfl)

/-- No script stands where something is released to. -/
theorem isPlace_of_outputs (h : o.outputs name l) : Script.isPlace l = false := by
  rcases h with ⟨hasset, _⟩ | rfl | rfl
  · exact Location.isPlace_of_isAsset hasset
  · unfold Script.isPlace
    rw [Studio.ending_documentPath]
    decide
  · unfold Script.isPlace
    rw [Studio.ending_bundlePath]
    decide

/-- Timelines of different names share no output. -/
theorem eq_of_outputs (hname : '/' ∉ name.toList) (hother : '/' ∉ other.toList)
    (h : o.outputs name l) (h' : o.outputs other l) : name = other := by
  have hending : ∀ a b : String, a ++ ".json" ≠ b ++ ".speech.js" := by
    intro a b hab
    have hlast := congrArg (·.toList.getLast?) hab
    simp at hlast
  rcases outputs_cases hname h with ⟨file, rfl⟩ | rfl | rfl <;>
    rcases outputs_cases hother h' with ⟨file', hl⟩ | hl | hl
  all_goals simp [hending, (hending _ _).symm] at hl
  all_goals first | exact hl.1 | exact hl

end StudioOptions

/-! ### Tidy parties -/

/-- The directory that a path lies in is there. -/
def Store.Houses (s : Store) (path : String) : Prop :=
  ∀ parent ∈ Path.parent? path, s.Furnished parent

theorem Store.Houses.mono {s s' : Store} {path : String}
    (hdir : ∀ {l}, s.find? l = some .directory → s'.find? l = some .directory)
    (h : s.Houses path) : s'.Houses path :=
  fun parent hparent => (h parent hparent).mono fun _ => hdir

variable {σ α : Type} {D X : Location → Prop}

/-- Whoever speaks into a directory touches no file but that of the speech. -/
def Synthesizer.Tidy (D : Location → Prop) (x : Synthesizer σ) : Prop :=
  ∀ (text voice speech : String) (w : World σ), w.store.Houses speech →
    w.store.Confined D (· = Path.place speech) (after (x.synthesize text voice speech) w).store

/-- Parties that touch no file but the one they are called for, whether they succeed or fail, and
make directories at some locations only. -/
structure Studio.Tidy (D : Location → Prop) (studio : Studio σ) : Prop where
  available : ∀ w, (after studio.encoder.available w).store = w.store
  opening : ∀ w, (after studio.openSynthesizer w).store = w.store
  opened : ∀ {x : Synthesizer σ} {w w' : World σ}, studio.openSynthesizer w = .ok x w' → x.Tidy D
  encoding : ∀ (speech target : String) (format : SpeechFormat) (w : World σ),
    w.store.Houses target → w.store.Confined D (· = Path.place target)
      (after (studio.encoder.encode speech target format) w).store

/-- What a build needs of tidy parties. -/
structure Studio.Neat (D : Location → Prop) (studio : Studio σ) : Prop where
  opening : ∀ w, (after studio.openSynthesizer w).store = w.store
  opened : ∀ {x : Synthesizer σ} {w w' : World σ}, studio.openSynthesizer w = .ok x w' → x.Tidy D
  encoding : ∀ (speech target : String) (format : SpeechFormat) (w : World σ),
    w.store.Houses target → w.store.Confined D (· = Path.place target)
      (after (studio.encoder.encode speech target format) w).store

theorem Studio.Tidy.neat {studio : Studio σ} (h : studio.Tidy D) : studio.Neat D :=
  ⟨h.opening, h.opened, h.encoding⟩

def Session.Tidy (D : Location → Prop) (s : Session σ) : Prop :=
  ∀ x ∈ s.synthesizer, x.Tidy D

/-- A session with a tidy synthesizer, if any, in which some locations were touched since there
were some files. -/
structure Session.Confined (D X : Location → Prop) (before : Store) (s : Session σ) : Prop where
  store : before.Confined D X s.world.store
  tidy : s.Tidy D

/-! ### Single acts -/

variable {before : Store} {s s' : Session σ} {w : World σ} {path folder text : String}

theorem Act.confined_writeText (hparent : Path.parent? path = some folder)
    (hfolder : w.store.MakesOnly D folder) (hX : X (Path.place path)) :
    w.store.Confined D X (after (writeText path text) w).store := by
  refine after_writeText ?_ fun hmade hwrite => hmade.trans (.of_write hwrite hX)
  rw [after_makeParent_eq hparent]
  exact .of_makeDirectories hfolder

namespace Build

theorem confined_act {a : Act σ α} (hs : s.Confined D X before)
    (ha : s.world.store.Confined D X (after a s.world).store) :
    (after (act a) s).Confined D X before := by
  rw [after_act]
  exact ⟨hs.store.trans ha, hs.tidy⟩

theorem confined_note (hs : s.Confined D X before) (e : BuildEvent) :
    Session.Confined D X before { s with events := s.events ++ [e] } :=
  ⟨hs.store, hs.tidy⟩

end Build

/-! ### Releases -/

namespace Studio

variable {studio : Studio σ} {name : String} {c : Cue}

theorem safe_synthesizer_neat (hneat : studio.Neat D) (hs : s.Confined D X before) (a : Asset) :
    Safe (fun s' : Session σ => s'.Confined D X before ∧ s'.world.store = s.world.store)
      (Synthesizer.Tidy D) (studio.synthesizer a) s := by
  have hstore := hneat.opening s.world
  refine safe_synthesizer ⟨hs, rfl⟩ hs.tidy hneat.opened ?_ fun hx ht => ⟨⟨ht.1.store, ?_⟩, ht.2⟩
  · rw [Build.after_act]
    exact ⟨⟨hstore.symm ▸ hs.store, hs.tidy⟩, hstore⟩
  · rintro _ ⟨⟩
    exact hx

variable {a : Asset}

/-- Speech that is made in a directory leaves the directory and touches nothing else. -/
theorem confined_synthesize (hneat : studio.Neat D) (hs : s.Confined D X before)
    (hX : X (Path.place a.speech)) (hfolder : s.world.store.Houses a.speech) :
    let t := after (do
      let opened ← studio.synthesizer a
      Build.act (opened.synthesize a.text a.voice a.speech)) s
    t.Confined D X before ∧ t.world.store.Houses a.speech := by
  have hopening := safe_synthesizer_neat hneat hs a
  refine after_bind (I := fun t : Session σ =>
    t.Confined D X before ∧ t.world.store.Houses a.speech) ?_ ?_
  · exact ⟨hopening.1.1, hopening.1.2 ▸ hfolder⟩
  · intro x t hx ht
    have htouched := hopening.2 hx a.text a.voice a.speech t.world ht.2
    refine ⟨Build.confined_act ht.1 (htouched.mono fun l hl => hl ▸ hX), ?_⟩
    rw [Build.after_act]
    exact ht.2.mono htouched.directory

/-- The directory for the speech is there once it has been made. -/
theorem confined_makeParent (hs : s.Confined D X before)
    (hspeech : Path.parent? a.speech = some folder) (hfolder : s.world.store.MakesOnly D folder) :
    (after (Build.act (Act.makeParent a.speech)) s).Confined D X before ∧
      ∀ {t}, Build.act (Act.makeParent a.speech) s = .ok () t → t.world.store.Houses a.speech := by
  constructor
  · refine Build.confined_act hs ?_
    rw [Act.after_makeParent_eq hspeech]
    exact .of_makeDirectories hfolder
  · intro t hmade
    obtain ⟨w, hw, rfl⟩ := Build.act_eq_ok hmade
    exact (Act.makeParent_eq_ok hw).2

/-- Where speech has been found or made, there is the directory for it. -/
theorem confined_speak (hneat : studio.Neat D) (hs : s.Confined D X before)
    (hX : X (Path.place a.speech)) (hspeech : Path.parent? a.speech = some folder)
    (hfolder : s.world.store.MakesOnly D folder) :
    (after (studio.speak a) s).Confined D X before ∧
      ∀ {origin t}, studio.speak a s = .ok origin t → t.world.store.Houses a.speech := by
  by_cases hthere : s.world.store.contains a.speech
  · have hpure : studio.speak a s = .ok .encoded s := by
      rw [speak, speakOn, Build.act_store_bind, if_pos hthere]
      rfl
    rw [after_of_ok hpure, hpure]
    refine ⟨hs, ?_⟩
    rintro _ _ ⟨⟩
    obtain ⟨l, hl, _⟩ := Store.contains_iff.mp hthere
    exact fun parent hparent => Store.furnished_of_locate hparent hl
  · let s₁ : Session σ := { s with events := s.events ++ [.synthesizing a] }
    have hspeak : studio.speak a s = (Build.act (Act.makeParent a.speech) >>= fun _ =>
        (do
          let opened ← studio.synthesizer a
          Build.act (opened.synthesize a.text a.voice a.speech)) >>= fun _ =>
        pure .synthesized) s₁ := by
      simp only [bind_assoc]
      rw [speak, speakOn, Build.act_store_bind, if_neg hthere, Build.note_bind]
    have hmade := confined_makeParent (s := s₁) (Build.confined_note hs _) hspeech hfolder
    rw [after, hspeak]
    cases hparent : Build.act (Act.makeParent a.speech) s₁ with
    | error e t =>
        rw [bind_of_error hparent]
        rw [after, hparent] at hmade
        refine ⟨hmade.1, ?_⟩
        rintro _ _ ⟨⟩
    | ok u t =>
        rw [bind_of_ok hparent]
        rw [after_of_ok hparent] at hmade
        have hspoken := after_bind (f := fun _ => (pure .synthesized : Build σ Origin))
          (I := fun t : Session σ => t.Confined D X before ∧ t.world.store.Houses a.speech)
          (confined_synthesize hneat hmade.1 hX (hmade.2 hparent)) fun _ ht => ht
        refine ⟨hspoken.1, ?_⟩
        intro origin s' hok
        rw [after_of_ok hok] at hspoken
        exact hspoken.2

theorem confined_produce (hneat : studio.Neat D) (hs : s.Confined D X before)
    (hX : X (Path.place a.speech))
    (hX' : ¬ s.world.store.contains a.encoded → X (Path.place a.encoded))
    (hspeech : Path.parent? a.speech = some folder)
    (hencoded : Path.parent? a.encoded = some folder)
    (hfolder : s.world.store.MakesOnly D folder) :
    (after (studio.produce a) s).Confined D X before := by
  have hspoken := confined_speak hneat hs hX hspeech hfolder
  refine after_produce (fun _ ht => Build.confined_note ht _) (fun _ => Build.confined_note hs _)
    (fun _ => hspoken.1) (fun hmissing {_ t} ht htidied => ?_) fun {t u} ht hremove => ?_
  · have hhouses : t.world.store.Houses a.encoded := by
      rw [Store.Houses, hencoded, ← hspeech]
      exact hspoken.2 ht
    have hencoding := hneat.encoding a.speech a.encoded studio.options.format t.world hhouses
    exact Build.confined_act htidied (hencoding.mono fun l hl => hl ▸ hX' hmissing)
  · exact ⟨ht.store.trans (.of_remove hremove hX), ht.tidy⟩

/-- Asset and document of a timeline lie in the two folders of a studio. -/
theorem parent?_asset (o : StudioOptions) {name : String} {c : Cue}
    (hname : Timeline.checkName name = .ok ()) (hvoice : Cue.isVoice c.voice) :
    Path.parent? (Asset.ofCue o name c).speech = some (Path.join o.speechRoot name) ∧
      Path.parent? (Asset.ofCue o name c).encoded = some (Path.join o.speechRoot name) := by
  have hfile : ∀ {extension : String}, extension.toList ≠ [] → '.' ∉ extension.toList →
      '/' ∉ extension.toList → Path.IsName (Asset.named (Asset.base c) extension) := by
    intro extension hne hdot hslash
    exact Path.isName_of_dot (Asset.toList_named _ _) hne hdot (Asset.not_mem_named hvoice hslash)
  obtain ⟨hne, hdot, hslash⟩ := o.format.extension_plain
  rw [Asset.speech_ofCue, Asset.encoded_ofCue]
  have hfolder := Timeline.isName_of_checkName hname
  exact ⟨Path.parent?_join_join _ hfolder (hfile (by decide) (by decide) (by decide)),
    Path.parent?_join_join _ hfolder (hfile hne hdot hslash)⟩

theorem parent?_documentPath (o : StudioOptions) {name : String} (hname : '/' ∉ name.toList) :
    Path.parent? (documentPath o name) = some o.outputFolder :=
  Path.parent?_join_join _ ⟨by decide, by decide, by decide⟩
    (Path.isName_of_dot (toList_document name) (by decide) (by decide) (by simp [hname]))

theorem parent?_bundlePath (o : StudioOptions) {name : String} (hname : '/' ∉ name.toList) :
    Path.parent? (bundlePath o name) = some o.outputFolder :=
  Path.parent?_join_join _ ⟨by decide, by decide, by decide⟩
    (Path.isName_of_dot (toList_bundle name) (by decide) (by decide) (by simp [hname]))

theorem parent?_cataloguePath (o : StudioOptions) :
    Path.parent? (cataloguePath o) = some o.outputFolder := by
  have hname : '/' ∉ "registry".toList := by decide
  rw [cataloguePath_eq, parent?_documentPath o hname]

/-- Whatever has been touched, the folders for a timeline are made at some locations only. -/
def OpensOnly (o : StudioOptions) (D X : Location → Prop) (before : Store) (name : String) :
    Prop :=
  ∀ {t : Store}, before.Confined D X t →
    t.MakesOnly D (Path.join o.speechRoot name) ∧ t.MakesOnly D o.outputFolder

variable {t : Timeline}

/-- Production may touch some locations: those of the speech, and of what is not encoded yet. -/
structure Permits (o : StudioOptions) (X : Location → Prop) (before : Store) (t : Timeline) :
    Prop where
  speech : ∀ i ∈ t.items, ∀ c ∈ i.speech, X (Path.place (Asset.ofCue o t.name c).speech)
  encoded : ∀ i ∈ t.items, ∀ c ∈ i.speech, ¬ before.HasAsset o t.name c →
    X (Path.place (Asset.ofCue o t.name c).encoded)

theorem permits_of_kept {o : StudioOptions} (ht : t.check = .ok ())
    (hX : ∀ l file, l.isAsset → l = .kept o.publicRoot t.name file → X l) :
    Permits o X before t where
  speech _ hi c hc := hX _ _ (.inl (Asset.ending_speech _ t.name c))
    (Asset.place_speech (Timeline.check_eq_ok.mp ht).1 (Timeline.isVoice_of_check ht hi hc))
  encoded _ hi c hc _ := hX _ _ (.inr ⟨_, Asset.ending_encoded _ t.name c⟩)
    (Asset.place_encoded (Timeline.check_eq_ok.mp ht).1 (Timeline.isVoice_of_check ht hi hc))

theorem permits_of_outputs {o : StudioOptions} (ht : t.check = .ok ())
    (hX : ∀ l, o.outputs t.name l → X l) :
    Permits o X before t ∧ X (Path.place (documentPath o t.name)) ∧
      X (Path.place (bundlePath o t.name)) := by
  refine ⟨permits_of_kept ht ?_, hX _ (.inr (.inl rfl)), hX _ (.inr (.inr rfl))⟩
  intro l file hasset hkept
  exact hX l (.inl ⟨hasset, file, hkept⟩)

theorem confined_enrich (hneat : studio.Neat D)
    (hopens : OpensOnly studio.options D X before t.name)
    (hX : Permits studio.options X before t)
    (ht : t.check = .ok ()) (hs : s.Confined D X before) :
    (after (studio.enrich t) s).Confined D X before := by
  refine after_enrich (fun i hi c hc {s} hs => ?_) hs
  obtain ⟨hspeech, hencoded⟩ := parent?_asset studio.options (Timeline.check_eq_ok.mp ht).1
    (Timeline.isVoice_of_check ht hi hc)
  -- What is missing now was missing before, unless it may be touched.
  have hmissing : ¬ s.world.store.HasAsset studio.options t.name c →
      X (Path.place (Asset.ofCue studio.options t.name c).encoded) := by
    intro hnow
    by_contra hkept
    refine hkept (hX.encoded i hi c hc fun hbefore => hnow ?_)
    exact hs.store.contains hkept hbefore
  exact confined_produce hneat hs (hX.speech i hi c hc) hmissing hspeech hencoded
    (hopens hs.store).1

/-- A release touches what production may touch and its two documents, and nothing else. -/
theorem confined_release (hneat : studio.Neat D)
    (hopens : OpensOnly studio.options D X before t.name)
    (hX : t.check = .ok () → Permits studio.options X before t ∧
      X (Path.place (documentPath studio.options t.name)) ∧
      X (Path.place (bundlePath studio.options t.name)))
    (hs : s.Confined D X before) : (after (studio.release t) s).Confined D X before := by
  refine after_release (I := Session.Confined D X before) (fun _ ht => Build.confined_note ht _)
    (fun hcheck => confined_enrich hneat hopens (hX hcheck).1 hcheck hs)
    (fun hcheck {path _ _} hpath hu => ?_) hs
  obtain ⟨-, hdocument, hbundle⟩ := hX hcheck
  have hname := not_mem_of_checkName (Timeline.check_eq_ok.mp hcheck).1
  have hplace : Path.parent? path = some studio.options.outputFolder ∧ X (Path.place path) := by
    rcases hpath with rfl | rfl
    · exact ⟨parent?_documentPath _ hname, hdocument⟩
    · exact ⟨parent?_bundlePath _ hname, hbundle⟩
  exact Build.confined_act hu
    (Act.confined_writeText hplace.1 (hopens hu.store).2 hplace.2)

end Studio

end Storyboard
