import Mathlib
import Storyboard.Proofs.Speech.Invariant
import Storyboard.Proofs.Speech.Naming
import Storyboard.Proofs.Speech.Repetition

/-!
Where assets come from. That a file is there is all that a build knows of it, so a cue may be given
whatever stands where its asset is kept. As long as the parties to the builds leave nothing there
but what they were asked for, even when they fail, every asset is one of its cue; one failure that
leaves something else is enough, and the next build is content with it.
-/

namespace Storyboard

/-! ### Genuine files -/

/-- What counts as speech of a text in a voice, and what as some speech in a format. -/
structure Provenance where
  spoken : (text voice : String) → ByteArray → Prop
  delivered : SpeechFormat → (speech encoded : ByteArray) → Prop

namespace Provenance

variable (g : Provenance)

/-- Whether a content is speech that goes by the name of its asset. -/
def IsSpeech (base : String) (content : ByteArray) : Prop :=
  ∃ text voice, AssetName.basename text voice = base ∧ g.spoken text voice content

/-- Whether a content is such speech in a format. -/
def IsEncoded (base : String) (format : SpeechFormat) (content : ByteArray) : Prop :=
  ∃ speech, g.IsSpeech base speech ∧ g.delivered format speech content

end Provenance

/-- Files among which everything that is kept as speech, encoded or not, is what its name says. -/
structure Store.Genuine (g : Provenance) (root : String) (s : Store) : Prop where
  speech : ∀ {name base content isProgram},
    s.find? (.kept root name (Asset.named base Asset.speechExtension)) =
      some (.file content isProgram) → g.IsSpeech base content
  encoded : ∀ {name base content isProgram} {format : SpeechFormat},
    s.find? (.kept root name (Asset.named base format.extension)) =
      some (.file content isProgram) → g.IsEncoded base format content

/-- The files are as they were, but for directories that were made, or a file with some content has
come to stand at a path. -/
def Store.Yields (path : String) (P : ByteArray → Prop) (s s' : Store) : Prop :=
  ∃ t, s.AddsDirectories t ∧ (s' = t ∨ t.find? (Path.place path) ≠ some .directory ∧
    t.ChangesAt (Path.place path) s' ∧
    ∃ content isProgram, s'.find? (Path.place path) = some (.file content isProgram) ∧ P content)

namespace Store

variable {g : Provenance} {root : String} {s s' : Store} {l : Location}

namespace Genuine

/-- Fewer files are no less genuine. -/
theorem mono (h : s.Genuine g root)
    (hfiles : ∀ {l content isProgram}, s'.find? l = some (.file content isProgram) →
      s.find? l = some (.file content isProgram)) : s'.Genuine g root :=
  ⟨fun hl => h.speech (hfiles hl), fun hl => h.encoded (hfiles hl)⟩

theorem of_addsDirectories (h : s.Genuine g root) (hadds : s.AddsDirectories s') :
    s'.Genuine g root :=
  h.mono fun hl => (hadds.added hl).resolve_right fun hdirectory => by cases hdirectory

theorem of_remove (h : s.Genuine g root) {path : String} (hremove : s.remove path = .ok s') :
    s'.Genuine g root := by
  obtain ⟨_, _, _, rfl⟩ := remove_eq_ok hremove
  refine h.mono fun {m _ _} hm => ?_
  unfold find? at hm ⊢
  cases hfixed : m.fixed? with
  | some n => simpa only [hfixed] using hm
  | none =>
      rw [hfixed] at hm
      have hfilter := lookup_filter s.entries (fun place => !(place == Path.place path)) m
      change lookup (s.entries.filter fun e => !(e.1 == Path.place path)) m = _ at hm
      rw [hfilter] at hm
      exact (Option.ite_none_right_eq_some.mp hm).2

theorem of_changesAt (h : s.Genuine g root) (hchange : s.ChangesAt l s')
    (hspeech : ∀ {name base content isProgram},
      l = .kept root name (Asset.named base Asset.speechExtension) →
      s'.find? l = some (.file content isProgram) → g.IsSpeech base content)
    (hencoded : ∀ {name base content isProgram} {format : SpeechFormat},
      l = .kept root name (Asset.named base format.extension) →
      s'.find? l = some (.file content isProgram) → g.IsEncoded base format content) :
    s'.Genuine g root where
  speech {name base content isProgram} hfile := by
    by_cases hl : l = .kept root name (Asset.named base Asset.speechExtension)
    · exact hspeech hl (hl ▸ hfile)
    · rw [hchange.find?_eq (Ne.symm hl)] at hfile
      exact h.speech hfile
  encoded {name base content isProgram format} hfile := by
    by_cases hl : l = .kept root name (Asset.named base format.extension)
    · exact hencoded hl (hl ▸ hfile)
    · rw [hchange.find?_eq (Ne.symm hl)] at hfile
      exact h.encoded hfile

theorem of_not_isAsset (h : s.Genuine g root) (hchange : s.ChangesAt l s') (hl : ¬ l.isAsset) :
    s'.Genuine g root := by
  have hending : ∀ {name base extension : String}, '.' ∉ extension.toList →
      (Location.kept root name (Asset.named base extension)).ending = extension.toList := by
    intro name base extension hdot
    have hconcat : Location.kept root name (Asset.named base extension) =
        (Path.place root ++ ["speech", name]) ++ [Asset.named base extension] := by
      simp [Location.kept]
    rw [hconcat, Location.ending_concat _ (Asset.toList_named _ _) hdot]
  refine h.of_changesAt hchange (fun hspeech _ => ?_) fun {_ _ _ _ format} hencoded _ => ?_
  · exact absurd (.inl (hspeech ▸ hending (by decide))) hl
  · exact absurd (.inr ⟨format, hencoded ▸ hending format.extension_plain.2.1⟩) hl

end Genuine

namespace Yields

variable {path : String} {P : ByteArray → Prop}

protected theorem refl : s.Yields path P s :=
  ⟨s, .refl s, .inl rfl⟩

theorem of_write {content : ByteArray} (h : s.write path content = .ok s') (hP : P content) :
    s.Yields path P s' := by
  obtain ⟨l, hl, hwrite⟩ := write_eq_ok.mp h
  obtain rfl := place_of_steps (locateNew_eq_ok hl).1
  refine ⟨s, .refl s, ?_⟩
  obtain ⟨isProgram, hfile⟩ | ⟨hsame, _⟩ := find?_of_writeAt hwrite
  · exact .inr ⟨find?_ne_directory_of_writeAt hwrite, changesAt_writeAt hwrite, content, isProgram,
      hfile, hP⟩
  · exact .inl hsame

theorem keeps (h : s.Yields path P s') (hplace : (Path.place path).isAsset) :
    s.Keeps (fun _ => True) s' := by
  obtain ⟨t, hadds, rfl | ⟨hdir, hchange, content, isProgram, hfile, _⟩⟩ := h
  · exact .of_addsDirectories hadds
  · refine .trans (.of_addsDirectories hadds) (.of_changesAt hchange trivial
      (Location.isPlace_of_isAsset hplace) hdir (.inr ?_))
    rw [hfile]
    rfl

/-- A genuine file at the path leaves the files genuine. -/
theorem genuine (h : s.Yields path P s') (hs : s.Genuine g root)
    (hspeech : ∀ {name base content},
      Path.place path = .kept root name (Asset.named base Asset.speechExtension) →
      P content → g.IsSpeech base content)
    (hencoded : ∀ {name base content} {format : SpeechFormat},
      Path.place path = .kept root name (Asset.named base format.extension) →
      P content → g.IsEncoded base format content) : s'.Genuine g root := by
  obtain ⟨t, hadds, rfl | ⟨_, hchange, content, isProgram, hfile, hcontent⟩⟩ := h
  · exact hs.of_addsDirectories hadds
  · have hsame : ∀ {other isProgram'},
        s'.find? (Path.place path) = some (.file other isProgram') → other = content := by
      intro other isProgram' hother
      rw [hfile] at hother
      cases hother
      rfl
    exact (hs.of_addsDirectories hadds).of_changesAt hchange
      (fun hplace hother => hspeech hplace (hsame hother ▸ hcontent))
      (fun hplace hother => hencoded hplace (hsame hother ▸ hcontent))

end Yields

end Store

/-! ### Clean parties -/

/-- Whoever speaks leaves no file behind but speech of the text in the voice, even in failing. -/
def Synthesizer.Clean {σ : Type} (g : Provenance) (x : Synthesizer σ) : Prop :=
  ∀ (text voice speech : String) (w : World σ),
    w.store.Yields speech (g.spoken text voice) (after (x.synthesize text voice speech) w).store

/-- No party leaves a file behind but the one that it was asked for, whether it succeeds or fails;
what is encoded is the file that stands where the speech is. -/
structure Studio.Clean {σ : Type} (g : Provenance) (studio : Studio σ) : Prop where
  available : ∀ w, (after studio.encoder.available w).store = w.store
  opening : ∀ w, (after studio.openSynthesizer w).store = w.store
  opened : ∀ {w w' : World σ} {x : Synthesizer σ},
    studio.openSynthesizer w = .ok x w' → x.Clean g
  encoding : ∀ (speech target : String) (format : SpeechFormat) (w : World σ),
    w.store.Yields target
      (fun encoded => ∃ content isProgram,
        w.store.find? (Path.place speech) = some (.file content isProgram) ∧
          g.delivered format content encoded)
      (after (studio.encoder.encode speech target format) w).store

/-- The asset of a cue, for which something is there. -/
def Store.Serves (s : Store) (o : StudioOptions) (a : Asset) : Prop :=
  ∃ name c, Timeline.checkName name = .ok () ∧ Cue.isVoice c.voice ∧ a = Asset.ofCue o name c ∧
    s.HasAsset o name c

theorem Store.Serves.keeps {s s' : Store} {o : StudioOptions} {a : Asset} (h : s.Serves o a)
    (hkeeps : s.Keeps (fun _ => True) s') : s'.Serves o a := by
  obtain ⟨name, c, hname, hvoice, rfl, hasset⟩ := h
  exact ⟨name, c, hname, hvoice, rfl, hkeeps.hasAsset hasset⟩

/-- A session with genuine files and a clean synthesizer, if any, in which cues were found only
where something is there. -/
structure Session.Genuine {σ : Type} (g : Provenance) (o : StudioOptions) (s : Session σ) :
    Prop where
  store : s.world.store.Genuine g o.publicRoot
  synthesizer : ∀ x ∈ s.synthesizer, x.Clean g
  cached : ∀ a, BuildEvent.cached a ∈ s.events → s.world.store.Serves o a

variable {σ α : Type} {g : Provenance} {root : String} {o : StudioOptions} {s : Session σ}

theorem Session.genuine_start {w : World σ} (h : w.store.Genuine g o.publicRoot) :
    (Session.start w).Genuine g o :=
  ⟨h, nofun, nofun⟩

/-! ### Single acts -/

/-- What a party or the build itself does to the files without harm. -/
def Store.Advances (g : Provenance) (root : String) (s s' : Store) : Prop :=
  s.Keeps (fun _ => True) s' ∧ s'.Genuine g root

namespace Act

variable {a : Act σ α} {w : World σ} {path text : String}

theorem after_makeParent : w.store.AddsDirectories (after (makeParent path) w).store := by
  cases hparent : Path.parent? path with
  | none =>
      rw [makeParent_of_none hparent]
      exact .refl _
  | some parent =>
      have hadds := Store.addsDirectories_makeDirectories w.store parent
      rw [after, makeParent_eq hparent]
      generalize w.store.makeDirectories parent = made at hadds
      obtain ⟨_ | _, made⟩ := made
      all_goals exact hadds

theorem advances_makeParent (h : w.store.Genuine g root) :
    w.store.Advances g root (after (makeParent path) w).store :=
  ⟨.of_addsDirectories after_makeParent, h.of_addsDirectories after_makeParent⟩

/-- A document is no asset. -/
theorem advances_writeText (h : w.store.Genuine g root)
    (hending : (Path.place path).ending = "json".toList ∨
      (Path.place path).ending = "js".toList) :
    w.store.Advances g root (after (writeText path text) w).store := by
  have hscript : Script.isPlace (Path.place path) = false := by
    unfold Script.isPlace
    obtain h | h := hending
    all_goals
      rw [h]
      decide
  refine after_writeText (advances_makeParent h) fun {s s'} hmade hwritten => ?_
  obtain ⟨l, hl, hwrite⟩ := Store.write_eq_ok.mp hwritten
  obtain rfl := Store.place_of_steps (Store.locateNew_eq_ok hl).1
  exact ⟨hmade.1.trans (.of_writeAt hwrite trivial hscript),
    hmade.2.of_not_isAsset (Store.changesAt_writeAt hwrite) (Studio.not_isAsset_of_ending hending)⟩

end Act

namespace Build

/-- A build that leaves a session genuine, whether it succeeds or fails. -/
abbrev Sound (g : Provenance) (o : StudioOptions) (b : Build σ α) (s : Session σ) : Prop :=
  Safe (Session.Genuine g o) (fun _ => True) b s

theorem sound_of_after {b : Build σ α} (h : (after b s).Genuine g o) : b.Sound g o s :=
  ⟨h, fun _ => trivial⟩

theorem genuine_act {a : Act σ α} (hs : s.Genuine g o)
    (ha : s.world.store.Advances g o.publicRoot (after a s.world).store) :
    (after (act a) s).Genuine g o := by
  rw [after_act]
  exact ⟨ha.2, hs.synthesizer, fun b hb => (hs.cached b hb).keeps ha.1⟩

theorem genuine_note {e : BuildEvent} (he : ∀ a, e = .cached a → s.world.store.Serves o a)
    (hs : s.Genuine g o) : Session.Genuine g o { s with events := s.events ++ [e] } := by
  refine ⟨hs.store, hs.synthesizer, fun a ha => ?_⟩
  obtain ha | ha := List.mem_append.mp ha
  · exact hs.cached a ha
  · exact he a (List.mem_singleton.mp ha).symm

/-- Whatever else happens than that an asset is found can be noted. -/
theorem genuine_note_of_ne {e : BuildEvent} (he : ∀ a, e ≠ .cached a) (hs : s.Genuine g o) :
    Session.Genuine g o { s with events := s.events ++ [e] } :=
  genuine_note (fun a ha => absurd ha (he a)) hs

end Build

/-! ### Production -/

namespace Asset

variable {name : String} {c : Cue} {t t' : Store}

/-- Speech comes to stand where speech of its text and voice is kept. -/
theorem advances_speech (hname : Timeline.checkName name = .ok ()) (hvoice : Cue.isVoice c.voice)
    (ht : t.Genuine g o.publicRoot)
    (h : t.Yields (ofCue o name c).speech (g.spoken (Pronunciation.apply c.text) c.voice) t') :
    t.Advances g o.publicRoot t' := by
  refine ⟨h.keeps (.inl (ending_speech _ _ _)), h.genuine ht ?_ ?_⟩
  · intro other base content hplace hcontent
    rw [place_speech hname hvoice] at hplace
    obtain ⟨rfl, -⟩ := kept_injective (by decide) (by decide) hplace
    exact ⟨_, _, rfl, hcontent⟩
  -- By its extension, speech is no encoded speech.
  · intro other base content format hplace _
    rw [place_speech hname hvoice] at hplace
    obtain ⟨-, hextension⟩ := kept_injective (by decide) format.extension_plain.2.1 hplace
    cases format <;> exact absurd hextension (by decide)

/-- Speech that is encoded has been kept for a text and a voice with the same asset. -/
theorem advances_encoded (hname : Timeline.checkName name = .ok ()) (hvoice : Cue.isVoice c.voice)
    (ht : t.Genuine g o.publicRoot)
    (h : t.Yields (ofCue o name c).encoded (fun encoded => ∃ content isProgram,
      t.find? (Path.place (ofCue o name c).speech) = some (.file content isProgram) ∧
        g.delivered o.format content encoded) t') :
    t.Advances g o.publicRoot t' := by
  have hdot : ∀ format : SpeechFormat, '.' ∉ format.extension.toList :=
    fun format => format.extension_plain.2.1
  refine ⟨h.keeps (.inr ⟨_, ending_encoded _ _ _⟩), h.genuine ht ?_ ?_⟩
  · intro other base content hplace _
    rw [place_encoded hname hvoice] at hplace
    obtain ⟨-, hextension⟩ := kept_injective (hdot _) (by decide) hplace
    cases hformat : o.format with
    | opus | vorbis =>
        rw [hformat] at hextension
        exact absurd hextension (by decide)
  · rintro other base content format hplace ⟨speech, isProgram, hspeech, hdelivered⟩
    rw [place_encoded hname hvoice] at hplace
    obtain ⟨rfl, hextension⟩ := kept_injective (hdot _) (hdot _) hplace
    obtain rfl := SpeechFormat.extension_injective hextension
    rw [place_speech hname hvoice] at hspeech
    exact ⟨speech, ht.speech hspeech, hdelivered⟩

end Asset

namespace Studio

variable {studio : Studio σ} {name : String} {c : Cue}

theorem safe_synthesizer_clean (hstudio : studio.Clean g) {a : Asset} (hs : s.Genuine g o) :
    Safe (Session.Genuine g o) (Synthesizer.Clean g) (studio.synthesizer a) s := by
  refine safe_synthesizer hs hs.synthesizer hstudio.opened ?_ fun {x t} hclean ht => ?_
  · refine Build.genuine_act hs ?_
    rw [hstudio.opening]
    exact ⟨.refl _ _, hs.store⟩
  -- The synthesizer is kept for the session, so what is known of it must be kept as well.
  · have hkept : Session.Genuine g o { t with
        synthesizer := some x
        opened := t.opened + 1 } := by
      refine ⟨ht.store, ?_, ht.cached⟩
      rintro _ ⟨⟩
      exact hclean
    exact Build.genuine_note_of_ne (fun _ h => by cases h) hkept

theorem sound_speak (hstudio : studio.Clean g) (hname : Timeline.checkName name = .ok ())
    (hvoice : Cue.isVoice c.voice) (hs : s.Genuine g studio.options) :
    (studio.speak (Asset.ofCue studio.options name c)).Sound g studio.options s := by
  refine Build.sound_of_after (after_speak Build.genuine_note_of_ne (fun ht => ?_)
    (fun _ {t} ht => safe_synthesizer_clean hstudio ht) (fun hclean ht => ?_) hs)
  · exact Build.genuine_act ht (Act.advances_makeParent ht.store)
  · exact Build.genuine_act ht (Asset.advances_speech hname hvoice ht.store (hclean _ _ _ _))

theorem sound_produce (hstudio : studio.Clean g) (hname : Timeline.checkName name = .ok ())
    (hvoice : Cue.isVoice c.voice) (hs : s.Genuine g studio.options) :
    (studio.produce (Asset.ofCue studio.options name c)).Sound g studio.options s := by
  have hending := Asset.ending_speech studio.options name c
  refine Build.sound_of_after (after_produce Build.genuine_note_of_ne (fun hthere => ?_)
    (fun _ => (sound_speak hstudio hname hvoice hs).1) (fun _ {_ t} _ ht => ?_)
    fun {t u} ht hremove => ?_)
  · refine Build.genuine_note (fun a ha => ?_) hs
    cases ha
    exact ⟨name, c, hname, hvoice, rfl, hthere⟩
  · exact Build.genuine_act ht
      (Asset.advances_encoded hname hvoice ht.store (hstudio.encoding _ _ _ _))
  · exact Build.genuine_act (a := Act.setStore u) ht
      ⟨.of_remove hremove trivial hending, ht.store.of_remove hremove⟩

theorem sound_release (hstudio : studio.Clean g) {t : Timeline}
    (hs : s.Genuine g studio.options) :
    (studio.release t).Sound g studio.options s := by
  refine Build.sound_of_after (after_release Build.genuine_note_of_ne (fun hcheck => ?_)
    (fun _ {path text u} hpath hu => ?_) hs)
  · have hname := (Timeline.check_eq_ok.mp hcheck).1
    refine after_enrich (fun i hi c hc {u} hu => ?_) hs
    exact (sound_produce hstudio hname (Timeline.isVoice_of_check hcheck hi hc) hu).1
  · refine Build.genuine_act hu (Act.advances_writeText hu.store ?_)
    rcases hpath with rfl | rfl
    · exact .inl (ending_documentPath _ _)
    · exact .inr (ending_bundlePath _ _)

/-- Whatever comes of a run, the files stay genuine. -/
theorem sound_releaseAll (hstudio : studio.Clean g) (hs : s.Genuine g studio.options) :
    studio.releaseAll.Sound g studio.options s := by
  refine Build.sound_of_after (after_releaseAll Build.genuine_note_of_ne
    (fun hu => (sound_release hstudio hu).1) ?_ fun {text u} hu => ?_)
  · refine Build.genuine_act hs ?_
    rw [hstudio.available]
    exact ⟨.refl _ _, hs.store⟩
  · exact Build.genuine_act hu
      (Act.advances_writeText hu.store (.inl (ending_documentPath _ "registry")))

end Studio

/-! ### Histories -/

/-- The files after some builds with one public root, below which there was nothing at first.
Between the builds, everything may change but what is kept of speech. -/
inductive History (g : Provenance) (root : String) : Store → Prop
  | start {s : Store} (empty : ∀ {l n}, s.find? (Path.place root ++ l) = some n → l = []) :
      History g root s
  | edit {s s' : Store} (h : History g root s)
      (same : ∀ name file, s'.find? (.kept root name file) = s.find? (.kept root name file)) :
      History g root s'
  | run {σ : Type} {studio : Studio σ} {w : World σ} (h : History g root w.store)
      (served : studio.options.publicRoot = root) (clean : studio.Clean g) :
      History g root (after studio.releaseAll (.start w)).world.store

theorem History.genuine {s : Store} (h : History g root s) : s.Genuine g root := by
  induction h with
  | @start s empty =>
      have hnone : ∀ {name file n}, s.find? (.kept root name file) ≠ some n :=
        fun hfile => List.cons_ne_nil _ _ (empty hfile)
      exact ⟨fun hfile => absurd hfile hnone, fun hfile => absurd hfile hnone⟩
  | edit _ same ih =>
      exact ⟨fun hfile => ih.speech (same _ _ ▸ hfile), fun hfile => ih.encoded (same _ _ ▸ hfile)⟩
  | run _ served clean ih =>
      subst served
      exact (Studio.sound_releaseAll clean (Session.genuine_start ih)).1.store

namespace Studio

/-- Assets are genuine after any history of clean builds, however they ended: what is kept as speech
was spoken for a text and a voice that go by its name, and what is kept as encoded speech was
delivered from such speech. In particular, this holds of every asset that a build has found. -/
theorem releaseAll_provenance {studio : Studio σ} {w : World σ} (hclean : studio.Clean g)
    (hhistory : History g studio.options.publicRoot w.store)
    (hrun : after studio.releaseAll (.start w) = s) :
    s.world.store.Genuine g studio.options.publicRoot ∧
      ∀ a, .cached a ∈ s.events → s.world.store.contains a.encoded ∧
        ∀ {content isProgram}, s.world.store.node a.encoded = .ok (.file content isProgram) →
          g.IsEncoded (AssetName.basename a.text a.voice) studio.options.format content := by
  subst hrun
  have hgenuine := (sound_releaseAll hclean (Session.genuine_start hhistory.genuine)).1
  refine ⟨hgenuine.store, fun a ha => ?_⟩
  obtain ⟨name, c, hname, hvoice, hcue, hasset⟩ := hgenuine.cached a ha
  rw [hcue]
  refine ⟨hasset, fun {content isProgram} hnode => ?_⟩
  obtain ⟨l, hl, hfile⟩ := Store.node_eq_ok.mp hnode
  have hplace := Store.locate_eq_ok hl
  rw [Asset.place_encoded hname hvoice] at hplace
  rw [hplace] at hfile
  rw [Asset.basename_ofCue]
  exact hgenuine.store.encoded hfile

/-- A studio in which the speech of a text is the text itself, and encoding copies it. -/
def reciting : Studio Unit where
  options := ⟨"p", "t", .opus⟩
  openSynthesizer := pure
    ⟨fun text _ speech => Act.changing (.unwritten speech) (·.write speech text.toUTF8)⟩
  encoder := ⟨pure (), fun speech target _ => Act.changing (.unwritten target) fun s => do
    match ← s.node speech with
    | .file content _ => s.write target content
    | _ => .error .missing⟩

/-- Speech is a text, and encoded speech is speech. -/
def recitation : Provenance :=
  ⟨fun text _ content => content = text.toUTF8, fun _ speech encoded => encoded = speech⟩

theorem after_recited (speech target : String) (format : SpeechFormat) (w : World Unit) :
    (after (reciting.encoder.encode speech target format) w).store = w.store ∨
      ∃ content isProgram, w.store.find? (Path.place speech) = some (.file content isProgram) ∧
        w.store.write target content =
          .ok (after (reciting.encoder.encode speech target format) w).store := by
  obtain hsame | hwrite := Act.after_changing (.unwritten target) (fun s => do
    match ← s.node speech with
    | .file content _ => s.write target content
    | _ => .error .missing) w
  · exact .inl hsame
  · cases hnode : w.store.node speech with
    | error cause =>
        rw [hnode] at hwrite
        cases hwrite
    | ok n =>
        obtain ⟨l, hl, hfile⟩ := Store.node_eq_ok.mp hnode
        obtain rfl := Store.locate_eq_ok hl
        rw [hnode] at hwrite
        cases n with
        | directory | device d => cases hwrite
        | file content isProgram => exact .inr ⟨content, isProgram, hfile, hwrite⟩

theorem clean_reciting : reciting.Clean recitation where
  available _ := rfl
  opening _ := rfl
  opened h := by
    obtain ⟨rfl, -⟩ := pure_eq_ok h
    intro text voice speech w
    obtain hsame | hwrite := Act.after_changing (.unwritten speech) (·.write speech text.toUTF8) w
    · exact hsame ▸ .refl
    · exact .of_write hwrite rfl
  encoding speech target format w := by
    obtain hsame | ⟨content, isProgram, hfile, hwrite⟩ := after_recited speech target format w
    · exact hsame ▸ .refl
    · exact .of_write hwrite ⟨content, isProgram, hfile, rfl⟩

theorem find?_oneScript (l : Location) : oneScript.find? (Path.place "p" ++ l) = none := by
  have hplace : Path.place "p" = ["p"] := by decide +kernel
  rw [hplace]
  rfl

/-- The second of two recitations. -/
def recitedAgain : Session Unit :=
  after reciting.releaseAll (.start (after reciting.releaseAll (.start ⟨oneScript, ()⟩)).world)

theorem releaseAll_provenance_recited :
    ∃ a text voice, BuildEvent.cached a ∈ recitedAgain.events ∧
      AssetName.basename text voice = AssetName.basename a.text a.voice ∧
      recitedAgain.world.store.node a.encoded = .ok (.file text.toUTF8 false) := by
  let a := Asset.ofCue reciting.options "timeline" ⟨"hi", "af_heart", .inBegin, .zero⟩
  have hrun : (recitedAgain.events.filterMap fun e =>
      match e with
      | .cached a => some a
      | _ => none, recitedAgain.world.store.node a.encoded) =
        ([a], .ok (.file "hi".toUTF8 false)) := by
    decide +kernel
  obtain ⟨hfound, hnode⟩ := Prod.mk.inj hrun
  have hcached : BuildEvent.cached a ∈ recitedAgain.events := by
    obtain ⟨e, he, hea⟩ := List.mem_filterMap.mp (hfound ▸ List.mem_singleton_self a)
    split at hea
    · next b =>
      cases hea
      exact he
    · cases hea
  have hhistory : History recitation reciting.options.publicRoot
      (after reciting.releaseAll (.start ⟨oneScript, ()⟩)).world.store :=
    .run (.start fun h => nomatch (find?_oneScript _).symm.trans h) rfl clean_reciting
  obtain ⟨_, hassets⟩ := releaseAll_provenance clean_reciting hhistory rfl
  obtain ⟨speech, ⟨text, voice, hbase, rfl⟩, hdelivered⟩ := (hassets a hcached).2 hnode
  exact ⟨a, text, voice, hcached, hbase, hdelivered ▸ hnode⟩

/-- A studio that recites, but whose encoder fails, leaving an empty file. -/
def botching : Studio Unit :=
  { reciting with
    encoder := ⟨pure (), fun speech target _ => do
      Act.changing (.unwritten target) (·.write target .empty)
      throw (.encoderFailed (.exited 1) speech "")⟩ }

/-- One failure is enough: from a public root below which there is nothing, two runs of a studio
whose encoder never succeeds. The first one fails; the second one finds the asset that its cue never
had, and succeeds. -/
theorem releaseAll_provenance_fails :
    (∀ l, oneScript.find? (Path.place botching.options.publicRoot ++ l) = none) ∧
      (∀ speech target format w w', botching.encoder.encode speech target format w ≠ .ok () w') ∧
      ∃ report s report' s', botching.releaseAll (.start ⟨oneScript, ()⟩) = .ok report s ∧
        report.built = [] ∧ botching.releaseAll (.start s.world) = .ok report' s' ∧
        report'.failures = [] ∧ report'.built.map (·.counts) = [⟨1, 1, 0, 0⟩] := by
  refine ⟨find?_oneScript, fun speech target format w w' h => ?_, ?_⟩
  · obtain ⟨_, _, _, h⟩ := bind_eq_ok h
    cases h
  · have hfirst : ((botching.releaseAll).run' (.start ⟨oneScript, ()⟩)).map (·.built.length) =
        some 0 := by
      decide +kernel
    have hsecond : ((botching.releaseAll).run'
        (.start (after botching.releaseAll (.start ⟨oneScript, ()⟩)).world)).map
          (fun report => (report.failures.isEmpty, report.built.map (·.counts))) =
        some (true, [⟨1, 1, 0, 0⟩]) := by
      decide +kernel
    obtain ⟨report, hreport, hbuilt⟩ := Option.map_eq_some_iff.mp hfirst
    obtain ⟨s, hs⟩ := exists_of_run'_eq_some hreport
    rw [after, hs] at hsecond
    obtain ⟨report', hreport', hresult⟩ := Option.map_eq_some_iff.mp hsecond
    obtain ⟨s', hs'⟩ := exists_of_run'_eq_some hreport'
    obtain ⟨hfailures, hcounts⟩ := Prod.mk.inj hresult
    exact ⟨report, s, report', s', hs, List.length_eq_zero_iff.mp hbuilt, hs',
      List.isEmpty_iff.mp hfailures, hcounts⟩

end Studio

end Storyboard
