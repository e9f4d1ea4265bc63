import Mathlib
import Storyboard.Proofs.Disk.Likeness
import Storyboard.Proofs.Speech.Footprint

/-!
Two runs that agree. Where the parties do what their arguments and the files at their paths tell
them, and nothing else, a timeline is released in two runs with one result, or fails in both for one
reason, as long as the runs hold the same where the timeline is released.
-/

namespace Storyboard

/-! ### Agreement -/

section Agreement

variable {ε σ α β : Type} {R Q Q' : σ → σ → Prop} {x : EStateM ε σ α} {s t : σ}

/-- Run in two states, a program gives one result or fails with one error. -/
def Agree (R Q : σ → σ → Prop) (x : EStateM ε σ α) (s t : σ) : Prop :=
  (∃ a s' t', x s = .ok a s' ∧ x t = .ok a t' ∧ Q s' t') ∨
    ∃ e s' t', x s = .error e s' ∧ x t = .error e t' ∧ R s' t'

namespace Agree

protected theorem pure {a : α} (h : Q s t) : Agree R Q (pure a : EStateM ε σ α) s t :=
  .inl ⟨a, s, t, rfl, rfl, h⟩

protected theorem bind (hx : Agree R Q x s t) {f : α → EStateM ε σ β}
    (hf : ∀ {a s' t'}, Q s' t' → Agree R Q' (f a) s' t') : Agree R Q' (x >>= f) s t := by
  rcases hx with ⟨a, s', t', hs, ht, hQ⟩ | ⟨e, s', t', hs, ht, hR⟩
  · unfold Agree
    rw [bind_of_ok hs, bind_of_ok ht]
    exact hf hQ
  · exact .inr ⟨e, s', t', bind_of_error hs f, bind_of_error ht f, hR⟩

protected theorem mapM {f : α → EStateM ε σ β} {as : List α}
    (hf : ∀ a ∈ as, ∀ {s t}, R s t → Agree R R (f a) s t) (h : R s t) :
    Agree R R (as.mapM f) s t := by
  induction as generalizing s t with
  | nil => exact .pure h
  | cons a as ih =>
      obtain ⟨ha, has⟩ := List.forall_mem_cons.mp hf
      rw [List.mapM_cons]
      exact (ha h).bind fun h => (ih has h).bind fun h => .pure h

theorem weaken {R' : σ → σ → Prop} (h : Agree R Q x s t) (hR : ∀ {s t}, R s t → R' s t)
    (hQ : ∀ {s t}, Q s t → Q' s t) : Agree R' Q' x s t := by
  rcases h with ⟨a, s', t', hs, ht, h⟩ | ⟨e, s', t', hs, ht, h⟩
  · exact .inl ⟨a, s', t', hs, ht, hQ h⟩
  · exact .inr ⟨e, s', t', hs, ht, hR h⟩

theorem of_ok (h : Agree R Q x s t) {a : α} {s' : σ} (hs : x s = .ok a s') :
    ∃ t', x t = .ok a t' ∧ Q s' t' := by
  rcases h with ⟨a', s'', t', hs', ht', hQ⟩ | ⟨e, s'', t', hs', _, _⟩
  · rw [hs] at hs'
    cases hs'
    exact ⟨t', ht', hQ⟩
  · rw [hs] at hs'
    cases hs'

theorem after (h : Agree R R x s t) : R (after x s) (after x t) := by
  rcases h with ⟨a, s', t', hs, ht, hR⟩ | ⟨e, s', t', hs, ht, hR⟩
  · rwa [after_of_ok hs, after_of_ok ht]
  · rwa [Storyboard.after, Storyboard.after, hs, ht]

end Agree

end Agreement

/-! ### Parties that follow a craft -/

/-- What the parties to a build do, told from what they are called with and from the nodes at their
paths: whether they succeed, and the node that they leave. -/
structure Craft where
  available : Except Error Unit
  opening : Except Error Unit
  speaking : (text voice speech : String) → Option Node → Except Error Unit × Option Node
  encoding : (speech target : String) → SpeechFormat → Option Node → Option Node →
    Except Error Unit × Option Node
  speaking_directory : ∀ text voice speech,
    (speaking text voice speech (some .directory)).2 = some .directory
  encoding_directory : ∀ speech target format source,
    (encoding speech target format source (some .directory)).2 = some .directory

variable {σ α : Type}

/-- How an act ends that leaves a world. -/
def Act.ended (outcome : Except Error Unit) (w : World σ) :
    EStateM.Result Error (World σ) Unit :=
  match outcome with
  | .ok () => .ok () w
  | .error e => .error e w

/-- An act ends as told, with the node as told at a location, and changes no other location. -/
def Act.Performs (a : Act σ Unit) (l : Location) (told : Except Error Unit × Option Node)
    (w : World σ) : Prop :=
  ∃ w', a w = ended told.1 w' ∧ Store.Sets l told.2 w.store w'.store

def Synthesizer.Follows (craft : Craft) (x : Synthesizer σ) : Prop :=
  ∀ (text voice speech : String) (w : World σ), w.store.Houses speech →
    Act.Performs (x.synthesize text voice speech) (Path.place speech)
      (craft.speaking text voice speech (w.store.find? (Path.place speech))) w

structure Studio.Follows (craft : Craft) (studio : Studio σ) : Prop where
  available : ∀ w, ∃ w', studio.encoder.available w = Act.ended craft.available w' ∧
    w'.store = w.store
  opening : ∀ w, ∃ w', w'.store = w.store ∧
    match craft.opening with
    | .ok () => ∃ x, studio.openSynthesizer w = .ok x w' ∧ x.Follows craft
    | .error e => studio.openSynthesizer w = .error e w'
  encoding : ∀ (speech target : String) (format : SpeechFormat) (w : World σ),
    w.store.Houses target → Act.Performs (studio.encoder.encode speech target format)
      (Path.place target) (craft.encoding speech target format
        (w.store.find? (Path.place speech)) (w.store.find? (Path.place target))) w

theorem Studio.Follows.available_eq_ok {craft : Craft} {studio : Studio σ} {w w' : World σ}
    (h : studio.Follows craft) (hw : studio.encoder.available w = .ok () w') :
    craft.available = .ok () ∧ w'.store = w.store := by
  obtain ⟨v, hv, hstore⟩ := h.available w
  rw [hw] at hv
  cases havailable : craft.available with
  | ok u =>
      rw [havailable] at hv
      cases hv
      exact ⟨rfl, hstore⟩
  | error e =>
      rw [havailable] at hv
      cases hv

/-- A synthesizer that a session has follows the craft. -/
def Session.Follows (craft : Craft) (s : Session σ) : Prop :=
  ∀ x ∈ s.synthesizer, x.Follows craft ∧ craft.opening = .ok ()

/-- Sessions in which one craft is followed, with related files. -/
structure Session.Related (craft : Craft) (R : Store → Store → Prop) (s t : Session σ) : Prop where
  store : R s.world.store t.world.store
  left : s.Follows craft
  right : t.Follows craft

/-- Worlds with related files. -/
abbrev World.Related (R : Store → Store → Prop) (w w' : World σ) : Prop :=
  R w.store w'.store

variable {craft : Craft} {R Q : Store → Store → Prop} {w w' : World σ} {path text folder : String}

namespace Act

theorem agree_changing {error : FileError → Error} {change : Store → Except FileError Store}
    (hR : R w.store w'.store)
    (h : (∃ cause, change w.store = .error cause ∧ change w'.store = .error cause) ∨
      ∃ s t, change w.store = .ok s ∧ change w'.store = .ok t ∧ R s t) :
    Agree (World.Related R) (World.Related R) (changing error change) w w' := by
  unfold Agree
  rw [changing, store_bind, store_bind]
  rcases h with ⟨cause, hs, ht⟩ | ⟨s, t, hs, ht, hst⟩
  · rw [hs, ht]
    exact .inr ⟨error cause, w, w', rfl, rfl, hR⟩
  · rw [hs, ht]
    exact .inl ⟨(), { w with store := s }, { w' with store := t }, rfl, rfl, hst⟩

/-- The folder for a file is made in both worlds, or fails to be for one cause. -/
theorem agree_makeParent (hparent : Path.parent? path = some folder)
    (h : (w.store.makeDirectories folder).1 = (w'.store.makeDirectories folder).1 ∧
      R (w.store.makeDirectories folder).2 (w'.store.makeDirectories folder).2) :
    Agree (World.Related R)
      (World.Related fun s t => R s t ∧ s.Furnished folder ∧ t.Furnished folder)
      (makeParent path) w w' := by
  unfold Agree
  rw [makeParent_eq hparent, makeParent_eq hparent]
  have hs : (w.store.makeDirectories folder).1 = .ok () →
      (w.store.makeDirectories folder).2.Furnished folder := Store.furnished_of_makeDirectories
  have ht : (w'.store.makeDirectories folder).1 = .ok () →
      (w'.store.makeDirectories folder).2.Furnished folder := Store.furnished_of_makeDirectories
  generalize w.store.makeDirectories folder = made at h hs
  generalize w'.store.makeDirectories folder = made' at h ht
  obtain ⟨result, s⟩ := made
  obtain ⟨result', t⟩ := made'
  obtain ⟨hresult, hR⟩ := h
  dsimp only at hresult hR hs ht
  subst hresult
  cases result with
  | ok u => exact .inl ⟨(), _, _, rfl, rfl, hR, hs rfl, ht rfl⟩
  | error cause => exact .inr ⟨_, _, _, rfl, rfl, hR⟩

end Act

namespace Build

variable {s t : Session σ}

theorem act_of_error {a : Act σ α} {e : Error} (h : a s.world = .error e w) :
    act a s = .error e { s with world := w } := by
  simp only [act, h]

theorem agree_act {a : Act σ α} (hs : s.Follows craft) (ht : t.Follows craft)
    (h : Agree (World.Related R) (World.Related Q) a s.world t.world) :
    Agree (Session.Related craft R) (Session.Related craft Q) (act a) s t := by
  unfold Agree act
  rcases h with ⟨x, w, w', hw, hw', hQ⟩ | ⟨e, w, w', hw, hw', hR⟩
  · rw [hw, hw']
    exact .inl ⟨x, _, _, rfl, rfl, hQ, hs, ht⟩
  · rw [hw, hw']
    exact .inr ⟨e, _, _, rfl, rfl, hR, hs, ht⟩

theorem agree_note {S : Store → Store → Prop} (h : s.Related craft R t) (e : BuildEvent) :
    Agree (Session.Related craft S) (Session.Related craft R) (note e) s t :=
  .inl ⟨(), _, _, rfl, rfl, h.store, h.left, h.right⟩

end Build

namespace Studio

variable {studio : Studio σ} {s t : Session σ}

/-- Whether a session gets a synthesizer depends on the craft alone. -/
theorem synthesizer_of_follows (hstudio : studio.Follows craft) (hs : s.Follows craft) (a : Asset) :
    ∃ s', s'.world.store = s.world.store ∧ s'.Follows craft ∧
      match craft.opening with
      | .ok () => ∃ x, studio.synthesizer a s = .ok x s' ∧ x.Follows craft
      | .error e => studio.synthesizer a s = .error e s' := by
  rw [synthesizer_eq]
  cases hsynthesizer : s.synthesizer with
  | some x =>
      obtain ⟨hx, hopening⟩ := hs x hsynthesizer
      rw [hopening]
      exact ⟨s, rfl, hs, x, rfl, hx⟩
  | none =>
      obtain ⟨w, hw, hopen⟩ := hstudio.opening s.world
      cases hopening : craft.opening with
      | ok u =>
          rw [hopening] at hopen
          obtain ⟨x, hx, hfollows⟩ := hopen
          rw [hx]
          refine ⟨_, hw, ?_, x, rfl, hfollows⟩
          intro y hy
          cases hy
          exact ⟨hfollows, hopening⟩
      | error e =>
          rw [hopening] at hopen
          have hopen' : studio.openSynthesizer s.world = .error e w := hopen
          rw [hopen']
          exact ⟨⟨w, none, s.opened, s.events⟩, hw, (fun _ hx => by cases hx), rfl⟩

end Studio

/-! ### Where a timeline is released -/

namespace StudioOptions

/-- The folders that all timelines share, and those that they lie in. -/
def shared (o : StudioOptions) (l : Location) : Prop :=
  l <+: Path.place o.outputFolder ∨ l <+: Path.place o.speechRoot

/-- What a timeline with a name has for its own: its outputs, and the folder of its sounds. -/
def own (o : StudioOptions) (name : String) (l : Location) : Prop :=
  l = Path.place o.publicRoot ++ ["speech", name] ∨ o.outputs name l

theorem isName_speech : Path.IsName "speech" :=
  ⟨by decide, by decide, by decide⟩

theorem isName_timelines : Path.IsName "timelines" :=
  ⟨by decide, by decide, by decide⟩

theorem place_speechRoot (o : StudioOptions) :
    Path.place o.speechRoot = Path.place o.publicRoot ++ ["speech"] := by
  rw [speechRoot, Path.place_join_name _ isName_speech, Location.child_eq (by decide) (by decide)]

variable {o : StudioOptions} {name : String} {l : Location}

theorem below_soundFolder (hname : Timeline.checkName name = .ok ()) :
    Path.Below o.speechRoot (Path.join o.speechRoot name) name :=
  Path.below_join_join o.publicRoot isName_speech (Timeline.isName_of_checkName hname)

theorem place_soundFolder (hname : Timeline.checkName name = .ok ()) :
    Path.place (Path.join o.speechRoot name) = Path.place o.speechRoot ++ [name] := by
  rw [Asset.place_join_speechRoot hname, place_speechRoot, List.append_assoc]
  rfl

/-- The files of a cue lie in the folder of the sounds, each under a name. -/
theorem below_asset {c : Cue} (hname : Timeline.checkName name = .ok ())
    (hvoice : Cue.isVoice c.voice) :
    (∃ file, Path.Below (Path.join o.speechRoot name) (Asset.ofCue o name c).speech file ∧
      Path.place (Asset.ofCue o name c).speech =
        Path.place (Path.join o.speechRoot name) ++ [file]) ∧
    ∃ file, Path.Below (Path.join o.speechRoot name) (Asset.ofCue o name c).encoded file ∧
      Path.place (Asset.ofCue o name c).encoded =
        Path.place (Path.join o.speechRoot name) ++ [file] := by
  have hfile : ∀ {extension : String}, extension.toList ≠ [] → '.' ∉ extension.toList →
      '/' ∉ extension.toList →
      ∃ file, Path.Below (Path.join o.speechRoot name) (Path.join (Path.join o.speechRoot name)
          (Asset.named (Asset.base c) extension)) file ∧
        Path.place (Path.join (Path.join o.speechRoot name)
          (Asset.named (Asset.base c) extension)) =
            Path.place (Path.join o.speechRoot name) ++ [file] := by
    intro extension hne hdot hext
    have hpart := Asset.not_mem_named (c := c) hvoice hext
    exact ⟨_, Path.below_join_join o.speechRoot (Timeline.isName_of_checkName hname)
        (Path.isName_of_dot (Asset.toList_named _ _) hne hdot hpart),
      Path.place_join_named _ (Asset.toList_named _ _) hne hdot hpart⟩
  obtain ⟨hne, hdot, hslash⟩ := o.format.extension_plain
  rw [Asset.speech_ofCue, Asset.encoded_ofCue]
  exact ⟨hfile (by decide) (by decide) (by decide), hfile hne hdot hslash⟩

theorem not_shared_of_own (hname : '/' ∉ name.toList) (h : o.own name l) : ¬ o.shared l := by
  have hlength : (Path.place o.publicRoot).length + 2 ≤ l.length := by
    rcases h with rfl | houtputs
    · simp
    · rcases outputs_cases hname houtputs with ⟨file, rfl⟩ | rfl | rfl <;> simp
  rintro (hshared | hshared)
  · have hle := hshared.length_le
    rw [place_outputFolder, List.length_append, List.length_singleton] at hle
    omega
  · have hle := hshared.length_le
    rw [place_speechRoot, List.length_append, List.length_singleton] at hle
    omega

end StudioOptions

/-- What is assumed where two runs of a studio are compared: below the public root, one goes on by
names; what is kept elsewhere are scripts; and the folders that all timelines share are not set
apart. -/
structure Setting (o : StudioOptions) (base : Store) (K K' X : Location → Prop) : Prop where
  reaches : base.Reaches o.publicRoot
  left : ∀ l, K l → Script.isPlace l
  right : ∀ l, K' l → Script.isPlace l
  shared : ∀ l, o.shared l → ¬ X l

/-- The files of two runs of a studio are parallel. -/
abbrev Matched (o : StudioOptions) (base : Store) (K K' X : Location → Prop) :
    Store → Store → Prop :=
  Store.Parallel base K K' X o.shared (Path.place (Studio.cataloguePath o))

namespace Setting

variable {o : StudioOptions} {base s t : Store} {K K' X : Location → Prop} {name : String}

theorem descends_speechRoot (h : Setting o base K K' X) :
    Path.Descends base.Leads o.speechRoot :=
  h.reaches.descends StudioOptions.isName_speech o.place_speechRoot

theorem descends_outputFolder (h : Setting o base K K' X) :
    Path.Descends base.Leads o.outputFolder :=
  h.reaches.descends StudioOptions.isName_timelines o.place_outputFolder

/-- The folder of the documents is made in both runs, or fails to be for one cause. -/
theorem outputFolder (h : Setting o base K K' X) (hst : Matched o base K K' X s t) :
    (s.makeDirectories o.outputFolder).1 = (t.makeDirectories o.outputFolder).1 ∧
      Matched o base K K' X (s.makeDirectories o.outputFolder).2
        (t.makeDirectories o.outputFolder).2 := by
  obtain ⟨parent, hbelow, hplace, hparent⟩ :=
    h.reaches.exists_below StudioOptions.isName_timelines o.place_outputFolder
  exact hst.makeDirectories (fun _ => id) hparent hbelow hplace fun m hm => h.shared m (.inl hm)

/-- So is the folder of the sounds of a timeline. -/
theorem soundFolder (h : Setting o base K K' X) (hst : Matched o base K K' X s t)
    (hname : Timeline.checkName name = .ok ()) (hown : ∀ l, o.own name l → ¬ X l) :
    (s.makeDirectories (Path.join o.speechRoot name)).1 =
        (t.makeDirectories (Path.join o.speechRoot name)).1 ∧
      Matched o base K K' X (s.makeDirectories (Path.join o.speechRoot name)).2
        (t.makeDirectories (Path.join o.speechRoot name)).2 := by
  refine hst.makeDirectories (fun _ => id) h.descends_speechRoot
    (StudioOptions.below_soundFolder hname) (StudioOptions.place_soundFolder hname) ?_
  intro m hm
  rw [StudioOptions.place_soundFolder hname, List.prefix_concat_iff] at hm
  rcases hm with rfl | hm
  · refine hown _ (.inl ?_)
    rw [o.place_speechRoot, List.append_assoc]
    rfl
  · exact h.shared m (.inr hm)

end Setting

/-- A file of a timeline, which lies in a folder that is reached by names. What stands there is the
same in both runs. -/
structure Filed (o : StudioOptions) (base : Store) (K K' X : Location → Prop)
    (folder path : String) : Prop where
  below : ∃ file, Path.Below folder path file ∧ Path.place path = Path.place folder ++ [file]
  descends : Path.Descends base.Leads folder
  apart : ¬ X (Path.place path)
  shared : ¬ o.shared (Path.place path)
  left : ¬ K (Path.place path)
  right : ¬ K' (Path.place path)

namespace Setting

variable {o : StudioOptions} {base : Store} {K K' X : Location → Prop} {name folder file : String}

theorem filed (h : Setting o base K K' X) (hname : '/' ∉ name.toList)
    (houtputs : o.outputs name (Path.place path)) (hown : ∀ l, o.own name l → ¬ X l)
    (hbelow : Path.Below folder path file)
    (hplace : Path.place path = Path.place folder ++ [file])
    (hdescends : Path.Descends base.Leads folder) : Filed o base K K' X folder path := by
  have hscript := StudioOptions.isPlace_of_outputs houtputs
  refine ⟨⟨file, hbelow, hplace⟩, hdescends, hown _ (.inr houtputs),
    StudioOptions.not_shared_of_own hname (.inr houtputs), ?_, ?_⟩
  · intro hK
    rw [h.left _ hK] at hscript
    cases hscript
  · intro hK'
    rw [h.right _ hK'] at hscript
    cases hscript

theorem filed_asset (h : Setting o base K K' X) {c : Cue}
    (hname : Timeline.checkName name = .ok ()) (hvoice : Cue.isVoice c.voice)
    (hown : ∀ l, o.own name l → ¬ X l) :
    Filed o base K K' X (Path.join o.speechRoot name) (Asset.ofCue o name c).speech ∧
      Filed o base K K' X (Path.join o.speechRoot name) (Asset.ofCue o name c).encoded := by
  have hslash := Studio.not_mem_of_checkName hname
  have hfolder : Path.Descends base.Leads (Path.join o.speechRoot name) :=
    .step (StudioOptions.below_soundFolder hname) (StudioOptions.place_soundFolder hname)
      h.descends_speechRoot
  obtain ⟨⟨_, hspeech, hspeechPlace⟩, _, hencoded, hencodedPlace⟩ :=
    StudioOptions.below_asset (o := o) hname hvoice
  constructor
  · exact h.filed hslash (.inl ⟨.inl (Asset.ending_speech _ name c), _,
      Asset.place_speech hname hvoice⟩) hown hspeech hspeechPlace hfolder
  · exact h.filed hslash (.inl ⟨.inr ⟨_, Asset.ending_encoded _ name c⟩, _,
      Asset.place_encoded hname hvoice⟩) hown hencoded hencodedPlace hfolder

theorem filed_outputFolder (h : Setting o base K K' X) (hname : '/' ∉ name.toList)
    (hown : ∀ l, o.own name l → ¬ X l) :
    Filed o base K K' X o.outputFolder (Studio.documentPath o name) ∧
      Filed o base K K' X o.outputFolder (Studio.bundlePath o name) := by
  have hpart := StudioOptions.isName_timelines
  have hfolder := h.descends_outputFolder
  have hdocument : '/' ∉ (name ++ ".json").toList := by simp [hname]
  have hbundle : '/' ∉ (name ++ ".speech.js").toList := by simp [hname]
  have hbelowDocument := Path.below_join_join o.publicRoot hpart
    (Path.isName_of_dot (Studio.toList_document name) (by decide) (by decide) hdocument)
  have hbelowBundle := Path.below_join_join o.publicRoot hpart
    (Path.isName_of_dot (Studio.toList_bundle name) (by decide) (by decide) hbundle)
  exact ⟨h.filed hname (.inr (.inl rfl)) hown hbelowDocument
      (Path.place_join_named _ (Studio.toList_document name) (by decide) (by decide) hdocument)
      hfolder,
    h.filed hname (.inr (.inr rfl)) hown hbelowBundle
      (Path.place_join_named _ (Studio.toList_bundle name) (by decide) (by decide) hbundle)
      hfolder⟩

end Setting

/-! ### What is done in both runs -/

/-- The files of two runs are parallel, and a folder is there in both. -/
abbrev MatchedIn (folder : String) (o : StudioOptions) (base : Store) (K K' X : Location → Prop)
    (s t : Store) : Prop :=
  Matched o base K K' X s t ∧ s.Furnished folder ∧ t.Furnished folder

namespace Filed

variable {o : StudioOptions} {base : Store} {K K' X : Location → Prop} {s t : Store}

section Folder

variable (h : Filed o base K K' X folder path) (hst : Matched o base K K' X s t)

include h hst

theorem find?_eq : s.find? (Path.place path) = t.find? (Path.place path) :=
  hst.alike.find?_eq h.apart h.shared

theorem contains_eq : s.contains path = t.contains path := by
  obtain ⟨file, hbelow, hplace⟩ := h.below
  exact Store.Parallel.contains_eq hst (fun _ => id) (.step hbelow hplace h.descends) h.apart h.shared

end Folder

theorem parent?_eq (h : Filed o base K K' X folder path) : Path.parent? path = some folder := by
  obtain ⟨_, hbelow, _⟩ := h.below
  exact hbelow.parent_eq

theorem houses (h : Filed o base K K' X folder path) (hs : s.Furnished folder) :
    s.Houses path := by
  intro parent hparent
  rw [h.parent?_eq] at hparent
  cases hparent
  exact hs

/-- A text is written in both runs, or fails to be for one cause. -/
theorem agree_writeText (h : Filed o base K K' X folder path)
    (hmake : (w.store.makeDirectories folder).1 = (w'.store.makeDirectories folder).1 ∧
      Matched o base K K' X (w.store.makeDirectories folder).2
        (w'.store.makeDirectories folder).2) (text : String) :
    Agree (World.Related (Matched o base K K' X)) (World.Related (Matched o base K K' X))
      (Act.writeText path text) w w' := by
  rw [Act.writeText_eq]
  refine (Act.agree_makeParent h.parent?_eq hmake).bind ?_
  rintro _ v v' ⟨hv, hs, ht⟩
  obtain ⟨file, hbelow, hplace⟩ := h.below
  exact Act.agree_changing hv (hv.write hbelow hplace hs.leads ht.leads h.apart h.shared h.left
    h.right text.toUTF8)

/-- What is performed as told in both runs leaves their files parallel. -/
theorem performs (h : Filed o base K K' X folder path)
    (hst : MatchedIn folder o base K K' X w.store w'.store) {a b : Act σ Unit}
    {told : Except Error Unit × Option Node}
    (hdir : w.store.find? (Path.place path) = some .directory → told.2 = some .directory)
    (ha : a.Performs (Path.place path) told w) (hb : b.Performs (Path.place path) told w') :
    ∃ v v', a w = Act.ended told.1 v ∧ b w' = Act.ended told.1 v' ∧
      MatchedIn folder o base K K' X v.store v'.store := by
  obtain ⟨hmatched, hs, ht⟩ := hst
  obtain ⟨file, hbelow, hplace⟩ := h.below
  obtain ⟨v, hv, hset⟩ := ha
  obtain ⟨v', hv', hset'⟩ := hb
  have hdir' : w'.store.find? (Path.place path) = some .directory → told.2 = some .directory :=
    fun hl => hdir ((h.find?_eq hmatched).trans hl)
  exact ⟨v, v', hv, hv', hmatched.change hset hset' hdir hdir' h.left h.right
      (hs.leads.hosts hplace) (ht.leads.hosts hplace),
    hs.mono fun _ => hset.directory hdir, ht.mono fun _ => hset'.directory hdir'⟩

end Filed

namespace Act

theorem agree_of_ended {a : Act σ Unit} {outcome : Except Error Unit} {v v' : World σ}
    (hw : a w = ended outcome v) (hw' : a w' = ended outcome v') (hv : R v.store v'.store) :
    Agree (World.Related R) (World.Related R) a w w' := by
  cases outcome with
  | ok u => exact .inl ⟨(), v, v', hw, hw', hv⟩
  | error e => exact .inr ⟨e, v, v', hw, hw', hv⟩

end Act

namespace Studio

variable {studio : Studio σ} {o : StudioOptions} {base : Store} {K K' X : Location → Prop}
  {s t : Session σ} {a : Asset}

/-- The files of two runs of one craft are parallel, and a folder is there in both. -/
abbrev RelatedIn (craft : Craft) (folder : String) (o : StudioOptions) (base : Store)
    (K K' X : Location → Prop) : Session σ → Session σ → Prop :=
  Session.Related craft (MatchedIn folder o base K K' X)

section Asset

variable (hfollows : studio.Follows craft)
  (hspeech : Filed o base K K' X folder a.speech) (hencoded : Filed o base K K' X folder a.encoded)

include hfollows hspeech

/-- Speech is made in both runs, or fails to be for one reason, with whichever synthesizers. -/
theorem agree_synthesize (hst : RelatedIn craft folder o base K K' X s t) :
    Agree (RelatedIn craft folder o base K K' X) (RelatedIn craft folder o base K K' X) (do
      let opened ← studio.synthesizer a
      Build.act (opened.synthesize a.text a.voice a.speech)) s t := by
  obtain ⟨s₁, hs₁, hleft, hs⟩ := synthesizer_of_follows hfollows hst.left a
  obtain ⟨t₁, ht₁, hright, ht⟩ := synthesizer_of_follows hfollows hst.right a
  have hst₁ : MatchedIn folder o base K K' X s₁.world.store t₁.world.store := by
    rw [hs₁, ht₁]
    exact hst.store
  cases hopening : craft.opening with
  | error e =>
      rw [hopening] at hs ht
      have hs' : studio.synthesizer a s = .error e s₁ := hs
      have ht' : studio.synthesizer a t = .error e t₁ := ht
      exact .inr ⟨e, s₁, t₁, bind_of_error hs' _, bind_of_error ht' _, hst₁, hleft, hright⟩
  | ok u =>
      rw [hopening] at hs ht
      obtain ⟨x, hx, hxfollows⟩ := hs
      obtain ⟨y, hy, hyfollows⟩ := ht
      have hspoken := hxfollows a.text a.voice a.speech s₁.world (hspeech.houses hst₁.2.1)
      have hspoken' := hyfollows a.text a.voice a.speech t₁.world (hspeech.houses hst₁.2.2)
      rw [← hspeech.find?_eq hst₁.1] at hspoken'
      have hdir : s₁.world.store.find? (Path.place a.speech) = some .directory →
          (craft.speaking a.text a.voice a.speech
            (s₁.world.store.find? (Path.place a.speech))).2 = some .directory := by
        intro hl
        rw [hl]
        exact craft.speaking_directory _ _ _
      obtain ⟨v, v', hv, hv', hvv'⟩ := hspeech.performs hst₁ hdir hspoken hspoken'
      unfold Agree
      rw [bind_of_ok hx, bind_of_ok hy]
      generalize (craft.speaking a.text a.voice a.speech
        (s₁.world.store.find? (Path.place a.speech))).1 = outcome at hv hv'
      cases outcome with
      | ok u =>
          exact .inl ⟨(), _, _, Build.act_of_ok hv, Build.act_of_ok hv', hvv', hleft, hright⟩
      | error e =>
          exact .inr ⟨e, _, _, Build.act_of_error hv, Build.act_of_error hv', hvv', hleft, hright⟩

variable (hmake : ∀ {u v : Store}, Matched o base K K' X u v →
  (u.makeDirectories folder).1 = (v.makeDirectories folder).1 ∧
    Matched o base K K' X (u.makeDirectories folder).2 (v.makeDirectories folder).2)

include hmake

theorem agree_speak (hst : s.Related craft (Matched o base K K' X) t) :
    Agree (Session.Related craft (Matched o base K K' X)) (RelatedIn craft folder o base K K' X)
      (studio.speak a) s t := by
  unfold Agree
  rw [speak, speakOn, Build.act_store_bind, Build.act_store_bind, ← hspeech.contains_eq hst.store]
  by_cases hthere : s.world.store.contains a.speech
  · simp only [if_pos hthere]
    have hthere' := hthere
    rw [hspeech.contains_eq hst.store] at hthere'
    have hfurnished : ∀ {u : Store}, u.contains a.speech → u.Furnished folder := by
      intro u hu
      obtain ⟨l, hl, _⟩ := Store.contains_iff.mp hu
      exact Store.furnished_of_locate hspeech.parent?_eq hl
    exact .inl ⟨_, s, t, rfl, rfl, ⟨hst.store, hfurnished hthere, hfurnished hthere'⟩, hst.left,
      hst.right⟩
  · simp only [if_neg hthere]
    refine (Build.agree_note hst _).bind fun hst => ?_
    have hparent := Act.agree_makeParent hspeech.parent?_eq (hmake hst.store)
    refine (Build.agree_act hst.left hst.right hparent).bind fun hst => ?_
    have hspoken := (agree_synthesize hfollows hspeech hst).bind
      (f := fun _ => (pure .synthesized : Build σ Origin)) fun h => .pure h
    simp only [bind_assoc] at hspoken
    exact hspoken.weaken (fun h => ⟨h.store.1, h.left, h.right⟩) id

omit hfollows hmake in
theorem agree_discard (hst : RelatedIn craft folder o base K K' X s t) :
    Agree (Session.Related craft (Matched o base K K' X))
      (Session.Related craft (Matched o base K K' X)) (discard a) s t := by
  obtain ⟨⟨hmatched, hs, ht⟩, hleft, hright⟩ := hst
  obtain ⟨file, hbelow, hplace⟩ := hspeech.below
  unfold Agree
  rw [discard_eq, discard_eq]
  rcases hmatched.remove hbelow hplace hs.leads ht.leads hspeech.apart hspeech.shared hspeech.left
    hspeech.right with ⟨cause, hs', ht'⟩ | ⟨u, v, hs', ht', huv⟩
  · rw [hs', ht']
    exact .inl ⟨(), _, _, rfl, rfl, hmatched, hleft, hright⟩
  · rw [hs', ht']
    exact .inl ⟨(), _, _, rfl, rfl, huv, hleft, hright⟩

include hencoded

theorem agree_produce (hst : s.Related craft (Matched o base K K' X) t) :
    Agree (Session.Related craft (Matched o base K K' X))
      (Session.Related craft (Matched o base K K' X)) (studio.produce a) s t := by
  unfold Agree
  rw [produce, produceOn, Build.act_store_bind, Build.act_store_bind, ← hencoded.contains_eq hst.store]
  by_cases hthere : s.world.store.contains a.encoded
  · simp only [if_pos hthere]
    exact (Build.agree_note hst _).bind fun hst => .pure hst
  · simp only [if_neg hthere]
    refine (agree_speak hfollows hspeech hmake hst).bind fun {origin s t} hst => ?_
    have hencoding := hfollows.encoding a.speech a.encoded studio.options.format s.world
      (hencoded.houses hst.store.2.1)
    have hencoding' := hfollows.encoding a.speech a.encoded studio.options.format t.world
      (hencoded.houses hst.store.2.2)
    rw [← hspeech.find?_eq hst.store.1, ← hencoded.find?_eq hst.store.1] at hencoding'
    have hdir : s.world.store.find? (Path.place a.encoded) = some .directory →
        (craft.encoding a.speech a.encoded studio.options.format
          (s.world.store.find? (Path.place a.speech))
          (s.world.store.find? (Path.place a.encoded))).2 = some .directory := by
      intro hl
      rw [hl]
      exact craft.encoding_directory _ _ _ _
    obtain ⟨v, v', hv, hv', hvv'⟩ := hencoded.performs hst.store hdir hencoding hencoding'
    have hencode := Build.agree_act hst.left hst.right (Act.agree_of_ended hv hv' hvv')
    refine (hencode.weaken (fun h => ⟨h.store.1, h.left, h.right⟩) id).bind fun hst => ?_
    exact (agree_discard hspeech hst).bind fun hst => .pure hst

end Asset

variable {timeline : Timeline}

/-- A timeline is released in both runs, or fails to be for one reason, where nothing that it has
for its own is set apart. -/
theorem agree_release (hfollows : studio.Follows craft) (hset : Setting studio.options base K K' X)
    (hown : timeline.check = .ok () → ∀ l, studio.options.own timeline.name l → ¬ X l)
    (hst : s.Related craft (Matched studio.options base K K' X) t) :
    Agree (Session.Related craft (Matched studio.options base K K' X))
      (Session.Related craft (Matched studio.options base K K' X)) (studio.release timeline) s t := by
  unfold release releaseOn
  cases hcheck : timeline.check with
  | error fault => exact .inr ⟨_, s, t, rfl, rfl, hst⟩
  | ok u =>
      have hname := (Timeline.check_eq_ok.mp hcheck).1
      replace hown := hown hcheck
      have hslash := not_mem_of_checkName hname
      have henrich : Agree (Session.Related craft (Matched studio.options base K K' X))
          (Session.Related craft (Matched studio.options base K K' X)) (studio.enrich timeline)
          s t := by
        refine (Agree.mapM ?_ hst).bind fun hst => .pure hst
        intro i hi s t hst
        refine (Agree.mapM ?_ hst).bind fun hst => .pure hst
        intro c hc s t hst
        have hvoice := Timeline.isVoice_of_check hcheck hi hc
        obtain ⟨hspeech, hencoded⟩ := hset.filed_asset hname hvoice hown
        have hmake := fun {u v : Store} (huv : Matched studio.options base K K' X u v) =>
          hset.soundFolder huv hname hown
        exact (agree_produce hfollows hspeech hencoded hmake hst).bind fun hst => .pure hst
      obtain ⟨hdocument, hbundle⟩ := hset.filed_outputFolder hslash hown
      refine henrich.bind fun hst => ?_
      refine (Build.agree_act hst.left hst.right
        (hdocument.agree_writeText (hset.outputFolder hst.store) _)).bind fun hst => ?_
      refine (Build.agree_act hst.left hst.right
        (hbundle.agree_writeText (hset.outputFolder hst.store) _)).bind fun hst => ?_
      exact (Build.agree_note hst _).bind fun hst => .pure hst

end Studio

end Storyboard
