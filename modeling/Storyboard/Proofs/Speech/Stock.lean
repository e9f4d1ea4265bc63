import Mathlib
import Storyboard.Proofs.Speech.Detour

/-!
What is in stock during a build. Which assets are there when a cue is produced is told from what was
there at the start and from the cues before it, as long as whoever succeeds makes its file and
touches nothing else: what is made for one asset is neither taken for another one nor lost.
-/

namespace Storyboard

/-! ### Diligent parties -/

/-- A file was made at a path, and nothing else is different. -/
structure Store.Deposits (path : String) (s s' : Store) : Prop where
  vacant : s.find? (Path.place path) ≠ some .directory
  sets : ∃ content isProgram, Sets (Path.place path) (some (.file content isProgram)) s s'
  contains : s'.contains path

variable {σ : Type}

/-- Whoever succeeds in speaking into a directory has made the file of the speech. -/
def Synthesizer.Diligent (x : Synthesizer σ) : Prop :=
  ∀ ⦃text voice speech : String⦄ ⦃w w' : World σ⦄, w.store.Houses speech →
    x.synthesize text voice speech w = .ok () w' → w.store.Deposits speech w'.store

/-- Whoever succeeds in speaking or encoding has made the one file that was asked for and touched no
other. Nothing is known of a call that fails. -/
structure Studio.Diligent (studio : Studio σ) : Prop where
  opening : ∀ {w w' : World σ} {x : Synthesizer σ},
    studio.openSynthesizer w = .ok x w' → x.Diligent
  encoding : ∀ {speech target : String} {format : SpeechFormat} {w w' : World σ},
    w.store.Houses target → studio.encoder.encode speech target format w = .ok () w' →
      w.store.Deposits target w'.store

def Studio.OpensQuietly (studio : Studio σ) : Prop :=
  ∀ ⦃w w' : World σ⦄ ⦃x : Synthesizer σ⦄,
    studio.openSynthesizer w = .ok x w' → w'.store = w.store

def Session.Diligent (s : Session σ) : Prop :=
  ∀ x ∈ s.synthesizer, x.Diligent

/-! ### Trees -/

theorem Path.Descends.mono {B B' : String → Prop} {path : String} (hB : ∀ q, B q → B' q)
    (h : Descends B path) : Descends B' path := by
  induction h with
  | here hbase => exact .here (hB _ hbase)
  | step hbelow hplace _ ih => exact .step hbelow hplace ih

namespace Store

variable {s s' : Store} {path parent name : String} {l : Location} {n : Option Node}

theorem Housed.parallel (h : s.Housed) :
    Parallel s (fun _ => False) (fun _ => False) (fun _ => False) (fun _ => False) [] s s :=
  ⟨⟨h, id, nofun⟩, ⟨h, id, nofun⟩, .refl _ _ _, rfl⟩

theorem Housed.makeDirectories (h : s.Housed) (hparent : Path.Descends s.Leads parent)
    (hbelow : Path.Below parent path name)
    (hplace : Path.place path = Path.place parent ++ [name]) :
    (s.makeDirectories path).2.Housed :=
  (h.parallel.makeDirectories (fun _ => id) hparent hbelow hplace fun _ _ => id).2.left.housed

theorem Housed.sets (h : s.Housed) (hset : Sets l n s s')
    (hdir : s.find? l = some .directory → n = some .directory) (hhosts : s.Hosts l) :
    s'.Housed :=
  (h.parallel.left.sets hset hdir nofun fun _ => hhosts).housed

/-- Two trees that hold the same at the place of a path answer the same for it. -/
theorem contains_congr (hs : s.Housed) (hs' : s'.Housed)
    (hdir : ∀ {l}, s.find? l = some .directory → s'.find? l = some .directory)
    (hpath : Path.Descends s.Leads path)
    (hsame : s'.find? (Path.place path) = s.find? (Path.place path)) :
    s'.contains path = s.contains path := by
  have hparallel : Parallel s (fun _ => False) (fun _ => False) (fun l => l ≠ Path.place path)
      (fun _ => False) [] s s' := by
    refine ⟨⟨hs, id, nofun⟩, ⟨hs', hdir, nofun⟩, ?_, rfl⟩
    intro l hl
    rw [not_not.mp hl, hsame]
    exact .inl rfl
  exact (hparallel.contains_eq (fun _ => id) hpath (not_not.mpr rfl) id).symm

theorem sets_of_remove (h : s.remove path = .ok s') :
    s.find? (Path.place path) ≠ some .directory ∧ Sets (Path.place path) none s s' := by
  obtain ⟨content, isProgram, hfile, rfl⟩ := remove_eq_ok h
  refine ⟨by rw [hfile]; nofun, .erase fun hlocked => ?_⟩
  unfold remove at h
  cases hl : s.locate path with
  | error cause =>
      rw [hl] at h
      cases h
  | ok l =>
      obtain rfl := locate_eq_ok hl
      simp [hl, bind, Except.bind, hfile, hlocked] at h

end Store

/-! ### Work on one asset -/

def Asset.places (a : Asset) (l : Location) : Prop :=
  ∃ path ∈ a.files, l = Path.place path

theorem StudioOptions.below_of_mem_files {o : StudioOptions} {name : String} {c : Cue}
    (hname : Timeline.checkName name = .ok ()) (hvoice : Cue.isVoice c.voice) {path : String}
    (hpath : path ∈ (Asset.ofCue o name c).files) :
    ∃ file, Path.Below (Path.join o.speechRoot name) path file ∧
      Path.place path = Path.place (Path.join o.speechRoot name) ++ [file] := by
  obtain ⟨hspeech, hencoded⟩ := below_asset (o := o) hname hvoice
  rw [Asset.files, List.mem_pair] at hpath
  obtain hpath | hpath := hpath
  · exact hpath ▸ hspeech
  · exact hpath ▸ hencoded

/-- In a tree, nothing was touched but the files of a cue and the folder that they lie in, which is
there. -/
structure Store.Worked (o : StudioOptions) (name : String) (c : Cue) (s s' : Store) : Prop where
  change : s.Confined (· <+: Path.place (Path.join o.speechRoot name))
    (Asset.ofCue o name c).places s'
  housed : s'.Housed
  furnished : s'.Furnished (Path.join o.speechRoot name)

namespace Store.Worked

variable {o : StudioOptions} {name : String} {c : Cue} {s t t' : Store} {path : String}

theorem of_makeParent {w w' : World σ} (hs : w.store.Housed)
    (hroot : Path.Descends w.store.Leads o.speechRoot)
    (hname : Timeline.checkName name = .ok ())
    (hparent : Path.parent? path = some (Path.join o.speechRoot name))
    (h : Act.makeParent path w = .ok () w') : Worked o name c w.store w'.store := by
  have hbelow := StudioOptions.below_soundFolder (o := o) hname
  have hplace := StudioOptions.place_soundFolder (o := o) hname
  have hmade : w'.store = (w.store.makeDirectories (Path.join o.speechRoot name)).2 := by
    rw [← Act.after_makeParent_eq hparent, after_of_ok h]
  refine ⟨?_, ?_, (Act.makeParent_eq_ok h).2 _ hparent⟩
  · rw [hmade]
    exact .of_makeDirectories (makesOnly_of_below (fun _ => id) hroot hbelow hplace
      fun l hl _ => hl)
  · rw [hmade]
    exact hs.makeDirectories hroot hbelow hplace

variable (h : Worked o name c s t) (hname : Timeline.checkName name = .ok ())
  (hvoice : Cue.isVoice c.voice) (hpath : path ∈ (Asset.ofCue o name c).files)

include h hname hvoice hpath

theorem houses : t.Houses path := by
  obtain ⟨file, hbelow, -⟩ := StudioOptions.below_of_mem_files hname hvoice hpath
  intro parent hparent
  rw [hbelow.parent_eq] at hparent
  cases hparent
  exact h.furnished

theorem sets {n : Option Node} (hset : Sets (Path.place path) n t t')
    (hdir : t.find? (Path.place path) ≠ some .directory) : Worked o name c s t' := by
  obtain ⟨file, -, hplace⟩ := StudioOptions.below_of_mem_files hname hvoice hpath
  have hkept : t.find? (Path.place path) = some .directory → n = some .directory :=
    fun hfound => absurd hfound hdir
  have hchange : t.Confined (· <+: Path.place (Path.join o.speechRoot name))
      (· = Path.place path) t' := Sets.confined hset hkept
  refine ⟨h.change.trans (hchange.mono fun l hl => ⟨path, hpath, hl⟩), ?_, ?_⟩
  · exact h.housed.sets hset hkept (h.furnished.leads.hosts hplace)
  · exact h.furnished.mono fun _ => hchange.directory

end Store.Worked

/-! ### Stock -/

/-- Neither the speech of a cue is there nor its encoded speech. -/
def Store.Lacks (s : Store) (o : StudioOptions) (name : String) (c : Cue) : Prop :=
  ¬ s.contains (Asset.ofCue o name c).encoded ∧ ¬ s.contains (Asset.ofCue o name c).speech

/-- The files while the timeline with a name is built, where some assets were produced since the
start: they are there, and of all others, what is there is what was there at the start. -/
structure Store.Stocked (o : StudioOptions) (name : String) (start : Store) (taken : List String)
    (s : Store) : Prop where
  housed : s.Housed
  root : Path.Descends s.Leads o.speechRoot
  encoded : ∀ c : Cue, Cue.isVoice c.voice → (s.contains (Asset.ofCue o name c).encoded ↔
    start.contains (Asset.ofCue o name c).encoded ∨ Asset.base c ∈ taken)
  speech : ∀ c : Cue, Cue.isVoice c.voice → Asset.base c ∉ taken →
    s.contains (Asset.ofCue o name c).speech = start.contains (Asset.ofCue o name c).speech

namespace Store.Stocked

variable {o : StudioOptions} {name : String} {start s s' : Store} {taken : List String} {c : Cue}

theorem self (hs : s.Housed) (hroot : Path.Descends s.Leads o.speechRoot) :
    Stocked o name s [] s :=
  ⟨hs, hroot, fun _ _ => by simp, fun _ _ _ => rfl⟩

theorem folder (h : Stocked o name start taken s) (hname : Timeline.checkName name = .ok ()) :
    Path.Descends s.Leads (Path.join o.speechRoot name) :=
  .step (StudioOptions.below_soundFolder hname) (StudioOptions.place_soundFolder hname) h.root

theorem lacks (h : Stocked o name start taken s) (hvoice : Cue.isVoice c.voice)
    (hlacks : s.Lacks o name c) : start.Lacks o name c := by
  obtain ⟨hencoded, hspeech⟩ := hlacks
  obtain ⟨hnone, hfree⟩ := not_or.mp (mt (h.encoded c hvoice).mpr hencoded)
  exact ⟨hnone, h.speech c hvoice hfree ▸ hspeech⟩

/-- Files of another name are elsewhere. -/
theorem contains_eq_of_ne (h : Stocked o name start taken s)
    (hname : Timeline.checkName name = .ok ()) (hvoice : Cue.isVoice c.voice)
    (hchange : s.Confined (· <+: Path.place (Path.join o.speechRoot name))
      (Asset.ofCue o name c).places s')
    (hs' : s'.Housed) {d : Cue} (hd : Cue.isVoice d.voice) (hne : Asset.base d ≠ Asset.base c)
    {path : String} (hpath : path ∈ (Asset.ofCue o name d).files) :
    s'.contains path = s.contains path := by
  obtain ⟨file, hbelow, hplace⟩ := StudioOptions.below_of_mem_files hname hd hpath
  refine contains_congr h.housed hs' hchange.directory (.step hbelow hplace (h.folder hname))
    (hchange.find?_eq ?_ ?_)
  · rintro ⟨other, hother, hsame⟩
    exact hne (Asset.base_eq_of_shares hname hd hname hvoice ⟨path, hpath, other, hother, hsame⟩)
  · rw [hplace]
    intro hfront
    have hlength := hfront.length_le
    simp at hlength

/-- Where an asset has been produced, and nothing else was touched but its folder, one asset more is
there. -/
theorem take (h : Stocked o name start taken s) (hname : Timeline.checkName name = .ok ())
    (hvoice : Cue.isVoice c.voice)
    (hchange : s.Confined (· <+: Path.place (Path.join o.speechRoot name))
      (Asset.ofCue o name c).places s')
    (hs' : s'.Housed) (hthere : s'.contains (Asset.ofCue o name c).encoded) :
    Stocked o name start (Asset.base c :: taken) s' := by
  refine ⟨hs', h.root.mono fun q hq => hq.mono fun _ => hchange.directory, ?_, ?_⟩
  · intro d hd
    -- Cues of one name have one file.
    by_cases hsame : Asset.base d = Asset.base c
    · rw [Asset.encoded_ofCue, hsame, ← Asset.encoded_ofCue]
      simp [hthere]
    · rw [h.contains_eq_of_ne hname hvoice hchange hs' hd hsame (Asset.encoded_mem_files _),
        h.encoded d hd, List.mem_cons]
      simp [hsame]
  · intro d hd hnew
    obtain ⟨hne, hfree⟩ := not_or.mp (mt List.mem_cons.mpr hnew)
    rw [h.contains_eq_of_ne hname hvoice hchange hs' hd hne (Asset.speech_mem_files _),
      h.speech d hd hfree]

end Store.Stocked

/-! ### Production -/

namespace Studio

variable {studio : Studio σ} {s s' : Session σ} {name : String} {c : Cue} {origin : Origin}

theorem diligent_of_synthesizer {a : Asset} {x : Synthesizer σ} (hstudio : studio.Diligent)
    (hs : s.Diligent) (h : studio.synthesizer a s = .ok x s') :
    x.Diligent ∧ s'.Diligent ∧ (studio.OpensQuietly → s'.world.store = s.world.store) := by
  rw [synthesizer_eq] at h
  cases hopened : s.synthesizer with
  | some y =>
      rw [hopened] at h
      cases h
      exact ⟨hs x hopened, hs, fun _ => rfl⟩
  | none =>
      rw [hopened] at h
      dsimp only at h
      cases hopen : studio.openSynthesizer s.world with
      | error e w =>
          rw [hopen] at h
          cases h
      | ok y w =>
          rw [hopen] at h
          cases h
          have hx := hstudio.opening hopen
          refine ⟨hx, ?_, fun hquiet => hquiet hopen⟩
          rintro _ ⟨⟩
          exact hx

/-- Speech that is there is left alone, and speech that is not there is made. -/
theorem worked_of_speak (hstudio : studio.Diligent) (hs : s.Diligent)
    (htree : s.world.store.Housed)
    (hroot : Path.Descends s.world.store.Leads studio.options.speechRoot)
    (hname : Timeline.checkName name = .ok ()) (hvoice : Cue.isVoice c.voice)
    (hquiet : ¬ s.world.store.contains (Asset.ofCue studio.options name c).speech →
      studio.OpensQuietly)
    (h : studio.speak (.ofCue studio.options name c) s = .ok origin s') :
    s'.Diligent ∧
      Store.Worked studio.options name c s.world.store s'.world.store ∧
      origin = if s.world.store.contains (Asset.ofCue studio.options name c).speech then .encoded
        else .synthesized := by
  have hparent := (parent?_asset studio.options hname hvoice).1
  obtain ⟨hthere, horigin, hsame⟩ | ⟨hmissing, horigin, w, x, s₁, w₁, hmade, hopen, hspeak, hs'⟩ :=
    speak_eq_ok h
  · obtain ⟨l, hl, -⟩ := Store.contains_iff.mp hthere
    rw [hsame, if_pos hthere]
    exact ⟨hs, ⟨.refl _ _ _, htree, Store.furnished_of_locate hparent hl⟩, horigin⟩
  · have hfolder := Store.Worked.of_makeParent (c := c) htree hroot hname hparent hmade
    have hs₀ : Session.Diligent { s with
        world := w, events := s.events ++ [.synthesizing (.ofCue studio.options name c)] } := hs
    obtain ⟨hx, hs₁, hstore⟩ := diligent_of_synthesizer hstudio hs₀ hopen
    rw [← show s₁.world.store = w.store from hstore (hquiet hmissing)] at hfolder
    have hhouses := hfolder.houses hname hvoice (Asset.speech_mem_files _)
    obtain ⟨hvacant, ⟨content, isProgram, hset⟩, -⟩ := hx hhouses hspeak
    rw [hs', if_neg hmissing]
    exact ⟨hs₁, hfolder.sets hname hvoice (Asset.speech_mem_files _) hset hvacant, horigin⟩

/-- Speech that is taken away, or cannot be taken away, leaves the encoded speech where it is. -/
theorem worked_of_discard {start : Store} (hs : s.Diligent)
    (hworked : Store.Worked studio.options name c start s.world.store)
    (hname : Timeline.checkName name = .ok ()) (hvoice : Cue.isVoice c.voice)
    (hthere : s.world.store.contains (Asset.ofCue studio.options name c).encoded)
    (h : discard (.ofCue studio.options name c) s = .ok () s') :
    s'.Diligent ∧ Store.Worked studio.options name c start s'.world.store ∧
      s'.world.store.contains (Asset.ofCue studio.options name c).encoded := by
  obtain ⟨store, hremove, rfl⟩ | ⟨cause, -, rfl⟩ := discard_eq_ok h
  · obtain ⟨hfile, herased⟩ := Store.sets_of_remove hremove
    have hapart : Path.place (Asset.ofCue studio.options name c).encoded ≠
        Path.place (Asset.ofCue studio.options name c).speech := by
      intro hsame
      have hending := Asset.ending_encoded_ne studio.options name c
      rw [hsame, Asset.ending_speech] at hending
      exact hending rfl
    have hremoved : s.world.store.Confined (fun _ => False)
        (· = Path.place (Asset.ofCue studio.options name c).speech) store :=
      .of_remove hremove rfl
    exact ⟨hs, hworked.sets hname hvoice (Asset.speech_mem_files _) herased hfile,
      hremoved.contains hapart hthere⟩
  · exact ⟨hs, hworked, hthere⟩

/-- How a cue comes by its asset, where some assets were produced since the start. -/
def fate (o : StudioOptions) (name : String) (start : Store) (taken : List String) (c : Cue) :
    Origin :=
  if start.contains (Asset.ofCue o name c).encoded ∨ Asset.base c ∈ taken then .cached
  else if start.contains (Asset.ofCue o name c).speech then .encoded
  else .synthesized

def fates (o : StudioOptions) (name : String) (start : Store) : List String → List Cue → List Origin
  | _, [] => []
  | taken, c :: cues => fate o name start taken c :: fates o name start (Asset.base c :: taken) cues

theorem fates_append (o : StudioOptions) (name : String) (start : Store) (taken : List String)
    (cues more : List Cue) :
    fates o name start taken (cues ++ more) = fates o name start taken cues ++
      fates o name start ((cues.map Asset.base).reverse ++ taken) more := by
  induction cues generalizing taken with
  | nil => rfl
  | cons c cues ih => simp [fates, ih]

section Course

variable {start : Store} {taken : List String} (hstudio : studio.Diligent) (hs : s.Diligent)
  (hstock : Store.Stocked studio.options name start taken s.world.store)
  (hname : Timeline.checkName name = .ok ())

include hstudio hs hstock hname

/-- The production of an asset that succeeds is as its fate tells, and adds the asset. -/
theorem stocked_of_produce (hvoice : Cue.isVoice c.voice)
    (hquiet : start.Lacks studio.options name c → studio.OpensQuietly)
    (h : studio.produce (.ofCue studio.options name c) s = .ok origin s') :
    s'.Diligent ∧
      Store.Stocked studio.options name start (Asset.base c :: taken) s'.world.store ∧
      origin = fate studio.options name start taken c := by
  obtain ⟨hthere, horigin, hs'⟩ | ⟨hmissing, s₁, w, hspeak, hencode, hdiscard⟩ := produce_eq_ok h
  · rw [hs', fate, if_pos ((hstock.encoded c hvoice).mp hthere)]
    exact ⟨hs, hstock.take hname hvoice (.refl _ _ _) hstock.housed hthere, horigin⟩
  · obtain ⟨hnone, hfree⟩ := not_or.mp (mt (hstock.encoded c hvoice).mpr hmissing)
    obtain ⟨hs₁, hspoken, horigin⟩ := worked_of_speak hstudio hs hstock.housed hstock.root hname
      hvoice (fun hspeechless => hquiet (hstock.lacks hvoice ⟨hmissing, hspeechless⟩)) hspeak
    obtain ⟨hvacant, ⟨content, isProgram, hset⟩, hthere⟩ :=
      hstudio.encoding (hspoken.houses hname hvoice (Asset.encoded_mem_files _)) hencode
    have hworked := hspoken.sets hname hvoice (Asset.encoded_mem_files _) hset hvacant
    rw [hstock.speech c hvoice hfree] at horigin
    rw [fate, if_neg (not_or.mpr ⟨hnone, hfree⟩)]
    have hs₂ : Session.Diligent { s₁ with world := w } := hs₁
    obtain ⟨hs', hdone, hthere'⟩ := worked_of_discard hs₂ hworked hname hvoice hthere hdiscard
    exact ⟨hs', hstock.take hname hvoice hdone.change hdone.housed hthere', horigin⟩

theorem stocked_of_produceCue (hvoice : Cue.isVoice c.voice)
    (hquiet : start.Lacks studio.options name c → studio.OpensQuietly)
    {r : Attachment × Origin} (h : studio.produceCue name c s = .ok r s') :
    s'.Diligent ∧
      Store.Stocked studio.options name start (Asset.base c :: taken) s'.world.store ∧
      r.2 = fate studio.options name start taken c := by
  obtain ⟨origin, t, hproduce, h⟩ := bind_eq_ok h
  obtain ⟨rfl, rfl⟩ := pure_eq_ok h
  exact stocked_of_produce hstudio hs hstock hname hvoice hquiet hproduce

theorem stocked_of_cues {cues : List Cue} (hvoice : ∀ c ∈ cues, Cue.isVoice c.voice)
    (hquiet : ∀ c ∈ cues, start.Lacks studio.options name c → studio.OpensQuietly)
    {produced : List (Attachment × Origin)}
    (h : cues.mapM (studio.produceCue name) s = .ok produced s') :
    s'.Diligent ∧
      Store.Stocked studio.options name start ((cues.map Asset.base).reverse ++ taken)
        s'.world.store ∧
      produced.map (·.2) = fates studio.options name start taken cues := by
  induction cues generalizing s taken produced with
  | nil =>
      obtain ⟨rfl, rfl⟩ := pure_eq_ok h
      exact ⟨hs, hstock, rfl⟩
  | cons c cues ih =>
      obtain ⟨hc, hcues⟩ := List.forall_mem_cons.mp hvoice
      obtain ⟨hquietc, hquiet'⟩ := List.forall_mem_cons.mp hquiet
      rw [List.mapM_cons] at h
      obtain ⟨r, t, hcue, h⟩ := bind_eq_ok h
      obtain ⟨rest, t', hrest, h⟩ := bind_eq_ok h
      obtain ⟨rfl, rfl⟩ := pure_eq_ok h
      obtain ⟨ht, hstock', horigin⟩ :=
        stocked_of_produceCue hstudio hs hstock hname hc hquietc hcue
      obtain ⟨ht', hstock'', horigins⟩ := ih ht hstock' hcues hquiet' hrest
      rw [List.map_cons, List.reverse_cons, List.append_assoc]
      exact ⟨ht', hstock'', congrArg₂ List.cons horigin horigins⟩

theorem stocked_of_produceItem {i : Item} (hvoice : ∀ c ∈ i.speech, Cue.isVoice c.voice)
    (hquiet : ∀ c ∈ i.speech, start.Lacks studio.options name c → studio.OpensQuietly)
    {r : Item × List Origin} (h : studio.produceItem name i s = .ok r s') :
    s'.Diligent ∧
      Store.Stocked studio.options name start ((i.speech.map Asset.base).reverse ++ taken)
        s'.world.store ∧
      r.2 = fates studio.options name start taken i.speech := by
  obtain ⟨produced, u, hcues, h⟩ := bind_eq_ok h
  obtain ⟨rfl, rfl⟩ := pure_eq_ok h
  exact stocked_of_cues hstudio hs hstock hname hvoice hquiet hcues

theorem origins_of_items {items : List Item}
    (hvoice : ∀ i ∈ items, ∀ c ∈ i.speech, Cue.isVoice c.voice)
    (hquiet : studio.OpensQuietly) {produced : List (Item × List Origin)}
    (h : items.mapM (studio.produceItem name) s = .ok produced s') :
    (produced.map (·.2)).flatten =
      fates studio.options name start taken (items.flatMap (·.speech)) := by
  induction items generalizing s taken produced with
  | nil =>
      obtain ⟨rfl, rfl⟩ := pure_eq_ok h
      rfl
  | cons i items ih =>
      obtain ⟨hi, hitems⟩ := List.forall_mem_cons.mp hvoice
      rw [List.mapM_cons] at h
      obtain ⟨r, t, hitem, h⟩ := bind_eq_ok h
      obtain ⟨rest, t', hrest, h⟩ := bind_eq_ok h
      obtain ⟨rfl, rfl⟩ := pure_eq_ok h
      obtain ⟨ht, hstock', horigins⟩ :=
        stocked_of_produceItem hstudio hs hstock hname hi (fun _ _ _ => hquiet) hitem
      rw [List.map_cons, List.flatten_cons, List.flatMap_cons, fates_append, horigins,
        ih ht hstock' hitems hrest]

end Course

/-- Where the way to the folder of the sounds goes by names, the cues of a timeline come by their
assets as the files at the start tell. -/
theorem origins_of_enrich (hstudio : studio.Diligent) (hquiet : studio.OpensQuietly)
    (hs : s.Diligent) (htree : s.world.store.Housed)
    (hroot : Path.Descends s.world.store.Leads studio.options.speechRoot) {t : Timeline}
    (ht : t.check = .ok ()) {r : Timeline × List Origin} (h : studio.enrich t s = .ok r s') :
    r.2 = fates studio.options t.name s.world.store [] (t.items.flatMap (·.speech)) := by
  obtain ⟨produced, u, hitems, h⟩ := bind_eq_ok h
  obtain ⟨rfl, rfl⟩ := pure_eq_ok h
  exact origins_of_items hstudio hs (.self htree hroot) (Timeline.check_eq_ok.mp ht).1
    (fun i hi c hc => Timeline.isVoice_of_check ht hi hc) hquiet hitems

end Studio

end Storyboard
