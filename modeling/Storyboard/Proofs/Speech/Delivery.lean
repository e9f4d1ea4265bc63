import Mathlib
import Storyboard.CommandLine.Execution
import Storyboard.Proofs.Speech.Naming
import Storyboard.Proofs.Speech.Repetition

/-!
Whether the sounds of a release are there. A command that speaks is asked for its file when it has
ended well, an encoder is not; so a release that succeeds delivers every sound whose encoder leaves
a file where it ends well, and may name a sound that is nowhere if an encoder does not.
-/

namespace Storyboard

/-! ### Addresses -/

namespace Path

theorem join_append (base : String) {front : String} (hne : front ≠ "") (part : String) :
    join base (front ++ part) = join base front ++ part := by
  have habsolute : isAbsolute (front ++ part) = isAbsolute front := by
    have hfront : front.toList ≠ [] := fun h => hne (String.toList_eq_nil_iff.mp h)
    rw [isAbsolute, isAbsolute, String.toList_append, List.head?_append_of_ne_nil _ hfront]
  simp only [join, habsolute]
  split
  · rfl
  · split <;> simp only [String.append_assoc]

theorem join_join (base : String) {part next : String} (hne : part ≠ "")
    (hpart : '/' ∉ part.toList) (hnext : '/' ∉ next.toList) :
    join (join base part) next = join base part ++ "/" ++ next := by
  obtain ⟨front, hjoin⟩ := exists_toList_join base part
  have hpart' : part.toList ≠ [] := fun h => hne (String.toList_eq_nil_iff.mp h)
  have hbase : join base part ≠ "" := by
    intro hempty
    rw [hempty] at hjoin
    exact hpart' (List.append_eq_nil_iff.mp hjoin.symm).2
  obtain ⟨between, ⟨_, hend⟩ | rfl, heq⟩ := exists_join_eq hnext hbase
  · rw [endsWithSlash, hjoin, List.getLast?_append_of_ne_nil _ hpart', beq_iff_eq] at hend
    exact absurd (List.mem_of_getLast? hend) hpart
  · exact heq

end Path

/-- Below the root of all that is served, the address of a sound leads to the asset of its cue. -/
theorem Asset.encoded_eq_join {o : StudioOptions} {name : String} {c : Cue}
    (hname : Timeline.checkName name = .ok ()) (hvoice : Cue.isVoice c.voice) :
    (ofCue o name c).encoded = Path.join o.publicRoot (c.sound o.format name).source := by
  have hslash : '/' ∉ name.toList := Studio.not_mem_of_checkName hname
  have hnonempty : name ≠ "" := by
    rintro rfl
    exact absurd hname (by decide)
  have hsource : (c.sound o.format name).source =
      "speech" ++ ("/" ++ name ++ ("/" ++ named (base c) o.format.extension)) := by
    simp only [Cue.sound, Attachment.plain, named, base, String.append_assoc]
    rfl
  rw [encoded_ofCue, hsource, Path.join_append _ (by decide),
    Path.join_join _ hnonempty hslash (not_mem_named hvoice o.format.extension_plain.2.2),
    StudioOptions.speechRoot, Path.join_join _ (by decide) (by decide) hslash]
  simp only [String.append_assoc]

/-! ### Sparing programs -/

/-- Nothing is taken away but speech that is not encoded. -/
structure Store.Spares (s s' : Store) : Prop where
  contains : ∀ {path : String}, (Path.place path).ending ≠ Asset.speechExtension.toList →
    s.contains path → s'.contains path

namespace Store.Spares

variable {s s' s'' : Store}

protected theorem refl (s : Store) : s.Spares s :=
  ⟨fun _ h => h⟩

protected theorem trans (h : s.Spares s') (h' : s'.Spares s'') : s.Spares s'' :=
  ⟨fun hend hs => h'.contains hend (h.contains hend hs)⟩

theorem of_keeps {W : Location → Prop} (h : s.Keeps W s') : s.Spares s' :=
  ⟨h.contains⟩

theorem of_find? (h : ∀ {l n}, s.find? l = some n → s'.find? l = some n) : s.Spares s' where
  contains _ hs := by
    obtain ⟨l, hl, hsome⟩ := contains_iff.mp hs
    obtain ⟨n, hn⟩ := Option.isSome_iff_exists.mp hsome
    exact contains_iff.mpr ⟨l, locate_mono (fun _ => h) hl, by rw [h hn]; rfl⟩

theorem of_addsDirectories (h : s.AddsDirectories s') : s.Spares s' :=
  of_find? h.node

theorem hasAsset (h : s.Spares s') {o : StudioOptions} {name : String} {c : Cue}
    (hs : s.HasAsset o name c) : s'.HasAsset o name c :=
  h.contains (Asset.ending_encoded_ne _ _ _) hs

theorem isCourse : Store.IsCourse Store.Spares where
  refl := .refl
  trans := .trans
  directories := of_addsDirectories
  removal hremove hending := of_keeps (W := fun _ => True) (.of_remove hremove trivial hending)
  hasAsset h := h.hasAsset

end Store.Spares

variable {σ : Type}

/-- Where a call of a program ends well, nothing was taken away but speech. -/
def Runner.Spares (runs : Runner σ) : Prop :=
  ∀ {call : ProgramCall} {w w' : World σ} {r : ProgramResult},
    runs call w = (.ok r, w') → r.status = .success → w.store.Spares w'.store

/-- Where a call of a program ends well, something stands at a path. -/
def Runner.Leaves (runs : Runner σ) (call : ProgramCall) (path : String) : Prop :=
  ∀ {w w' : World σ} {r : ProgramResult},
    runs call w = (.ok r, w') → r.status = .success → w'.store.contains path

/-- A studio whose synthesizers are commands and whose encoder is a program. -/
structure Studio.Employs (studio : Studio σ) (runs : Runner σ) (e : EncoderProgram) : Prop where
  opening : ∀ {w w' : World σ} {x : Synthesizer σ}, studio.openSynthesizer w = .ok x w' →
    w' = w ∧ ∃ c : SpeakerCommand, x = c.synthesizer runs
  encoding : studio.encoder.encode = e.encode runs

/-- The command line builds with such a studio. -/
theorem CommandLine.employs_studioOf (settings : Settings) (scripts publicRoot : String)
    (format : Option SpeechFormat) (encoder : Option String) (speaker : String)
    (input : ByteArray) :
    (studioOf settings scripts publicRoot format encoder speaker input).Employs
      (.ofPrograms (Program.runsIn settings.environment))
      ((encoder.map EncoderProgram.mk).getD (.ofSetting settings.encoder)) where
  opening h := by
    unfold studioOf at h
    dsimp only at h
    cases hcommand : SpeakerCommand.ofTemplate speaker with
    | ok c =>
        rw [hcommand] at h
        obtain ⟨rfl, rfl⟩ := pure_eq_ok h
        exact ⟨rfl, c, rfl⟩
    | error fault =>
        rw [hcommand] at h
        cases h
  encoding := rfl

variable {runs : Runner σ} {e : EncoderProgram} {studio : Studio σ}

namespace Studio.Employs

theorem along (hstudio : studio.Employs runs e) (hruns : runs.Spares) :
    studio.Along Store.Spares fun x => ∃ c : SpeakerCommand, x = c.synthesizer runs where
  opening h := by
    obtain ⟨rfl, hcommand⟩ := hstudio.opening h
    exact ⟨.refl _, hcommand⟩
  speaking hcommand h := by
    obtain ⟨c, rfl⟩ := hcommand
    obtain ⟨_, _, hadds, hcall, hstatus, -⟩ := SpeakerCommand.synthesize_eq_ok h
    exact .trans (.of_addsDirectories hadds) (hruns hcall hstatus)
  encoding h := by
    rw [hstudio.encoding] at h
    obtain ⟨_, _, hadds, hcall, hstatus⟩ := EncoderProgram.encode_eq_ok h
    exact .trans (.of_addsDirectories hadds) (hruns hcall hstatus)

theorem delivers (hstudio : studio.Employs runs e) {a : Asset}
    (hleaves : runs.Leaves (e.encodeCall a.speech a.encoded studio.options.format) a.encoded) :
    studio.Delivers a := by
  intro w w' h
  rw [hstudio.encoding] at h
  obtain ⟨_, _, _, hcall, hstatus⟩ := EncoderProgram.encode_eq_ok h
  exact hleaves hcall hstatus

end Studio.Employs

namespace Studio

variable {s s' : Session σ}

/-- A release that succeeds has put a sound in the place of every cue, and below the public root
there is something at the address of the sound if the call that encodes it leaves something
where it ends well. This needs no more of the programs than that they do not take away what is
there. -/
theorem release_delivers {t : Timeline} {r : Timeline × CatalogueEntry}
    (hstudio : studio.Employs runs e) (hruns : runs.Spares)
    (hsession : ∀ x ∈ s.synthesizer, ∃ c : SpeakerCommand, x = c.synthesizer runs)
    (h : studio.release t s = .ok r s') :
    r.1 = t.produced studio.options.format ∧ ∀ i ∈ t.items, ∀ c ∈ i.speech,
      runs.Leaves (e.encodeCall (Asset.ofCue studio.options t.name c).speech
        (Asset.ofCue studio.options t.name c).encoded studio.options.format)
        (Asset.ofCue studio.options t.name c).encoded →
      s'.world.store.contains
        (Path.join studio.options.publicRoot (c.sound studio.options.format t.name).source) := by
  obtain ⟨hcheck, enriched, s₁, w, henrich, hproduced, hdocument, hbundle, -, rfl⟩ :=
    parts_of_release h
  obtain ⟨-, hassets⟩ := enrich_along Store.Spares.isCourse (hstudio.along hruns) henrich hsession
  obtain ⟨hname, hitems⟩ := Timeline.check_eq_ok.mp hcheck
  refine ⟨hproduced, fun i hi c hc hleaves => ?_⟩
  have hcues := (Item.checkSound_eq_ok.mp (Item.checkSound_of_check (hitems i hi))).1
  have hvoice := (Cue.check_eq_ok.mp (hcues c hc)).1
  rw [← Asset.encoded_eq_join hname hvoice]
  have hwritten := (Act.writeText_eq_ok (W := fun _ => True) hdocument trivial
    (isPlace_documentPath _ _)).1.trans
    (Act.writeText_eq_ok hbundle trivial (isPlace_bundlePath _ _)).1
  exact hwritten.hasAsset (hassets i hi c hc (hstudio.delivers hleaves))

/-- A studio with a command that is told which file to write, and with the usual encoder. -/
def staffed (runs : Runner Unit) : Studio Unit where
  options := ⟨"p", "t", .opus⟩
  openSynthesizer := pure (SpeakerCommand.synthesizer runs ⟨"speak", [SpeakerCommand.fileMark]⟩)
  encoder := EncoderProgram.standard.encoder runs .empty

theorem employs_staffed (runs : Runner Unit) : (staffed runs).Employs runs .standard where
  opening h := by
    obtain ⟨rfl, rfl⟩ := pure_eq_ok h
    exact ⟨rfl, _, rfl⟩
  encoding := rfl

theorem spares_touching : touching.Spares := by
  intro call w w' r h _
  obtain ⟨l, _, hnone, hfixed, hstore⟩ := touching_eq_ok h
  rw [hstore]
  refine .of_find? fun {m n} hm => ?_
  rw [Store.find?_put _ hfixed, if_neg]
  · exact hm
  · rintro rfl
    rw [hnone] at hm
    cases hm

theorem release_delivers_greeting :
    ∃ r s', (staffed touching).release greeting (.start ⟨.empty, ()⟩) = .ok r s' ∧
      ∃ i ∈ greeting.items, ∃ c ∈ i.speech,
        s'.world.store.contains (Path.join "p" (c.sound .opus "d").source) := by
  have hrun : (((staffed touching).release greeting).run' (.start ⟨.empty, ()⟩)).isSome := by
    decide +kernel
  obtain ⟨r, hr⟩ := Option.isSome_iff_exists.mp hrun
  obtain ⟨s', hs'⟩ := exists_of_run'_eq_some hr
  obtain ⟨_, hsounds⟩ := release_delivers (employs_staffed _) spares_touching
    (by rintro x ⟨⟩) hs'
  have hleaves {call : ProgramCall} {path : String} (hlast : call.arguments.getLast? = some path) :
      touching.Leaves call path :=
    fun hcall hstatus => (makes_touching hlast hcall hstatus).contains
  exact ⟨r, s', hs', _, List.mem_singleton_self _, _, List.mem_singleton_self _,
    hsounds _ (List.mem_singleton_self _) _ (List.mem_singleton_self _)
      (hleaves List.getLast?_concat)⟩

/-- Programs like the touching ones, but for the usual encoder, which ends well without a file. -/
def neglecting : Runner Unit := fun call w =>
  if call.program = EncoderProgram.standard.program then (.ok ⟨.success, .empty, .empty, 0⟩, w)
  else touching call w

theorem spares_neglecting : neglecting.Spares := by
  intro call w w' r h hstatus
  unfold neglecting at h
  split at h
  · cases h
    exact .refl _
  · exact spares_touching h hstatus

/-- An encoder that makes nothing goes unnoticed: the release succeeds, and the sound that it names
is nowhere. -/
theorem release_delivers_fails :
    neglecting.Spares ∧ (staffed neglecting).Employs neglecting .standard ∧
      ∃ r s', (staffed neglecting).release greeting (.start ⟨.empty, ()⟩) = .ok r s' ∧
        r.1 = greeting.produced .opus ∧ ∃ i ∈ greeting.items, ∃ c ∈ i.speech,
          s'.world.store.contains (Path.join "p" (c.sound .opus "d").source) = false := by
  refine ⟨spares_neglecting, employs_staffed _, ?_⟩
  have hrun : (((staffed neglecting).release greeting).run' (.start ⟨.empty, ()⟩)).map (·.1) =
      some (greeting.produced .opus) := by
    decide +kernel
  obtain ⟨r, hr, hproduced⟩ := Option.map_eq_some_iff.mp hrun
  obtain ⟨s', hs'⟩ := exists_of_run'_eq_some hr
  have hnowhere :
      (after ((staffed neglecting).release greeting) (.start ⟨.empty, ()⟩)).world.store.contains
        (Path.join "p" ((⟨"", "v", .inEnd, .zero⟩ : Cue).sound .opus "d").source) = false := by
    decide +kernel
  rw [after_of_ok hs'] at hnowhere
  exact ⟨r, s', hs', hproduced, _, List.mem_singleton_self _, _, List.mem_singleton_self _,
    hnowhere⟩

end Studio

end Storyboard
