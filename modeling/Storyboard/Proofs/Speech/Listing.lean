import Mathlib
import Storyboard.Proofs.Script.Discovery
import Storyboard.Proofs.Speech.Contest

/-!
Runs, and the order in which the files of a store are listed. The scripts of a run have their turns
in the order of their names, and the first one of a name is the one that is attempted. Where the
parties do not look at the order of a listing, neither does the run.
-/

namespace Storyboard

variable {σ α β : Type}

/-! ### Turns -/

/-- The turn of a script in a run: the session that it found, and what became of the script. -/
structure Turn (σ : Type) where
  path : String
  session : Session σ
  outcome : Except Error CatalogueEntry

/-- The name that the script asked for at its turn. -/
def Turn.title? (t : Turn σ) : Option String :=
  t.session.world.store.titleOf? t.path

namespace Studio

variable {studio : Studio σ} {s s' : Session σ} {taken taken' scripts : List String} {path : String}

/-- What becomes of a script where some names are taken: its timeline is attempted, unless it stands
for none or the name is taken. -/
def due (studio : Studio σ) (taken : List String) (path : String) (s : Session σ) :
    Except Error CatalogueEntry :=
  match s.world.store.offer path with
  | .error e => .error e
  | .ok timeline =>
    if timeline.name ∈ taken then .error (.duplicateName timeline.name)
    else (outcomeOf (studio.release timeline) s).map (·.2)

theorem due_congr (h : ∀ name, name ∈ taken ↔ name ∈ taken') :
    studio.due taken path s = studio.due taken' path s := by
  simp only [due, h]

/-- One script in a run: from then on the name is taken that it asks for. -/
theorem exists_releaseScript_due (studio : Studio σ) (taken : List String) (path : String)
    (s : Session σ) :
    ∃ taken' s', studio.releaseScript taken path s = .ok (taken', studio.due taken path s) s' ∧
      ∀ name, name ∈ taken' ↔ s.world.store.titleOf? path = some name ∨ name ∈ taken := by
  unfold due Store.titleOf?
  cases hoffer : s.world.store.offer path with
  | error e =>
      exact ⟨taken, s, releaseScript_of_offer_error hoffer, by simp [Except.toOption]⟩
  | ok timeline =>
      by_cases htaken : timeline.name ∈ taken
      · simp only [if_pos htaken]
        refine ⟨taken, s, releaseScript_of_mem hoffer htaken, fun name => ?_⟩
        rw [Except.toOption, Option.map_some, Option.some.injEq]
        exact ⟨.inr, fun h => h.elim (fun hname => hname ▸ htaken) id⟩
      · simp only [if_neg htaken]
        refine ⟨_, _, releaseScript_of_not_mem hoffer htaken, fun name => ?_⟩
        rw [Except.toOption, Option.map_some, Option.some.injEq, List.mem_cons, eq_comm]

/-- Releases some scripts, and tells of their turns. -/
def turns (studio : Studio σ) : List String → List String → Build σ (List (Turn σ))
  | _, [] => return []
  | taken, path :: rest => do
    let session ← get
    let (taken, outcome) ← studio.releaseScript taken path
    Build.noteOutcome path outcome
    let turns ← studio.turns taken rest
    return ⟨path, session, outcome⟩ :: turns

theorem turns_cons_of_ok {outcome : Except Error CatalogueEntry}
    (h : studio.releaseScript taken path s = .ok (taken', outcome) s') (rest : List String) :
    studio.turns taken (path :: rest) s = (do
      Build.noteOutcome path outcome
      let turns ← studio.turns taken' rest
      return (⟨path, s, outcome⟩ : Turn σ) :: turns : Build σ (List (Turn σ))) s' := by
  change (studio.releaseScript taken path >>= _) s = _
  rw [bind_of_ok h]

/-- A run over some scripts is made of their turns. -/
theorem exists_turns {outcomes : List (String × Except Error CatalogueEntry)}
    (h : studio.releaseScripts taken scripts s = .ok outcomes s') :
    ∃ turns, studio.turns taken scripts s = .ok turns s' ∧
      turns.map (fun t => (t.path, t.outcome)) = outcomes := by
  induction scripts generalizing taken s outcomes with
  | nil =>
      obtain ⟨rfl, rfl⟩ := pure_eq_ok h
      exact ⟨[], rfl, rfl⟩
  | cons path rest ih =>
      rw [releaseScripts_cons] at h
      obtain ⟨⟨taken', outcome⟩, s₁, hscript, h⟩ := bind_eq_ok h
      obtain ⟨_, s₂, hnote, h⟩ := bind_eq_ok h
      obtain ⟨others, s₃, hothers, h⟩ := bind_eq_ok h
      obtain ⟨rfl, rfl⟩ := pure_eq_ok h
      obtain ⟨turns, hturns, rfl⟩ := ih hothers
      refine ⟨⟨path, s, outcome⟩ :: turns, ?_, rfl⟩
      rw [turns_cons_of_ok hscript, bind_of_ok hnote, bind_of_ok hturns]
      rfl

/-- At the turn of a script, the names are taken that were asked for before. -/
theorem outcome_of_turns {turns before rest : List (Turn σ)} {t : Turn σ}
    (h : studio.turns taken scripts s = .ok turns s') (hturns : turns = before ++ t :: rest) :
    t.outcome = studio.due (before.filterMap Turn.title? ++ taken) t.path t.session := by
  induction scripts generalizing taken s turns before with
  | nil =>
      obtain ⟨rfl, _⟩ := pure_eq_ok h
      simp at hturns
  | cons path others ih =>
      obtain ⟨more, s₁, hscript, hmore⟩ := exists_releaseScript_due studio taken path s
      rw [turns_cons_of_ok hscript] at h
      obtain ⟨_, s₂, _, h⟩ := bind_eq_ok h
      obtain ⟨later, s₃, hlater, h⟩ := bind_eq_ok h
      obtain ⟨rfl, rfl⟩ := pure_eq_ok h
      cases before with
      | nil =>
          cases hturns
          rfl
      | cons first before =>
          obtain ⟨rfl, hrest⟩ := List.cons.inj hturns
          rw [ih hlater hrest]
          refine due_congr fun name => ?_
          have htitle : Turn.title? ⟨path, s, studio.due taken path s⟩ =
              s.world.store.titleOf? path := rfl
          simp only [List.mem_append, List.mem_filterMap, List.exists_mem_cons_iff, hmore, htitle]
          rw [or_left_comm, or_assoc]

end Studio

/-! ### Parties that do not look at the order of a listing -/

/-- Worlds with the same files, in whatever order each of them lists these. -/
structure World.Relisted (w w' : World σ) : Prop where
  store : w.store.Relisted w'.store
  own : w.own = w'.own

/-- An act that does the same in whatever order the files are listed. -/
def Act.Blind (a : Act σ α) : Prop :=
  ∀ ⦃w w'⦄, w.Relisted w' → Agree World.Relisted World.Relisted a w w'

def Synthesizer.Blind (x : Synthesizer σ) : Prop :=
  ∀ text voice speech, (x.synthesize text voice speech).Blind

structure Studio.Blind (studio : Studio σ) : Prop where
  available : studio.encoder.available.Blind
  opening : studio.openSynthesizer.Blind
  opened : ∀ {w w' x}, studio.openSynthesizer w = .ok x w' → x.Blind
  encoding : ∀ speech target format, (studio.encoder.encode speech target format).Blind

/-- Sessions that differ at most in the order in which the files are listed. -/
structure Session.Relisted (s t : Session σ) : Prop where
  world : s.world.Relisted t.world
  synthesizer : s.synthesizer = t.synthesizer
  blind : ∀ x ∈ s.synthesizer, x.Blind
  opened : s.opened = t.opened
  events : s.events = t.events

/-- What is done in a session is the same in whatever order the files are listed. -/
def Build.Blind (b : Build σ α) : Prop :=
  ∀ ⦃s t⦄, s.Relisted t → Agree Session.Relisted Session.Relisted b s t

namespace Act

theorem blind_changing {error : FileError → Error} {change : Store → Except FileError Store}
    (h : ∀ ⦃u v : Store⦄, u.Relisted v → Store.BothChange (change u) (change v)) :
    (changing error change : Act σ Unit).Blind := by
  intro w w' hw
  unfold Agree
  rw [changing, store_bind, store_bind]
  rcases h hw.store with ⟨cause, hs, ht⟩ | ⟨u, v, hs, ht, huv⟩
  · rw [hs, ht]
    exact .inr ⟨error cause, w, w', rfl, rfl, hw⟩
  · rw [hs, ht]
    exact .inl ⟨(), _, _, rfl, rfl, huv, hw.own⟩

theorem blind_makeParent (path : String) : (makeParent path : Act σ Unit).Blind := by
  intro w w' hw
  unfold Agree
  cases hparent : Path.parent? path with
  | none =>
      rw [makeParent_of_none hparent]
      exact .inl ⟨(), w, w', rfl, rfl, hw⟩
  | some folder =>
      rw [makeParent_eq hparent, makeParent_eq hparent]
      obtain ⟨hresult, hst⟩ := hw.store.makeDirectories folder
      generalize w.store.makeDirectories folder = made at hresult hst
      generalize w'.store.makeDirectories folder = made' at hresult hst
      obtain ⟨result, u⟩ := made
      obtain ⟨result', v⟩ := made'
      dsimp only at hresult hst
      subst hresult
      cases result with
      | ok _ => exact .inl ⟨(), _, _, rfl, rfl, hst, hw.own⟩
      | error cause => exact .inr ⟨_, _, _, rfl, rfl, hst, hw.own⟩

theorem blind_writeText (path text : String) : (writeText path text : Act σ Unit).Blind := by
  intro w w' hw
  rw [writeText_eq]
  refine (blind_makeParent path hw).bind fun hw => ?_
  exact blind_changing (fun _ _ huv => huv.writeText path text) hw

end Act

namespace Build

theorem blind_pure (a : α) : (pure a : Build σ α).Blind :=
  fun _ _ h => .pure h

theorem Blind.bind {b : Build σ α} {f : α → Build σ β} (hb : b.Blind) (hf : ∀ a, (f a).Blind) :
    (b >>= f).Blind :=
  fun _ _ h => (hb h).bind fun h => hf _ h

theorem blind_mapM {f : α → Build σ β} (hf : ∀ a, (f a).Blind) (as : List α) :
    (as.mapM f).Blind :=
  fun _ _ h => Agree.mapM (fun a _ _ _ h => hf a h) h

theorem blind_act {a : Act σ α} (ha : a.Blind) : (act a).Blind := by
  intro s t h
  unfold Agree act
  rcases ha h.world with ⟨x, w, w', hw, hw', hworld⟩ | ⟨e, w, w', hw, hw', hworld⟩
  · rw [hw, hw']
    exact .inl ⟨x, _, _, rfl, rfl, hworld, h.synthesizer, h.blind, h.opened, h.events⟩
  · rw [hw, hw']
    exact .inr ⟨e, _, _, rfl, rfl, hworld, h.synthesizer, h.blind, h.opened, h.events⟩

theorem blind_note (e : BuildEvent) : (note e : Build σ Unit).Blind :=
  fun _ _ h => .inl ⟨(), _, _, rfl, rfl, h.world, h.synthesizer, h.blind, h.opened,
    congrArg (· ++ [e]) h.events⟩

theorem blind_noteOutcome (path : String) (outcome : Except Error CatalogueEntry) :
    (noteOutcome path outcome : Build σ Unit).Blind := by
  cases outcome with
  | ok entry => exact blind_pure ()
  | error e => exact blind_note _

theorem blind_attempt {b : Build σ α} (hb : b.Blind) : b.attempt.Blind := by
  intro s t h
  refine .inl ⟨outcomeOf b s, _, _, attempt_eq b s, ?_, (hb h).after⟩
  rw [attempt_eq, (hb h).outcomeOf_eq]

/-- What is done with the files is the same if it depends on what is found in them. -/
theorem blind_store_bind {f : Store → Build σ α}
    (hf : ∀ {u v : Store}, u.Relisted v → f u = f v) (hblind : ∀ u, (f u).Blind) :
    (act Act.store >>= f).Blind := by
  intro s t h
  unfold Agree
  rw [act_store_bind, act_store_bind, ← hf h.world.store]
  exact hblind _ h

end Build

namespace Studio

variable {studio : Studio σ}

theorem blind_discard (a : Asset) : (discard a : Build σ Unit).Blind := by
  intro s t h
  unfold Agree
  rw [discard_eq, discard_eq]
  rcases h.world.store.remove a.speech with ⟨cause, hs, ht⟩ | ⟨u, v, hs, ht, huv⟩
  · rw [hs, ht]
    exact .inl ⟨(), _, _, rfl, rfl, h.world, h.synthesizer, h.blind, h.opened,
      congrArg (· ++ [_]) h.events⟩
  · rw [hs, ht]
    exact .inl ⟨(), _, _, rfl, rfl, ⟨huv, h.world.own⟩, h.synthesizer, h.blind, h.opened,
      congrArg (· ++ [_]) h.events⟩

variable (hstudio : studio.Blind)

include hstudio

theorem blind_synthesize (a : Asset) : (do
    let opened ← studio.synthesizer a
    Build.act (opened.synthesize a.text a.voice a.speech) : Build σ Unit).Blind := by
  intro s t h
  have hsynthesizer := h.synthesizer
  cases hopened : s.synthesizer with
  | some x =>
      rw [hopened] at hsynthesizer
      have hs : studio.synthesizer a s = .ok x s := by rw [synthesizer_eq, hopened]
      have ht : studio.synthesizer a t = .ok x t := by rw [synthesizer_eq, ← hsynthesizer]
      unfold Agree
      rw [bind_of_ok hs, bind_of_ok ht]
      exact Build.blind_act (h.blind x hopened _ _ _) h
  | none =>
      rw [hopened] at hsynthesizer
      rcases hstudio.opening h.world with ⟨x, w, w', hw, hw', hworld⟩ | ⟨e, w, w', hw, hw', hworld⟩
      · have hs := synthesizer_eq studio a s
        have ht := synthesizer_eq studio a t
        rw [hopened, hw] at hs
        rw [← hsynthesizer, hw'] at ht
        have hblind := hstudio.opened hw
        unfold Agree
        rw [bind_of_ok hs, bind_of_ok ht]
        refine Build.blind_act (hblind _ _ _) ⟨hworld, rfl, ?_, congrArg (· + 1) h.opened,
          congrArg (· ++ [_]) h.events⟩
        rintro _ ⟨⟩
        exact hblind
      · have hs := synthesizer_eq studio a s
        have ht := synthesizer_eq studio a t
        rw [hopened, hw] at hs
        rw [← hsynthesizer, hw'] at ht
        exact .inr ⟨e, _, _, bind_of_error hs _, bind_of_error ht _, hworld, rfl,
          (by rintro _ ⟨⟩), h.opened, h.events⟩

theorem blind_speak (a : Asset) : (studio.speak a).Blind := by
  refine Build.blind_store_bind (fun huv => by rw [huv.contains_eq]) fun u => ?_
  split
  · exact Build.blind_pure _
  · refine (Build.blind_note _).bind fun _ => ?_
    refine (Build.blind_act (Act.blind_makeParent _)).bind fun _ => ?_
    have hspoken := (blind_synthesize hstudio a).bind fun _ => Build.blind_pure Origin.synthesized
    rwa [bind_assoc] at hspoken

theorem blind_produce (a : Asset) : (studio.produce a).Blind := by
  refine Build.blind_store_bind (fun huv => by rw [huv.contains_eq]) fun u => ?_
  split
  · exact (Build.blind_note _).bind fun _ => Build.blind_pure _
  · refine (blind_speak hstudio a).bind fun _ => ?_
    refine (Build.blind_act (hstudio.encoding _ _ _)).bind fun _ => ?_
    exact (blind_discard a).bind fun _ => Build.blind_pure _

theorem blind_enrich (t : Timeline) : (studio.enrich t).Blind := by
  refine (Build.blind_mapM (fun i => ?_) _).bind fun _ => Build.blind_pure _
  refine (Build.blind_mapM (fun c => ?_) _).bind fun _ => Build.blind_pure _
  exact (blind_produce hstudio _).bind fun _ => Build.blind_pure _

theorem blind_release (t : Timeline) : (studio.release t).Blind := by
  unfold release releaseOn
  cases t.check with
  | error fault => exact fun s t h => .inr ⟨_, s, t, rfl, rfl, h⟩
  | ok u =>
      refine (blind_enrich hstudio t).bind fun _ => ?_
      refine (Build.blind_act (Act.blind_writeText _ _)).bind fun _ => ?_
      refine (Build.blind_act (Act.blind_writeText _ _)).bind fun _ => ?_
      exact (Build.blind_note _).bind fun _ => Build.blind_pure _

theorem blind_releaseScript (taken : List String) (path : String) :
    (studio.releaseScript taken path).Blind := by
  refine Build.blind_store_bind (fun huv => by rw [huv.readText_eq]) fun u => ?_
  split
  · exact Build.blind_pure _
  · split
    · exact Build.blind_pure _
    · split
      · exact Build.blind_pure _
      · exact (Build.blind_attempt (blind_release hstudio _)).bind fun _ => Build.blind_pure _

theorem blind_releaseScripts (taken scripts : List String) :
    (studio.releaseScripts taken scripts).Blind := by
  induction scripts generalizing taken with
  | nil => exact Build.blind_pure _
  | cons path rest ih =>
      rw [releaseScripts_cons]
      refine (blind_releaseScript hstudio taken path).bind fun _ => ?_
      refine (Build.blind_noteOutcome _ _).bind fun _ => ?_
      exact (ih _).bind fun _ => Build.blind_pure _

theorem blind_releaseAll : studio.releaseAll.Blind := by
  have hfolder : studio.releaseFolder.Blind := by
    refine (Build.blind_act hstudio.available).bind fun _ => ?_
    refine Build.blind_store_bind (fun huv => by rw [huv.discover_eq]) fun u => ?_
    split
    · exact fun s t h => .inr ⟨_, s, t, rfl, rfl, h⟩
    · exact (Build.blind_note _).bind fun _ => blind_releaseScripts hstudio _ _
  refine hfolder.bind fun _ => ?_
  refine (Build.blind_act (Act.blind_writeText _ _)).bind fun _ => ?_
  exact (Build.blind_note _).bind fun _ => Build.blind_pure _

end Studio

/-! ### Parties that are programs -/

/-- Programs that give the same result, and leave the same files, in whatever order the files are
listed. -/
def Runner.Blind (runs : Runner σ) : Prop :=
  ∀ (call : ProgramCall) ⦃w w' : World σ⦄, w.Relisted w' →
    (runs call w).1 = (runs call w').1 ∧ (runs call w).2.Relisted (runs call w').2

namespace Act

theorem blind_pure (a : α) : (pure a : Act σ α).Blind :=
  fun _ _ h => .pure h

theorem blind_throw (e : Error) : (throw e : Act σ α).Blind :=
  fun w w' h => .inr ⟨e, w, w', rfl, rfl, h⟩

theorem Blind.bind {a : Act σ α} {f : α → Act σ β} (ha : a.Blind) (hf : ∀ x, (f x).Blind) :
    (a >>= f).Blind :=
  fun _ _ h => (ha h).bind fun h => hf _ h

theorem blind_call {runs : Runner σ} (hruns : runs.Blind) (c : ProgramCall) :
    (call runs c).Blind := by
  intro w w' h
  obtain ⟨hresult, hworld⟩ := hruns c h
  refine .inl ⟨(runs c w).1, (runs c w).2, (runs c w').2, rfl, ?_, hworld⟩
  rw [hresult]
  rfl

/-- What is done with the result of a call is the same if it depends on nothing else. -/
theorem blind_call_bind {runs : Runner σ} (hruns : runs.Blind) {c : ProgramCall}
    {refused : FileError → Error} {f : ProgramResult → Act σ α} (hf : ∀ r, (f r).Blind) :
    (do
      match ← call runs c with
      | .error cause => throw (refused cause)
      | .ok r => f r).Blind := by
  refine (blind_call hruns c).bind fun result => ?_
  cases result with
  | error cause => exact blind_throw _
  | ok r => exact hf r

theorem blind_contains_bind {path : String} {f : Bool → Act σ α} (hf : ∀ x, (f x).Blind) :
    (store >>= fun s => f (s.contains path)).Blind := by
  intro w w' h
  unfold Agree
  rw [store_bind, store_bind, ← h.store.contains_eq]
  exact hf _ h

end Act

section Programs

variable {runs : Runner σ} (hruns : runs.Blind)

include hruns

theorem EncoderProgram.blind_available (e : EncoderProgram) (input : ByteArray) :
    (e.available runs input).Blind := by
  refine (Act.blind_call hruns _).bind fun result => ?_
  cases result with
  | error cause => exact Act.blind_throw _
  | ok r =>
      dsimp only
      split
      · exact Act.blind_throw _
      · exact Act.blind_pure _

theorem EncoderProgram.blind_encode (e : EncoderProgram) (speech target : String)
    (format : SpeechFormat) : (e.encode runs speech target format).Blind := by
  refine (Act.blind_makeParent target).bind fun _ => Act.blind_call_bind hruns fun r => ?_
  split
  · exact Act.blind_throw _
  · exact Act.blind_pure _

theorem SpeakerCommand.blind_synthesizer (c : SpeakerCommand) : (c.synthesizer runs).Blind := by
  intro text voice speech
  refine (Act.blind_makeParent speech).bind fun _ => Act.blind_call_bind hruns fun r => ?_
  split
  · exact Act.blind_throw _
  · split
    · exact Act.blind_throw _
    · refine Act.blind_contains_bind (f := fun there => if !there then
        throw (.noSpeechFile speech) else pure ()) fun there => ?_
      cases there with
      | true => exact Act.blind_pure _
      | false => exact Act.blind_throw _

/-- A studio whose parties are programs does not look at the order of a listing if these do not. -/
theorem Studio.blind_of_programs (o : StudioOptions) (c : SpeakerCommand) (e : EncoderProgram)
    (input : ByteArray) :
    (⟨o, pure (c.synthesizer runs), e.encoder runs input⟩ : Studio σ).Blind := by
  refine ⟨e.blind_available hruns input, Act.blind_pure _, ?_, e.blind_encode hruns⟩
  intro w w' x h
  obtain ⟨rfl, _⟩ := pure_eq_ok h
  exact c.blind_synthesizer hruns

end Programs

/-! ### The order of a run -/

/-- A run has taken the scripts of its folder by the order of their names. The report tells of them
in this order, and at its turn each of them had what was due to it: its timeline was attempted,
unless a script before it had asked for the name. -/
structure Studio.TakesTurns (studio : Studio σ) (s : Session σ) (report : RunReport) (w : World σ)
    (names : List String) (turns : List (Turn σ)) : Prop where
  available : studio.encoder.available s.world = .ok () w
  lists : Script.Lists w.store studio.options.scriptFolder names
  turns_eq : ∃ s', studio.turns [] (names.map (Path.join studio.options.scriptFolder))
    { s with world := w, events := s.events ++ [.started names.length] } = .ok turns s'
  paths : turns.map (·.path) = names.map (Path.join studio.options.scriptFolder)
  outcomes : report.outcomes = turns.map fun t => (t.path, t.outcome)
  dealt : Dealt (turns.map (·.path)) report.built report.failures
  due : ∀ before t rest, turns = before ++ t :: rest →
    t.outcome = studio.due (before.filterMap Turn.title?) t.path t.session

namespace Studio

variable {studio : Studio σ} {s s' : Session σ} {report : RunReport}

theorem exists_takesTurns (h : studio.releaseAll s = .ok report s') :
    ∃ w names turns, studio.TakesTurns s report w names turns := by
  obtain ⟨w, scripts, havailable, hdiscover⟩ := exists_of_releaseAll h
  rw [releaseAll_of_discover havailable hdiscover] at h
  obtain ⟨outcomes, s₁, hscripts, h⟩ := bind_eq_ok h
  obtain ⟨_, s₂, _, h⟩ := bind_eq_ok h
  rw [Build.note_bind] at h
  obtain ⟨rfl, _⟩ := pure_eq_ok h
  obtain ⟨names, hlists, rfl⟩ := Script.exists_lists_of_discover hdiscover
  obtain ⟨turns, hturns, rfl⟩ := exists_turns hscripts
  have hpaths := (releaseScripts_names hscripts (cataloguePath studio.options)).1
  have hdealt := RunReport.dealt (turns.map fun t => (t.path, t.outcome))
    (cataloguePath studio.options)
  rw [List.map_map] at hpaths hdealt
  rw [List.length_map] at hturns
  refine ⟨w, names, turns, havailable, hlists, ⟨_, hturns⟩, hpaths, rfl, hdealt, ?_⟩
  intro before t rest hsplit
  rw [outcome_of_turns hturns hsplit, List.append_nil]

/-- The scripts of a directory are discovered by the bytes of their names, in whatever order it
lists them; in this order they have their turns in a run, so that the first one of a name is the one
that is attempted. Where no party looks at the order of a listing, runs over the same files end with
the same report, or fail for the same reason, and with the same events in the same order. -/
theorem releaseAll_in_order (studio : Studio σ) :
    (∀ (s : Store) (folder : String), s.isDirectory folder → ∃ names, Script.Lists s folder names ∧
      ∀ t, s.Relisted t → Script.discover t folder = .ok (names.map (Path.join folder))) ∧
    (∀ (s s' : Session σ) (report : RunReport), studio.releaseAll s = .ok report s' →
      ∃ w names turns, studio.TakesTurns s report w names turns) ∧
    (studio.Blind → ∀ s t : Session σ, s.Relisted t →
      outcomeOf studio.releaseAll s = outcomeOf studio.releaseAll t ∧
      (after studio.releaseAll s).Relisted (after studio.releaseAll t)) := by
  refine ⟨fun s folder h => ?_, fun _ _ _ => exists_takesTurns, fun hstudio s t h => ?_⟩
  · refine ⟨_, Script.lists_listed s folder, fun t hst => ?_⟩
    rw [← hst.discover_eq, Script.discover_eq_listed h]
  · have hagree := blind_releaseAll hstudio h
    exact ⟨hagree.outcomeOf_eq, hagree.after⟩

theorem blind_touching : touching.Blind := by
  intro call w w' h
  unfold touching
  rw [h.store.locate_eq]
  cases w'.store.locate (call.arguments.getLast?.getD "") with
  | error cause => exact ⟨rfl, h⟩
  | ok l =>
      dsimp only
      rw [h.store.find?_eq]
      split
      · exact ⟨rfl, h⟩
      · exact ⟨rfl, h.store.put _ _, h.own⟩

/-- A studio whose speaker and encoder are programs that make empty files. -/
def programmed : Studio Unit :=
  ⟨⟨"p", "t", .opus⟩,
    pure (SpeakerCommand.synthesizer touching ⟨"speak", [SpeakerCommand.fileMark]⟩),
    EncoderProgram.standard.encoder touching .empty⟩

/-- The scripts of a folder, listed the other way round. -/
def fourScriptsReversed : Store :=
  ⟨fourScripts.entries.reverse, by
    rw [List.map_reverse, List.nodup_reverse]
    exact fourScripts.nodup⟩

/-- Of two scripts of one name the first is built, in whatever order they are listed. -/
theorem releaseAll_in_order_fourScripts :
    ∃ report s', programmed.releaseAll (.start ⟨fourScripts, ()⟩) = .ok report s' ∧
      (report.outcomes.map fun o => (o.1, o.2.toOption.map (·.name))) =
        [("t/a.timeline", some "b"), ("t/b.timeline", none), ("t/c.timeline", some "c"),
          ("t/d.timeline", some "a")] ∧
      (∃ w names turns, programmed.TakesTurns (.start ⟨fourScripts, ()⟩) report w names turns) ∧
      (∃ names, Script.Lists fourScripts "t" names ∧
        Script.discover fourScriptsReversed "t" = .ok (names.map (Path.join "t"))) ∧
      outcomeOf programmed.releaseAll (.start ⟨fourScriptsReversed, ()⟩) = .ok report := by
  have hdiscover : Script.discover (fourScripts.put ["-version"] (.file .empty false)) "t" =
      .ok ["t/a.timeline", "t/b.timeline", "t/c.timeline", "t/d.timeline"] :=
    Script.discover_of_pairwise ["t"] ["a.timeline", "b.timeline", "c.timeline", "d.timeline"]
      (by decide +kernel) (by decide +kernel) (by decide +kernel) (by decide +kernel)
      (by decide +kernel)
  obtain ⟨report, s', hrun, htold⟩ := exists_of_discover (s := .start ⟨fourScripts, ()⟩) programmed
    (fun report => report.outcomes.map fun o => (o.1, o.2.toOption.map (·.name)))
    [("t/a.timeline", some "b"), ("t/b.timeline", none), ("t/c.timeline", some "c"),
      ("t/d.timeline", some "a")] rfl hdiscover (by decide +kernel)
  have hrelisted : fourScripts.Relisted fourScriptsReversed := (List.reverse_perm _).symm
  obtain ⟨hlists, hturns, hsame⟩ := releaseAll_in_order programmed
  obtain ⟨names, hnames, hdiscovered⟩ := hlists fourScripts "t" (by decide +kernel)
  have hsessions : Session.Relisted (.start ⟨fourScripts, ()⟩) (.start ⟨fourScriptsReversed, ()⟩) :=
    ⟨⟨hrelisted, rfl⟩, rfl, (by rintro _ ⟨⟩), rfl, rfl⟩
  obtain ⟨houtcome, _⟩ := hsame (blind_of_programs blind_touching _ _ _ _) _ _ hsessions
  refine ⟨report, s', hrun, htold, hturns _ _ _ hrun, ⟨names, hnames, hdiscovered _ hrelisted⟩, ?_⟩
  rw [← houtcome, outcomeOf, hrun]

end Studio

end Storyboard
