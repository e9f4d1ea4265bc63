import Mathlib
import Storyboard.Proofs.Speech.Observation
import Storyboard.Proofs.Speech.Stock

/-!
Nothing is made twice. A release asks for an asset once, however many of its cues share it, and only
if the asset was missing at the start; a studio opens one synthesizer, whatever it builds and
whatever fails, and only for a cue that has neither speech nor encoded speech.
-/

namespace Storyboard

/-! ### What a timeline asks for -/

def Timeline.cues (t : Timeline) : List Cue :=
  t.items.flatMap (·.speech)

theorem Timeline.length_cues (t : Timeline) : t.cues.length = t.cueCount := by
  rw [cues, List.length_flatMap]
  rfl

/-- The cues whose encoded speech is not there, the first one of each name. -/
def Store.missing (s : Store) (o : StudioOptions) (t : Timeline) : List Cue :=
  (t.cues.filter fun c => !s.contains (Asset.ofCue o t.name c).encoded).eraseDupsBy
    fun c d => Asset.base c == Asset.base d

/-- What is to be asked for a cue whose encoded speech is not there. -/
def Store.demand (s : Store) (o : StudioOptions) (name : String) (c : Cue) : List PartyCall :=
  let a := Asset.ofCue o name c
  if s.contains a.speech then [.encode a.speech a.encoded o.format]
  else [.synthesize a.text a.voice a.speech, .encode a.speech a.encoded o.format]

structure BuildCounts.Tally (n : BuildCounts) (t : Timeline) (calls : List PartyCall) : Prop where
  cues : n.cues = t.cueCount
  cached : n.cached + n.encoded = n.cues
  encoded : n.encoded = calls.countP PartyCall.isEncode
  synthesized : n.synthesized = calls.countP PartyCall.isSynthesize

namespace Studio

variable {o : StudioOptions} {name : String} {start : Store}

theorem requests_fate {taken : List String} {c : Cue} :
    requests o.format (.ofCue o name c) (fate o name start taken c) =
      if start.contains (Asset.ofCue o name c).encoded ∨ Asset.base c ∈ taken then []
      else start.demand o name c := by
  rw [fate, Store.demand]
  split
  · rfl
  · split <;> rfl

theorem requestsFor_fates (taken : List String) (cues : List Cue) :
    requestsFor o name cues (fates o name start taken cues) =
      ((cues.filter fun c => !start.contains (Asset.ofCue o name c).encoded &&
        decide (Asset.base c ∉ taken)).eraseDupsBy
          fun c d => Asset.base c == Asset.base d).flatMap (start.demand o name) := by
  -- The names that are taken grow with each cue, and the filter lets fewer of the rest through.
  induction cues generalizing taken with
  | nil => rfl
  | cons c cues ih =>
      have hcons : requestsFor o name (c :: cues) (fates o name start taken (c :: cues)) =
          requests o.format (.ofCue o name c) (fate o name start taken c) ++
            requestsFor o name cues (fates o name start (Asset.base c :: taken) cues) := by
        rw [fates, requestsFor, List.zipWith_cons_cons, List.flatten_cons]
        rfl
      rw [hcons, ih, requests_fate]
      by_cases hc : start.contains (Asset.ofCue o name c).encoded ∨ Asset.base c ∈ taken
      · -- Another cue of the same name is there as well, or taken as well.
        rw [if_pos hc, List.nil_append,
          List.filter_cons_of_neg (by simpa [or_iff_not_imp_left] using hc)]
        refine congrArg (fun l => (List.eraseDupsBy _ l).flatMap _) (List.filter_congr ?_)
        intro d _
        by_cases hsame : Asset.base d = Asset.base c
        · have hd : start.contains (Asset.ofCue o name d).encoded ∨ Asset.base d ∈ taken := by
            rw [Asset.encoded_ofCue, hsame, ← Asset.encoded_ofCue]
            exact hc
          rcases hd with hd | hd <;> simp [hd]
        · simp [hsame]
      · rw [if_neg hc, List.filter_cons_of_pos (by simpa using hc), List.eraseDupsBy_cons,
          List.flatMap_cons, List.filter_filter]
        refine congrArg (fun l => _ ++ (List.eraseDupsBy _ l).flatMap _) (List.filter_congr ?_)
        intro d _
        by_cases hsame : Asset.base d = Asset.base c <;> simp [hsame]

theorem requestsFor_missing (t : Timeline) :
    requestsFor o t.name t.cues (fates o t.name start [] t.cues) =
      (start.missing o t).flatMap (start.demand o t.name) := by
  rw [requestsFor_fates, Store.missing]
  simp

/-! ### Counts -/

theorem countP_requests (format : SpeechFormat) (a : Asset) (x : Origin) :
    (requests format a x).countP PartyCall.isEncode = (if x ≠ .cached then 1 else 0) ∧
      (requests format a x).countP PartyCall.isSynthesize =
        if x = .synthesized then 1 else 0 := by
  cases x <;> exact ⟨rfl, rfl⟩

theorem countP_requestsFor (o : StudioOptions) (name : String) {cues : List Cue}
    {origins : List Origin} (h : origins.length = cues.length) :
    (requestsFor o name cues origins).countP PartyCall.isEncode = origins.countP (· ≠ .cached) ∧
      (requestsFor o name cues origins).countP PartyCall.isSynthesize =
        origins.countP (· = .synthesized) := by
  induction cues generalizing origins with
  | nil =>
      obtain rfl := List.length_eq_zero_iff.mp h
      exact ⟨rfl, rfl⟩
  | cons c cues ih =>
      obtain ⟨x, origins, rfl⟩ := List.exists_cons_of_length_eq_add_one h
      obtain ⟨hencode, hsynthesize⟩ := ih (Nat.succ.inj h)
      obtain ⟨hfirst, hfirst'⟩ := countP_requests o.format (.ofCue o name c) x
      rw [requestsFor, List.zipWith_cons_cons, List.flatten_cons, List.countP_append,
        List.countP_append, ← requestsFor, hencode, hsynthesize, hfirst, hfirst', List.countP_cons,
        List.countP_cons]
      simp only [decide_eq_true_eq, Nat.add_comm, and_self]

end Studio

/-! ### Synthesizers of a session -/

variable {σ α : Type} {s s' : Session σ}

section Kept

variable {I : Session σ → Prop}
  (hworld : ∀ {s : Session σ} (w : World σ) (events : List BuildEvent), I s →
    I { s with world := w, events := events })

include hworld

theorem Build.after_act_kept (a : Act σ α) (hs : I s) : I (after (Build.act a) s) := by
  rw [Build.after_act]
  exact hworld _ s.events hs

namespace Studio

variable {studio : Studio σ} {a : Asset}

/-- Producing an asset keeps what the opening of a synthesizer keeps, which comes to pass only where
neither the asset nor its speech is there. -/
theorem after_produce_kept
    (hopen : ¬ s.world.store.contains a.encoded → ¬ s.world.store.contains a.speech →
      ∀ {t}, I t → I (after (studio.synthesizer a) t))
    (hs : I s) : I (after (studio.produce a) s) := by
  refine after_produce (fun _ ht => hworld _ _ ht)
    (fun _ => hworld _ _ hs) (fun hmissing => ?_)
    (fun _ {_ _} _ ht => Build.after_act_kept hworld _ ht) fun {t u} ht _ => hworld _ t.events ht
  exact after_speak (Q := fun _ => True) (fun _ ht => hworld _ _ ht)
    (fun ht => Build.after_act_kept hworld _ ht)
    (fun hspeechless {_} ht => ⟨hopen hmissing hspeechless ht, fun _ => trivial⟩)
    (fun _ ht => Build.after_act_kept hworld _ ht) hs

theorem after_release_kept {t : Timeline}
    (henrich : t.check = .ok () → I (after (studio.enrich t) s)) (hs : I s) :
    I (after (studio.release t) s) :=
  after_release (fun _ ht => hworld _ _ ht) henrich
    (fun _ _ _ _ _ ht => Build.after_act_kept hworld _ ht) hs

end Studio

end Kept

def Session.HasOpened (n : Nat) (s : Session σ) : Prop :=
  s.opened = n

namespace Studio

variable {studio : Studio σ}

/-- Where the builds of a studio lead to, whether they succeed or fail. In between, anything may
become of the world. -/
inductive Builds (studio : Studio σ) (s : Session σ) : Session σ → Prop
  | start : Builds studio s s
  | release (t : Timeline) {s' : Session σ} (before : Builds studio s s') :
      Builds studio s (after (studio.release t) s')
  | meanwhile (w : World σ) (events : List BuildEvent) {s' : Session σ}
      (before : Builds studio s s') : Builds studio s { s' with world := w, events := events }

namespace Builds

/-- Builds of a whole folder are such builds. -/
theorem releaseAll (h : studio.Builds s s') : studio.Builds s (after studio.releaseAll s') :=
  after_releaseAll (fun _ hu => .meanwhile _ _ hu) (fun hu => .release _ hu)
    (Build.after_act_kept (fun w events => .meanwhile w events) _ h)
    (Build.after_act_kept (fun w events => .meanwhile w events) _)

/-- What the opening of the first synthesizer keeps, all builds keep. -/
theorem kept {I : Session σ → Prop}
    (hworld : ∀ {s : Session σ} (w : World σ) (events : List BuildEvent), I s →
      I { s with world := w, events := events })
    (hopen : ∀ {u : Session σ} {x : Synthesizer σ} {w : World σ} (events : List BuildEvent),
      studio.openSynthesizer u.world = .ok x w → u.synthesizer = none → I u →
        I ⟨w, some x, u.opened + 1, events⟩)
    (h : studio.Builds s s') (hs : I s) : I s' := by
  have hsynthesizer : ∀ {a u}, I u → I (after (studio.synthesizer a) u) := by
    intro a u hu
    rw [after, synthesizer_eq]
    cases hnone : u.synthesizer with
    | some x => exact hu
    | none =>
        cases hopened : studio.openSynthesizer u.world with
        | ok x w => exact hopen _ hopened hnone hu
        | error e w =>
            have hfailed := hworld w u.events hu
            rwa [hnone] at hfailed
  induction h with
  | start => exact hs
  | release t _ ih =>
      refine after_release_kept hworld (fun _ => after_enrich (fun _ _ _ _ {u} hu => ?_) ih) ih
      exact after_produce_kept hworld (fun _ _ _ => hsynthesizer) hu
  | meanwhile w events _ ih => exact hworld w events ih

theorem opened_eq (h : studio.Builds s s') (hs : s.opened = s.synthesizer.toList.length) :
    s'.opened = s'.synthesizer.toList.length := by
  refine h.kept (I := fun u => u.opened = u.synthesizer.toList.length) (fun _ _ hu => hu) ?_ hs
  intro u x w events _ hnone hu
  simp [hu, hnone]

theorem diligent (hstudio : studio.Diligent) (h : studio.Builds s s') (hs : s.Diligent) :
    s'.Diligent := by
  refine h.kept (I := Session.Diligent) (fun _ _ hu => hu) ?_ hs
  rintro u x w events hopened - - _ ⟨⟩
  exact hstudio.opening hopened

/-- The first build behind which a synthesizer has been opened. -/
theorem exists_opening (hs : s.opened = 0) (h : studio.Builds s s') (hpos : 0 < s'.opened) :
    ∃ s₁ t, studio.Builds s s₁ ∧ s₁.opened = 0 ∧ 0 < (after (studio.release t) s₁).opened ∧
      studio.Builds (after (studio.release t) s₁) s' := by
  induction h with
  | start => exact absurd hs hpos.ne'
  | @release t u before ih =>
      by_cases hu : u.opened = 0
      · exact ⟨u, t, before, hu, hpos, .start⟩
      · obtain ⟨s₁, t₁, hbefore, hnone, hsome, hbehind⟩ := ih (Nat.pos_of_ne_zero hu)
        exact ⟨s₁, t₁, hbefore, hnone, hsome, .release t hbehind⟩
  | meanwhile w events _ ih =>
      obtain ⟨s₁, t₁, hbefore, hnone, hsome, hbehind⟩ := ih hpos
      exact ⟨s₁, t₁, hbefore, hnone, hsome, .meanwhile w events hbehind⟩

end Builds

/-! ### What a synthesizer is opened for -/

theorem leads_speechRoot {o : StudioOptions} {name : String} {store : Store} {c : Cue}
    (hname : Timeline.checkName name = .ok ()) (hvoice : Cue.isVoice c.voice)
    (hthere : ¬ store.Lacks o name c) : store.Leads o.speechRoot := by
  obtain ⟨hspeech, hencoded⟩ := parent?_asset o hname hvoice
  have hfolder : ∀ {path : String}, Path.parent? path = some (Path.join o.speechRoot name) →
      store.contains path → store.Leads (Path.join o.speechRoot name) := by
    intro path hparent hpath
    obtain ⟨l, hl, -⟩ := Store.contains_iff.mp hpath
    exact Store.leads_of_parent? hparent (Store.walk_of_locateAlong hl)
  have hleads : store.Leads (Path.join o.speechRoot name) := by
    rcases not_and_or.mp hthere with henc | hwav
    · exact hfolder hencoded (not_not.mp henc)
    · exact hfolder hspeech (not_not.mp hwav)
  exact Store.leads_of_parent? (StudioOptions.below_soundFolder hname).parent_eq hleads.1

section Course

variable {start : Store} {taken : List String} {name : String} {n : Nat}
  (hstudio : studio.Diligent) (hs : s.Diligent)
  (hstock : Store.Stocked studio.options name start taken s.world.store)
  (hname : Timeline.checkName name = .ok ()) (hopened : s.HasOpened n)

include hstudio hs hstock hname hopened

theorem hasOpened_of_cues {cues : List Cue} (hvoice : ∀ c ∈ cues, Cue.isVoice c.voice)
    (hthere : ∀ c ∈ cues, ¬ start.Lacks studio.options name c) :
    (after (cues.mapM (studio.produceCue name)) s).HasOpened n := by
  induction cues generalizing s taken with
  | nil => exact hopened
  | cons c cues ih =>
      -- A production that fails may leave any files: only what succeeds keeps the stock.
      obtain ⟨hc, hcues⟩ := List.forall_mem_cons.mp hvoice
      obtain ⟨hthis, hrest⟩ := List.forall_mem_cons.mp hthere
      have hproduce : (after (studio.produce (.ofCue studio.options name c)) s).HasOpened n := by
        refine after_produce_kept (fun _ _ hu => hu) ?_ hopened
        intro hmissing hspeechless
        exact absurd (hstock.lacks hc ⟨hmissing, hspeechless⟩) hthis
      rw [List.mapM_cons]
      refine after_bind (after_bind hproduce fun _ hu => hu) ?_
      intro r t hcue ht
      obtain ⟨ht', hstock', -⟩ := stocked_of_produceCue hstudio hs hstock hname hc
        (fun hlacks => absurd hlacks hthis) hcue
      exact after_bind (ih ht' hstock' ht hcues hrest) fun _ hu => hu

theorem hasOpened_of_items {items : List Item}
    (hvoice : ∀ i ∈ items, ∀ c ∈ i.speech, Cue.isVoice c.voice)
    (hthere : ∀ i ∈ items, ∀ c ∈ i.speech, ¬ start.Lacks studio.options name c) :
    (after (items.mapM (studio.produceItem name)) s).HasOpened n := by
  induction items generalizing s taken with
  | nil => exact hopened
  | cons i items ih =>
      obtain ⟨hi, hitems⟩ := List.forall_mem_cons.mp hvoice
      obtain ⟨hthis, hrest⟩ := List.forall_mem_cons.mp hthere
      have hcues := hasOpened_of_cues hstudio hs hstock hname hopened hi hthis
      rw [List.mapM_cons]
      refine after_bind (after_bind hcues fun _ hu => hu) ?_
      intro r t hitem ht
      obtain ⟨ht', hstock', -⟩ := stocked_of_produceItem hstudio hs hstock hname hi
        (fun c hc hlacks => absurd hlacks (hthis c hc)) hitem
      exact after_bind (ih ht' hstock' ht hitems hrest) fun _ hu => hu

end Course

/-- A release opens a synthesizer only for a cue that was lacking when it began. -/
theorem exists_lacks_of_opened (hstudio : studio.Diligent) (hs : s.Diligent)
    (htree : s.world.store.IsTree) {t : Timeline}
    (hopened : (after (studio.release t) s).opened ≠ s.opened) :
    ∃ c ∈ t.cues, s.world.store.Lacks studio.options t.name c := by
  by_contra hnone
  push Not at hnone
  refine hopened (after_release_kept (I := Session.HasOpened s.opened) (fun _ _ hu => hu) ?_ rfl)
  intro hcheck
  have hname := (Timeline.check_eq_ok.mp hcheck).1
  have hvoice : ∀ i ∈ t.items, ∀ c ∈ i.speech, Cue.isVoice c.voice :=
    fun i hi c hc => Timeline.isVoice_of_check hcheck hi hc
  -- Without cues there may be no way to the sounds; a cue that is not lacking shows one.
  cases hcues : t.cues with
  | nil =>
      rw [enrich, enrich_of_silent (List.flatMap_eq_nil_iff.mp hcues)]
      rfl
  | cons c cues =>
      have hc : c ∈ t.cues := hcues ▸ List.mem_cons_self
      obtain ⟨i, hi, hci⟩ := List.mem_flatMap.mp hc
      have hleads := leads_speechRoot hname (hvoice i hi c hci) (hnone c hc)
      have hitems := hasOpened_of_items hstudio hs (.self htree.housed (.here hleads)) hname rfl
        hvoice fun i hi c hc => hnone c (List.mem_flatMap.mpr ⟨i, hi, hc⟩)
      exact after_bind hitems fun _ hu => hu

/-! ### What releases ask for -/

theorem tally_of_release {t : Timeline} {r : Timeline × CatalogueEntry}
    (h : studio.release t s = .ok r s') :
    ∃ enriched s₁, studio.enrich t s = .ok enriched s₁ ∧
      Build.Observes (studio.observed.release t) s
        (requestsFor studio.options t.name t.cues enriched.2) r s' ∧
      r.2.counts.Tally t (requestsFor studio.options t.name t.cues enriched.2) := by
  obtain ⟨enriched, s₁, henrich, hr, hobserves⟩ := observes_release h
  have hlength := length_origins_of_enrich henrich
  obtain ⟨hencode, hsynthesize⟩ := countP_requestsFor studio.options t.name
    (hlength.trans (Timeline.length_cues t).symm)
  refine ⟨enriched, s₁, henrich, hobserves, ?_⟩
  have hsplit : enriched.2.countP (· = .cached) + enriched.2.countP (· ≠ .cached) =
      enriched.2.length := by
    simpa using (List.length_eq_countP_add_countP (· = Origin.cached)).symm
  rw [hr]
  exact ⟨hlength, hsplit, hencode.symm, hsynthesize.symm⟩

/-- Over all builds of a studio, at most one synthesizer is opened, and, where whoever succeeds has
made its file and touched nothing else, only in a release for a cue that had neither speech nor
encoded speech when the release began. If moreover opening touches no file, and the way to the
public root goes by names unless the root is there, a release that succeeds has asked, in the order
of its cues, for each missing asset once, and for speech only where that was missing, too. -/
theorem missing_made_once {w : World σ} (h : studio.Builds (.start w) s) :
    s.opened ≤ 1 ∧ (studio.Diligent →
      (0 < s.opened → ∃ s₁ t, studio.Builds (.start w) s₁ ∧ s₁.opened = 0 ∧
        0 < (after (studio.release t) s₁).opened ∧ studio.Builds (after (studio.release t) s₁) s ∧
        (s₁.world.store.IsTree →
          ∃ c ∈ t.cues, s₁.world.store.Lacks studio.options t.name c)) ∧
      (studio.OpensQuietly → s.world.store.IsTree →
        s.world.store.Leads studio.options.publicRoot ∨
          ['.', '.'] ∉ Path.pieces studio.options.publicRoot.toList →
        ∀ t r s', studio.release t s = .ok r s' →
          Build.Observes (studio.observed.release t) s
            ((s.world.store.missing studio.options t).flatMap
              (s.world.store.demand studio.options t.name)) r s' ∧
          r.2.counts.Tally t ((s.world.store.missing studio.options t).flatMap
            (s.world.store.demand studio.options t.name)))) := by
  refine ⟨?_, fun hstudio => ⟨fun hpos => ?_, fun hquiet htree hroot t r s' hrelease => ?_⟩⟩
  · rw [h.opened_eq rfl]
    cases s.synthesizer <;> simp
  · obtain ⟨s₁, t, hbefore, hnone, hsome, hbehind⟩ := h.exists_opening rfl hpos
    refine ⟨s₁, t, hbefore, hnone, hsome, hbehind, fun htree => ?_⟩
    have hs₁ := hbefore.diligent hstudio nofun
    exact exists_lacks_of_opened hstudio hs₁ htree (by omega)
  · obtain ⟨enriched, s₁, henrich, hobserves, htally⟩ := tally_of_release hrelease
    have hreaches : s.world.store.Reaches studio.options.publicRoot := by
      rcases hroot with hleads | hup
      · exact hleads.reaches
      · exact htree.housed.reaches hup
    have hdescends := hreaches.descends StudioOptions.isName_speech
      studio.options.place_speechRoot
    have horigins := origins_of_enrich hstudio hquiet (h.diligent hstudio nofun)
      htree.housed hdescends (parts_of_release hrelease).1 henrich
    rw [horigins, ← Timeline.cues, requestsFor_missing] at hobserves htally
    exact ⟨hobserves, htally⟩

/-! ### Studios whose programs make what they are asked for -/

theorem deposits_touching {e : EncoderProgram} {speech target : String} {format : SpeechFormat}
    {w w' : World Unit} (hhouses : w.store.Houses target)
    (h : e.encode touching speech target format w = .ok () w') :
    w.store.Deposits target w'.store := by
  rw [EncoderProgram.encode, bind_of_ok (Act.makeParent_of_furnished hhouses)] at h
  obtain ⟨result, w₁, hcall, h⟩ := bind_eq_ok h
  have hruns : touching (e.encodeCall speech target format) w = (result, w₁) := by
    cases hcall
    rfl
  cases result with
  | error cause => cases h
  | ok r =>
      dsimp only at h
      split at h
      · cases h
      · next hstatus =>
          obtain ⟨-, rfl⟩ := pure_eq_ok h
          have hthere := (makes_touching List.getLast?_concat hruns (not_not.mp hstatus)).contains
          obtain ⟨l, hl, hnone, hfixed, hput⟩ := touching_eq_ok hruns
          have hlast : (e.encodeCall speech target format).arguments.getLast? = some target :=
            List.getLast?_concat
          rw [hlast, Option.getD_some] at hl
          obtain rfl := Store.locate_eq_ok hl
          refine ⟨by rw [hnone]; nofun, ⟨.empty, false, fun m => ?_⟩, hthere⟩
          rw [hput, Store.find?_put _ hfixed]
          simp only [eq_comm]

def sketchingAt (publicRoot : String) : Studio Unit :=
  { sketching with options := ⟨publicRoot, "t", .opus⟩ }

theorem diligent_sketchingAt (publicRoot : String) : (sketchingAt publicRoot).Diligent where
  opening h := by
    obtain ⟨rfl, -⟩ := pure_eq_ok h
    exact fun _ _ _ _ _ => deposits_touching
  encoding := deposits_touching

theorem opensQuietly_sketchingAt (publicRoot : String) :
    (sketchingAt publicRoot).OpensQuietly := by
  intro w w' x h
  obtain ⟨-, rfl⟩ := pure_eq_ok h
  rfl

def saying (texts : List String) : Timeline :=
  ⟨"a", [.card ⟨"A", none, .zero, texts.map fun text => ⟨text, "af_heart", .inEnd, .zero⟩, []⟩]⟩

/-- Files among which one is in the folder for the sounds of that timeline. -/
def stockedWith (file : String) : Store :=
  (((Store.empty.put ["p"] .directory).put ["p", "speech"] .directory).put ["p", "speech", "a"]
    .directory).put ["p", "speech", "a", file] (.file .empty false)

def partlyStocked : Store :=
  stockedWith "ho-af_heart-c35d49836370e87d.opus"

/-- The calls for the one sound that is not there, which two cues share. -/
def callsForSecond : List PartyCall :=
  [.synthesize "hi" "af_heart" "p/speech/a/hi-af_heart-19207e0611f00fc3.wav",
    .encode "p/speech/a/hi-af_heart-19207e0611f00fc3.wav"
      "p/speech/a/hi-af_heart-19207e0611f00fc3.opus" .opus]

theorem missing_made_once_twice :
    ∃ r s', (sketchingAt "p").release (saying ["ho", "hi", "hi"]) (.start ⟨partlyStocked, ()⟩) =
        .ok r s' ∧
      Build.Observes ((sketchingAt "p").observed.release (saying ["ho", "hi", "hi"]))
        (.start ⟨partlyStocked, ()⟩) callsForSecond r s' ∧
      r.2.counts = ⟨3, 2, 1, 1⟩ ∧ s'.opened = 1 ∧
      ∃ s₁ t, (sketchingAt "p").Builds (after ((sketchingAt "p").release t) s₁) s' ∧
        s₁.opened = 0 := by
  have hrun : (((sketchingAt "p").release (saying ["ho", "hi", "hi"])).run'
      (.start ⟨partlyStocked, ()⟩)).map (·.2.counts) = some ⟨3, 2, 1, 1⟩ := by
    decide +kernel
  have hopened : (after ((sketchingAt "p").release (saying ["ho", "hi", "hi"]))
      (.start ⟨partlyStocked, ()⟩)).opened = 1 := by
    decide +kernel
  have hcalls : (partlyStocked.missing (sketchingAt "p").options
      (saying ["ho", "hi", "hi"])).flatMap (partlyStocked.demand (sketchingAt "p").options "a") =
        callsForSecond := by
    decide +kernel
  obtain ⟨r, hr, hcounts⟩ := Option.map_eq_some_iff.mp hrun
  obtain ⟨s', hs'⟩ := exists_of_run'_eq_some hr
  have hstart : (sketchingAt "p").Builds (.start ⟨partlyStocked, ()⟩)
      (.start ⟨partlyStocked, ()⟩) := .start
  have hbuilt := hstart.release (saying ["ho", "hi", "hi"])
  rw [after_of_ok hs'] at hbuilt hopened
  obtain ⟨-, hfresh⟩ := missing_made_once hstart
  obtain ⟨hobserves, -⟩ := (hfresh (diligent_sketchingAt "p")).2 (opensQuietly_sketchingAt "p")
    (by decide +kernel) (.inr (by decide)) _ r s' hs'
  obtain ⟨-, hbehind⟩ := missing_made_once hbuilt
  obtain ⟨s₁, t, -, hnone, -, hrest, -⟩ :=
    (hbehind (diligent_sketchingAt "p")).1 (by rw [hopened]; exact Nat.one_pos)
  refine ⟨r, s', hs', ?_, hcounts, hopened, s₁, t, hrest, hnone⟩
  rw [← hcalls]
  exact hobserves

/-! ### Where less is asked for than was missing -/

/-- A release succeeds, but does not ask for as many encodings as were missing. -/
def Spares (studio : Studio Unit) (store : Store) (t : Timeline) : Prop :=
  studio.Diligent ∧ store.IsTree ∧ ∃ r s' calls,
    studio.release t (.start ⟨store, ()⟩) = .ok r s' ∧
    Build.Observes (studio.observed.release t) (.start ⟨store, ()⟩) calls r s' ∧
    calls.countP PartyCall.isEncode ≠ (store.missing studio.options t).length

theorem spares_of_counts {studio : Studio Unit} {store : Store} {t : Timeline} {n : BuildCounts}
    (hstudio : studio.Diligent) (htree : store.IsTree)
    (hrun : ((studio.release t).run' (.start ⟨store, ()⟩)).map (·.2.counts) = some n)
    (hmissing : n.encoded ≠ (store.missing studio.options t).length) : Spares studio store t := by
  obtain ⟨r, hr, rfl⟩ := Option.map_eq_some_iff.mp hrun
  obtain ⟨s', hs'⟩ := exists_of_run'_eq_some hr
  obtain ⟨enriched, s₁, -, hobserves, htally⟩ := tally_of_release hs'
  exact ⟨hstudio, htree, r, s', _, hs', hobserves, htally.encoded ▸ hmissing⟩

/-- A studio that makes the encoded speech of a text already when it opens its synthesizer. -/
def hasty : Studio Unit :=
  { sketching with
    openSynthesizer := do
      Act.writeText "p/speech/a/hi-af_heart-19207e0611f00fc3.opus" "hi"
      sketching.openSynthesizer }

theorem diligent_hasty : hasty.Diligent where
  opening h := by
    obtain ⟨_, _, -, h⟩ := bind_eq_ok h
    exact (diligent_sketchingAt "p").opening h
  encoding := deposits_touching

/-- What was missing at the start is not always asked for: the folder that is made for one cue may
open the way to what is there of another one, and so may the opening of the synthesizer. -/
theorem missing_made_once_fails :
    Spares (sketchingAt "m/../p") (stockedWith "hi-af_heart-19207e0611f00fc3.opus")
        (saying ["yo", "hi"]) ∧
      Spares hasty partlyStocked (saying ["yo", "hi"]) := by
  constructor
  · exact spares_of_counts (n := ⟨2, 1, 1, 1⟩) (diligent_sketchingAt _) (by decide +kernel)
      (by decide +kernel) (by decide +kernel)
  · exact spares_of_counts (n := ⟨2, 1, 1, 1⟩) diligent_hasty (by decide +kernel)
      (by decide +kernel) (by decide +kernel)

end Studio

end Storyboard
