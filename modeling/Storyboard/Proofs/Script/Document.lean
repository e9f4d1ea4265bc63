import Mathlib
import Storyboard.Proofs.Script.Check
import Storyboard.Proofs.Timeline.RoundTrip
import Storyboard.Proofs.Timing.Outline

/-!
Scripts and the documents that they compile to. A script can state a number beyond the finite range,
which no document carries: the document is refused if a cue is that far off, while a card that long
is read back without a length. Wherever the document is read, its plan is that of the script.
-/

namespace Storyboard
open Json (present field?_present)
open Json.Record (nullable nullable_map)

/-- The number that is read where a number may be null. -/
def Binary64.orZero (x : Binary64) : Binary64 :=
  if x.isFinite then x else .zero

theorem Binary64.nullable_ofBinary64 {x : Binary64} (h : x.ReadsBack) :
    nullable Json.toBinary64? (some (Json.ofBinary64 x)) =
      some (if x.isFinite then some x else none) := by
  by_cases hx : x.isFinite
  · rw [if_pos hx]
    exact nullable_map (o := some x) rfl fun y hy =>
      Option.mem_some_iff.mp hy ▸ readsBack_iff.mp h hx
  · rw [if_neg hx, ofBinary64_eq_null hx]
    rfl

/-! ### Cues and items without sound -/

theorem Cue.ofJson?_toJson_eq {c : Cue} (h : c.offset.ReadsBack) :
    ofJson? c.toJson = if c.offset.isFinite then some c.settled else none := by
  by_cases hx : c.offset.isFinite
  · rw [if_pos hx]
    exact ofJson?_toJson (Binary64.readsBack_iff.mp h hx)
  · rw [if_neg hx, toJson, Json.ofMembers_eq, ofJson?, Json.Record.ofJson?, Option.bind_some,
      ofRecord?, field?_present 0 rfl, field?_present 1 rfl, field?_present 2 rfl,
      field?_present 3 rfl, Binary64.ofBinary64_eq_null hx]
    have hzero : c.offset.isZero = false := by
      cases ho : c.offset with
      | nan | infinite s => rfl
      | finite s u hu => exact absurd (by rw [ho]; rfl) hx
    simp [hzero, Json.toBinary64?]

namespace Item

/-- Whether a document can carry the offsets of the cues. -/
def isCarried (i : Item) : Bool :=
  i.speech.all (·.offset.isFinite)

/-- The item as its document tells it. -/
def told : Item → Item
  | .transition t => .transition t
  | .card c => .card { c with seconds := c.seconds.orZero, speech := c.speech.map Cue.settled }
  | .cast c => .cast { c with speech := c.speech.map Cue.settled }

theorem speech?_ofNonempty_eq {speech : List Cue} (h : ∀ c ∈ speech, c.offset.ReadsBack) :
    speech? (Json.ofNonempty Cue.toJson speech) =
      if speech.all (·.offset.isFinite) then some (speech.map Cue.settled) else none := by
  cases speech with
  | nil => rfl
  | cons c speech => exact Json.toListOf?_map_ite fun c hc => Cue.ofJson?_toJson_eq (h c hc)

/-- A card without sounds is refused only with a cue that no document carries; a length that no
document carries is read as none. -/
theorem cardOfRecord?_silent {c : Card} (type : Option Json) (haudio : c.audio = [])
    (h : ∀ x ∈ (Item.card c).numbers, x.ReadsBack) :
    (cardOfRecord? (.named (present (("type", type) :: (Item.card c).members)))).map Item.card =
      if (Item.card c).isCarried then some (Item.card c).told else none := by
  obtain ⟨hseconds, hsounds⟩ := List.forall_mem_cons.mp h
  obtain ⟨hspeech, _⟩ := forall_mem_soundNumbers.mp hsounds
  have hsubtitle : nullable Json.toString? (c.subtitle.map Json.ofString) = some c.subtitle :=
    nullable_map rfl fun _ _ => rfl
  have hsilent : audio? (Json.ofNonempty Attachment.toJson c.audio) = some c.audio := by
    rw [haudio]
    rfl
  have hlength : (if c.seconds.isFinite then some c.seconds else none).getD .zero =
      c.seconds.orZero := by
    unfold Binary64.orZero
    split <;> rfl
  rw [members, cardOfRecord?, field?_present 0 rfl, field?_present 1 rfl, field?_present 2 rfl,
    field?_present 3 rfl, field?_present 4 rfl]
  simp only [Option.bind_eq_bind, Option.bind_some, Json.Record.required_some,
    Json.toString?_ofString, hsubtitle, Binary64.nullable_ofBinary64 hseconds,
    speech?_ofNonempty_eq hspeech, hsilent, hlength]
  unfold isCarried
  cases hcarried : c.speech.all (·.offset.isFinite) <;> simp [Item.speech, told, hcarried]

theorem castOfRecord?_silent {c : Cast} (type : Option Json) (haudio : c.audio = [])
    (h : ∀ x ∈ (Item.cast c).numbers, x.ReadsBack) :
    (castOfRecord? (.named (present (("type", type) :: (Item.cast c).members)))).map Item.cast =
      if (Item.cast c).isCarried then some (Item.cast c).told else none := by
  obtain ⟨hspeech, _⟩ := forall_mem_soundNumbers.mp h
  have hcolumns : nullable Json.toCount? (c.columns.map (Json.ofNat ·.toNat)) = some c.columns :=
    nullable_map rfl fun n _ => Json.toCount?_ofNat n
  have hrows : nullable Json.toCount? (c.rows.map (Json.ofNat ·.toNat)) = some c.rows :=
    nullable_map rfl fun n _ => Json.toCount?_ofNat n
  have hsilent : audio? (Json.ofNonempty Attachment.toJson c.audio) = some c.audio := by
    rw [haudio]
    rfl
  rw [members, castOfRecord?, field?_present 0 rfl, field?_present 1 rfl, field?_present 2 rfl,
    field?_present 3 rfl, field?_present 4 rfl]
  simp only [Option.bind_eq_bind, Option.bind_some, Json.Record.required_some,
    Json.toString?_ofString, hcolumns, hrows, speech?_ofNonempty_eq hspeech, hsilent]
  unfold isCarried
  cases hcarried : c.speech.all (·.offset.isFinite) <;> simp [Item.speech, told, hcarried]

theorem ofJson?_toJson_silent {i : Item} (haudio : i.audio = [])
    (h : ∀ x ∈ i.numbers, x.ReadsBack) :
    ofJson? i.toJson = if i.isCarried then some i.told else none := by
  rw [ofJson?_toJson_eq, toJson, Json.ofMembers_eq]
  cases i with
  | transition t =>
      change (Transition.ofRecord? _).map Item.transition = _
      rw [members, Transition.ofRecord?_members]
      rfl
  | card c => exact cardOfRecord?_silent _ haudio h
  | cast c => exact castOfRecord?_silent _ haudio h

end Item

namespace Timeline

/-- The document of a timeline without sounds is refused only with a cue that it cannot carry. -/
theorem ofText_document_silent {t : Timeline} (haudio : ∀ i ∈ t.items, i.audio = [])
    (h : ∀ x ∈ t.numbers, x.ReadsBack) :
    ofText t.document = orMalformed
      (if t.items.all Item.isCarried then some ⟨t.name, t.items.map Item.told⟩ else none) := by
  have hitems : Json.toListOf? Item.ofSound? t.itemsJson =
      if t.items.all Item.isCarried then some (t.items.map Item.told) else none := by
    refine Json.toListOf?_map_ite fun i hi => ?_
    have hnumbers : ∀ x ∈ i.numbers, x.ReadsBack :=
      fun x hx => h x (List.mem_flatMap.mpr ⟨i, hi, hx⟩)
    have hsound : i.toJson.sound (Json.nestingLimit - 2) := Item.sound_toJson hnumbers 122
    rw [Item.ofSound?, if_pos hsound]
    exact Item.ofJson?_toJson_silent (haudio i hi) hnumbers
  have hkeys : hasCleanKeys t.toJson = true := rfl
  have hread : ofJson? t.toJson =
      if t.items.all Item.isCarried then some ⟨t.name, t.items.map Item.told⟩ else none := by
    rw [ofJson?, if_pos hkeys, toJson, Json.ofMembers_eq, Json.Record.ofJson?,
      Option.bind_eq_bind, Option.bind_some, field?_present 0 rfl, field?_present 1 rfl]
    simp only [Option.bind_eq_bind, Option.bind_some, Json.Record.required_some,
      Json.toString?_ofString, hitems]
    split <;> rfl
  rw [ofText_document_eq, hread]

end Timeline

/-! ### Plans -/

namespace FrameRate

variable (r : FrameRate) {x : Binary64}

theorem coverFrames_of_ceil? (h : (x * r.perSecond).ceil? = none) : r.coverFrames x = 1 := by
  simp only [coverFrames, h, ite_self]

theorem coverFrames_of_not_finite (hx : ¬ x.isFinite) : r.coverFrames x = 1 := by
  refine r.coverFrames_of_ceil? ?_
  generalize r.perSecond = y
  cases x with
  | finite s u hu => exact absurd rfl hx
  | nan => rfl
  | infinite s =>
      cases y with
      | nan | infinite t => rfl
      | finite t v hv =>
          change (if v = 0 then Binary64.nan else Binary64.infinite (s != t)).ceil? = none
          split <;> rfl

theorem coverFrames_zero : r.coverFrames .zero = 1 := by
  cases hrate : r.perSecond with
  | nan | infinite s =>
      refine r.coverFrames_of_ceil? ?_
      rw [hrate]
      rfl
  | finite s u hu =>
      have hproduct : Binary64.zero * Binary64.finite s u hu = .signedZero s := by
        change Binary64.mul (.finite false 0 Binary64.holds_zero) (.finite s u hu) = _
        rw [Binary64.mul, Nat.zero_mul, ← Nat.zero_mul Magnitude.one,
          Binary64.ofUnits_mul Binary64.holds_zero Magnitude.one_pos, Bool.false_bne]
        rfl
      have hsmall : (Binary64.signedZero s).le .one = true := by
        have hzero : Binary64.signed s 0 = 0 := by cases s <;> rfl
        rw [Binary64.one_eq]
        change decide (Binary64.signed s 0 ≤ (Magnitude.one : Int)) = true
        rw [hzero]
        exact decide_eq_true (Int.natCast_nonneg _)
      simp only [coverFrames, hrate, hproduct, hsmall, if_true]

/-- A length that was lost covers as many frames as before. -/
theorem coverFrames_orZero : r.coverFrames x.orZero = r.coverFrames x := by
  unfold Binary64.orZero
  split
  · rfl
  · next hx => rw [r.coverFrames_zero, r.coverFrames_of_not_finite hx]

end FrameRate

theorem Item.keepsOutline_told : KeepsOutline told :=
  ⟨fun i => by cases i <;> rfl, fun i => by cases i <;> rfl, fun i => by cases i <;> rfl⟩

namespace Timeline

variable (name : String) (items : List Item) (rate : FrameRate) (probe : Probe)

theorem clipLengths_told :
    clipLengths ⟨name, items.map Item.told⟩ rate probe = clipLengths ⟨name, items⟩ rate probe := by
  have hlength : ∀ i : Item, (i.told.seconds? probe).map (·.map rate.coverFrames) =
      (i.seconds? probe).map (·.map rate.coverFrames) := by
    intro i
    cases i with
    | transition t | cast c => rfl
    | card c => exact congrArg (some <| Except.ok ·) (rate.coverFrames_orZero (x := c.seconds))
  have hlengths (items : List Item) : clipLengths ⟨name, items⟩ rate probe =
      (items.filterMap fun i => (i.seconds? probe).map (·.map rate.coverFrames)).mapM id := by
    rw [clipLengths, ← List.map_filterMap, List.mapM_map]
    rfl
  rw [hlengths, hlengths, List.filterMap_map]
  exact congrArg (List.mapM id <| List.filterMap · items) (funext hlength)

theorem sounds_told (s : Schedule) :
    Sound.ofSchedule ⟨name, items.map Item.told⟩ s rate =
      Sound.ofSchedule ⟨name, items⟩ s rate := by
  have haudio (k : Nat) : (items.map Item.told)[k]?.map Item.audio = items[k]?.map Item.audio := by
    rw [List.getElem?_map, Option.map_map]
    exact congrArg (Option.map · _) (funext fun i => by cases i <;> rfl)
  simp only [Sound.ofSchedule, Sound.attachments, haudio]

theorem plan_told :
    plan ⟨name, items.map Item.told⟩ rate probe = plan ⟨name, items⟩ rate probe := by
  simp only [plan, clipLengths_told, Item.keepsOutline_told.layout_map,
    Item.keepsOutline_told.chapters_map, sounds_told]

end Timeline

/-! ### Scripts -/

namespace Script

/-- The clips of a script are without sounds. -/
theorem audio_of_compile {script : String} {t : Timeline} (h : compile script = .ok t) :
    ∀ i ∈ t.items, i.audio = [] := by
  intro i hi
  exact ((formed_of_compile h).2 i hi).audio

/-- Where the numbers of a script are read back from their texts, its document is read exactly if
no cue is offset beyond the finite range, and what is read has the plan of the script: the same one
or the same error, at every rate and whatever the recordings are. -/
theorem plan_document {script : String} {t : Timeline} (hcompile : compile script = .ok t)
    (hback : ∀ x ∈ t.numbers, x.ReadsBack) :
    ((∀ i ∈ t.items, ∀ c ∈ i.speech, c.offset.isFinite) →
      ∃ u, Timeline.ofText t.document = .ok u ∧
        ∀ rate probe, u.plan rate probe = t.plan rate probe) ∧
    (¬ (∀ i ∈ t.items, ∀ c ∈ i.speech, c.offset.isFinite) →
      Timeline.ofText t.document = .error .malformedDocument) := by
  have hcarried : t.items.all Item.isCarried ↔
      ∀ i ∈ t.items, ∀ c ∈ i.speech, c.offset.isFinite := by
    simp only [List.all_eq_true, Item.isCarried]
  have hread := Timeline.ofText_document_silent (audio_of_compile hcompile) hback
  rw [← hcarried]
  refine ⟨fun hall => ⟨_, ?_, Timeline.plan_told t.name t.items⟩, fun hsome => ?_⟩
  · rw [hread, if_pos hall]
    rfl
  · rw [hread, if_neg hsome]
    rfl

/-- A card alone, as scripts tell it. -/
def oneCard (seconds : Binary64) (speech : List Cue) : Timeline :=
  ⟨"timeline", [.card ⟨"A", none, seconds, speech, []⟩]⟩

/-- A script with a cue at an offset. -/
def timed : String :=
  "card \"A\"\n  say \"hi\" @2.5\n"

theorem plan_document_timed :
    ∃ t, compile timed = .ok t ∧ (∀ x ∈ t.numbers, x.ReadsBack) ∧
      ∃ u, Timeline.ofText t.document = .ok u ∧
        ∀ rate probe, u.plan rate probe = t.plan rate probe := by
  let t := oneCard .zero [⟨"hi", "af_heart", .inBegin, .ofRatio 5 2⟩]
  have hcompile : compile timed = .ok t := by decide +kernel
  have hkept : ∀ x ∈ t.numbers, (Json.ofBinary64 x).toBinary64? = some x := by decide +kernel
  have hback : ∀ x ∈ t.numbers, x.ReadsBack :=
    fun x hx => Binary64.readsBack_iff.mpr fun _ => hkept x hx
  have hfinite : ∀ i ∈ t.items, ∀ c ∈ i.speech, c.offset.isFinite := by decide +kernel
  exact ⟨t, hcompile, hback, (plan_document hcompile hback).1 hfinite⟩

/-- A script with a cue beyond the finite range, one digit longer than the greatest power of ten. -/
def distant : String :=
  "card \"A\"\n  say \"hi\" @1" ++ String.ofList (List.replicate 309 '0') ++ "\n"

/-- A script with a length that is not read back from its text. -/
def precise : String :=
  "card \"A\" @91.00000000000001\n"

/-- Not every script has a document that is read, nor one that is planned as the script is. -/
theorem plan_document_fails :
    (∃ t, compile distant = .ok t ∧ Timeline.ofText t.document = .error .malformedDocument) ∧
    ∃ t u, compile precise = .ok t ∧ Timeline.ofText t.document = .ok u ∧
      ∃ rate probe, u.plan rate probe ≠ t.plan rate probe := by
  constructor
  · let t := oneCard .zero [⟨"hi", "af_heart", .inBegin, .infinite false⟩]
    have hcompile : compile distant = .ok t := by decide +kernel
    have hkept : ∀ x ∈ t.numbers, x.isFinite → (Json.ofBinary64 x).toBinary64? = some x := by
      decide +kernel
    refine ⟨t, hcompile, ?_⟩
    rw [Timeline.ofText_document_silent (audio_of_compile hcompile)
      fun x hx => Binary64.readsBack_iff.mpr (hkept x hx)]
    rfl
  · let t := oneCard (.ofRatio 9100000000000001 100000000000000) []
    let u := oneCard (.ofNat 91) []
    have hcompile : compile precise = .ok t := by decide +kernel
    have hread : Timeline.ofJson? t.toJson = some u := by decide +kernel
    let rate : FrameRate := ⟨1, 1, by decide, by decide⟩
    let probe : Probe := fun _ => .ok .zero
    have hstated : (t.plan rate probe).toOption.map (·.schedule.totalFrames) = some 92 := by
      decide +kernel
    have hframes : (u.plan rate probe).toOption.map (·.schedule.totalFrames) = some 91 := by
      decide +kernel
    refine ⟨t, u, hcompile, ?_, rate, probe, fun h => ?_⟩
    · rw [Timeline.ofText_document_eq, hread]
      rfl
    · rw [h, hstated] at hframes
      cases hframes

end Script

end Storyboard
