import Mathlib
import Storyboard.Timeline.File
import Storyboard.Proofs.Timeline.Numbers

/-!
The round trip of compiled documents: what is written for a timeline is read back as the same
timeline, but for the sign of a zero in the offset of a cue, and is written again as the same text.
-/

namespace Storyboard
open Json (Record present field?_present toAlternative?_ofString toCount?_ofNat)
open Json.Record (nullable defaulted nullable_map)

namespace Json

theorem sound_ofString (s : String) (depth : Nat) : (ofString s).sound depth :=
  rfl

theorem sound_ofNat (n : UInt32) (depth : Nat) : (ofNat n.toNat).sound depth := by
  have hn : n.toNat < UInt64.size := n.toNat_lt.trans (by decide)
  rw [ofNat, sound, Numeral.toBinary64?_ofNat hn]
  rfl

theorem sound_ofNonempty {α : Type} {depth : Nat} {write : α → Json} {xs : List α}
    (h : ∀ x ∈ xs, (write x).sound depth) : ∀ v ∈ ofNonempty write xs, v.sound (depth + 1) := by
  intro v hv
  unfold ofNonempty at hv
  split at hv
  · cases hv
  · cases hv
    exact sound_array (List.forall_mem_map.mpr h)

/-- A list that was left out reads as the empty one. -/
theorem defaulted_ofNonempty {α β : Type} {read : Json → Option (List β)} {write : α → Json}
    {f : α → β} {xs : List α} (h : xs ≠ [] → read (.array (xs.map write)) = some (xs.map f)) :
    defaulted [] read (ofNonempty write xs) = some (xs.map f) := by
  cases xs with
  | nil => rfl
  | cons x xs => exact h (List.cons_ne_nil x xs)

end Json

theorem Anchor.ofJson?_name (a : Anchor) : ofJson? (Json.ofString a.name) = some a := by
  simp [ofJson?]

/-! ### Cues and attachments -/

namespace Cue

/-- The cue with the positive zero in place of the negative one. -/
def settled (c : Cue) : Cue :=
  if c.offset.isZero then { c with offset := .zero } else c

theorem toJson_settled (c : Cue) : c.settled.toJson = c.toJson := by
  unfold settled
  split
  · next hzero =>
      have hpositive : Binary64.zero.isZero = true := rfl
      simp only [toJson, hzero, hpositive, if_true]
  · rfl

theorem ofJson?_toJson {c : Cue} (h : c.offset.Kept) : ofJson? c.toJson = some c.settled := by
  rw [toJson, Json.ofMembers_eq, ofJson?, Record.ofJson?, Option.bind_some, ofRecord?,
    field?_present 0 rfl, field?_present 1 rfl, field?_present 2 rfl, field?_present 3 rfl]
  unfold settled
  cases c.offset.isZero with
  | true => simp [Anchor.ofJson?_name]
  | false =>
      have hoffset : (Json.ofBinary64 c.offset).toBinary64? = some c.offset := h
      simp [Anchor.ofJson?_name, hoffset]

theorem sound_toJson {c : Cue} (h : c.offset.ReadsBack) (depth : Nat) :
    c.toJson.sound (depth + 1) := by
  refine Json.sound_ofMembers ?_
  simp [Json.sound_ofString, h.sound depth]

end Cue

namespace Attachment

theorem ofJson?_toJson {a : Attachment} (h : ∀ x ∈ a.numbers, x.Kept) :
    ofJson? a.toJson = some a := by
  obtain ⟨hoffset, hvolume, hin, hout⟩ := forall_mem_numbers.mp h
  have hoffset : (Json.ofBinary64 a.offset).toBinary64? = some a.offset := hoffset
  have hanchor : nullable Anchor.ofJson? (a.anchor.map (Json.ofString ·.name)) = some a.anchor :=
    nullable_map rfl fun anchor _ => Anchor.ofJson?_name anchor
  have hvolume := nullable_map rfl hvolume
  have hlooped : nullable Json.toBool? (a.looped.map Json.bool) = some a.looped :=
    nullable_map rfl fun _ _ => rfl
  have hin := nullable_map rfl hin
  have hout := nullable_map rfl hout
  have hlabel : nullable Json.toString? (a.label.map Json.ofString) = some a.label :=
    nullable_map rfl fun _ _ => rfl
  rw [toJson, Json.ofMembers_eq, ofJson?, Record.ofJson?, Option.bind_some, ofRecord?,
    field?_present 0 rfl, field?_present 1 rfl, field?_present 2 rfl, field?_present 3 rfl,
    field?_present 4 rfl, field?_present 5 rfl, field?_present 6 rfl, field?_present 7 rfl]
  simp [hoffset, hanchor, hvolume, hlooped, hin, hout, hlabel]

theorem sound_toJson {a : Attachment} (h : ∀ x ∈ a.numbers, x.ReadsBack) (depth : Nat) :
    a.toJson.sound (depth + 1) := by
  obtain ⟨hoffset, hvolume, hin, hout⟩ := forall_mem_numbers.mp h
  refine Json.sound_ofMembers ?_
  simp only [List.forall_mem_cons, Option.forall_mem_map, Option.mem_some_iff, forall_eq']
  exact ⟨Json.sound_ofString _ _, fun _ _ => Json.sound_ofString _ _, hoffset.sound _,
    fun x hx => (hvolume x hx).sound _, fun _ _ => rfl, fun x hx => (hin x hx).sound _,
    fun x hx => (hout x hx).sound _, fun _ _ => Json.sound_ofString _ _, List.forall_mem_nil _⟩

/-- A list of attachments is not taken for a single one. -/
theorem oneOrMany?_map {as : List Attachment} (hne : as ≠ [])
    (h : ∀ a ∈ as, ∀ x ∈ a.numbers, x.Kept) :
    oneOrMany? (.array (as.map toJson)) = some as := by
  have hmany : Json.toListOf? ofJson? (.array (as.map toJson)) = some (as.map id) :=
    Json.toListOf?_map fun a ha => ofJson?_toJson (h a ha)
  have hone : ofJson? (.array (as.map toJson)) = none := by
    obtain ⟨a, rest, rfl⟩ := List.exists_cons_of_ne_nil hne
    rw [ofJson?, Record.ofJson?]
    split
    · rfl
    · rfl
  rw [List.map_id] at hmany
  rw [oneOrMany?, hone]
  · exact hmany
  · intro hnull
    cases hnull

end Attachment

/-! ### Items -/

namespace Transition

theorem ofRecord?_members (t : Transition) (type : Option Json) :
    ofRecord? (.named (present (("type", type) :: t.members))) = some t := by
  have hdirection : nullable (Json.toAlternative? Direction.ofName?)
      (t.direction.map (Json.ofString ·.name)) = some t.direction :=
    nullable_map rfl fun d _ => Direction.ofName?_name d
  have hsides : nullable (Json.toAlternative? Sides.ofName?)
      (t.sides.map (Json.ofString ·.name)) = some t.sides :=
    nullable_map rfl fun m _ => Sides.ofName?_name m
  rw [members, ofRecord?, field?_present 0 rfl, field?_present 1 rfl, field?_present 2 rfl,
    field?_present 3 rfl]
  simp [toAlternative?_ofString, toCount?_ofNat, hdirection, hsides]

end Transition

namespace Item

/-- The item with the positive zero in place of the negative one in the offsets of its cues. -/
def settled (i : Item) : Item :=
  i.withSound (i.speech.map Cue.settled) i.audio

theorem speech?_ofNonempty {speech : List Cue} (h : ∀ c ∈ speech, c.offset.Kept) :
    speech? (Json.ofNonempty Cue.toJson speech) = some (speech.map Cue.settled) :=
  Json.defaulted_ofNonempty fun _ => Json.toListOf?_map fun c hc => Cue.ofJson?_toJson (h c hc)

theorem audio?_ofNonempty {audio : List Attachment} (h : ∀ a ∈ audio, ∀ x ∈ a.numbers, x.Kept) :
    audio? (Json.ofNonempty Attachment.toJson audio) = some audio := by
  have hmany : audio? (Json.ofNonempty Attachment.toJson audio) = some (audio.map id) := by
    refine Json.defaulted_ofNonempty fun hne => ?_
    rw [List.map_id]
    exact Attachment.oneOrMany?_map hne h
  rwa [List.map_id] at hmany

theorem cardOfRecord?_members {c : Card} (type : Option Json)
    (h : ∀ x ∈ (Item.card c).numbers, x.Kept) :
    cardOfRecord? (.named (present (("type", type) :: (Item.card c).members))) =
      some { c with speech := c.speech.map Cue.settled } := by
  obtain ⟨hseconds, hsounds⟩ := List.forall_mem_cons.mp h
  obtain ⟨hspeech, haudio⟩ := forall_mem_soundNumbers.mp hsounds
  have hsubtitle : nullable Json.toString? (c.subtitle.map Json.ofString) = some c.subtitle :=
    nullable_map rfl fun _ _ => rfl
  have hseconds : nullable Json.toBinary64? (some (Json.ofBinary64 c.seconds)) =
      some (some c.seconds) := by
    refine nullable_map (o := some c.seconds) rfl ?_
    rintro x ⟨⟩
    exact hseconds
  rw [members, cardOfRecord?, field?_present 0 rfl, field?_present 1 rfl, field?_present 2 rfl,
    field?_present 3 rfl, field?_present 4 rfl]
  simp [hsubtitle, hseconds, speech?_ofNonempty hspeech, audio?_ofNonempty haudio]

theorem castOfRecord?_members {c : Cast} (type : Option Json)
    (h : ∀ x ∈ (Item.cast c).numbers, x.Kept) :
    castOfRecord? (.named (present (("type", type) :: (Item.cast c).members))) =
      some { c with speech := c.speech.map Cue.settled } := by
  obtain ⟨hspeech, haudio⟩ := forall_mem_soundNumbers.mp h
  have hcolumns : nullable Json.toCount? (c.columns.map (Json.ofNat ·.toNat)) = some c.columns :=
    nullable_map rfl fun n _ => toCount?_ofNat n
  have hrows : nullable Json.toCount? (c.rows.map (Json.ofNat ·.toNat)) = some c.rows :=
    nullable_map rfl fun n _ => toCount?_ofNat n
  rw [members, castOfRecord?, field?_present 0 rfl, field?_present 1 rfl, field?_present 2 rfl,
    field?_present 3 rfl, field?_present 4 rfl]
  simp [hcolumns, hrows, speech?_ofNonempty hspeech, audio?_ofNonempty haudio]

/-- The type of an item is found among its members. -/
theorem filter_present_type (type : String) {members : List (String × Option Json)}
    (h : members.filter (fun m => decide (m.1 = "type")) = []) :
    (present (("type", some (Json.ofString type)) :: members)).filter (·.1 = some "type") =
      [(some "type", Json.ofString type)] := by
  have hname : (fun m : Option String × Json => decide (m.1 = some "type")) =
      fun m => m.1.any (fun key => decide (key = "type")) := by
    funext m
    obtain ⟨key | key, v⟩ := m <;> simp
  rw [hname, Json.filter_present (fun key => decide (key = "type")),
    List.filter_cons_of_pos (by rfl), h]
  rfl

theorem ofJson?_toJson_eq (i : Item) : ofJson? i.toJson = ofFields? i.typeName i.toJson := by
  have hnone : i.members.filter (fun m => decide (m.1 = "type")) = [] := by cases i <;> rfl
  have htype := filter_present_type i.typeName hnone
  rw [toJson, Json.ofMembers_eq, ofJson?, htype]
  rfl

theorem ofJson?_toJson {i : Item} (h : ∀ x ∈ i.numbers, x.Kept) :
    ofJson? i.toJson = some i.settled := by
  rw [ofJson?_toJson_eq, toJson, Json.ofMembers_eq]
  cases i with
  | transition t =>
      change (Transition.ofRecord? _).map Item.transition = _
      rw [members, Transition.ofRecord?_members]
      rfl
  | card c =>
      change (cardOfRecord? _).map Item.card = _
      rw [cardOfRecord?_members _ h]
      rfl
  | cast c =>
      change (castOfRecord? _).map Item.cast = _
      rw [castOfRecord?_members _ h]
      rfl

theorem sound_toJson {i : Item} (h : ∀ x ∈ i.numbers, x.ReadsBack) (depth : Nat) :
    i.toJson.sound (depth + 3) := by
  refine Json.sound_ofMembers (List.forall_mem_cons.mpr ⟨?_, ?_⟩)
  · rintro v ⟨⟩
    rfl
  cases i with
  | transition t =>
      simp only [members, Transition.members, List.forall_mem_cons, Option.forall_mem_map,
        Option.mem_some_iff, forall_eq']
      exact ⟨Json.sound_ofString _ _, Json.sound_ofNat _ _, fun _ _ => Json.sound_ofString _ _,
        fun _ _ => Json.sound_ofString _ _, List.forall_mem_nil _⟩
  | card c =>
      obtain ⟨hseconds, hsounds⟩ := List.forall_mem_cons.mp h
      obtain ⟨hspeech, haudio⟩ := forall_mem_soundNumbers.mp hsounds
      simp only [members, List.forall_mem_cons, Option.forall_mem_map, Option.mem_some_iff,
        forall_eq']
      exact ⟨Json.sound_ofString _ _, fun _ _ => Json.sound_ofString _ _, hseconds.sound _,
        Json.sound_ofNonempty fun c hc => Cue.sound_toJson (hspeech c hc) depth,
        Json.sound_ofNonempty fun a ha => Attachment.sound_toJson (haudio a ha) depth,
        List.forall_mem_nil _⟩
  | cast c =>
      obtain ⟨hspeech, haudio⟩ := forall_mem_soundNumbers.mp h
      simp only [members, List.forall_mem_cons, Option.forall_mem_map, Option.mem_some_iff,
        forall_eq']
      exact ⟨Json.sound_ofString _ _, fun _ _ => Json.sound_ofNat _ _,
        fun _ _ => Json.sound_ofNat _ _,
        Json.sound_ofNonempty fun c hc => Cue.sound_toJson (hspeech c hc) depth,
        Json.sound_ofNonempty fun a ha => Attachment.sound_toJson (haudio a ha) depth,
        List.forall_mem_nil _⟩

theorem toJson_settled (i : Item) : i.settled.toJson = i.toJson := by
  have hspeech (speech : List Cue) :
      Json.ofNonempty Cue.toJson (speech.map Cue.settled) = Json.ofNonempty Cue.toJson speech := by
    have hcues : Cue.toJson ∘ Cue.settled = Cue.toJson := funext Cue.toJson_settled
    rw [Json.ofNonempty, Json.ofNonempty, List.map_map, hcues, List.isEmpty_map]
  cases i with
  | transition t => rfl
  | card c => simp only [settled, withSound, speech, audio, toJson, typeName, members, hspeech]
  | cast c => simp only [settled, withSound, speech, audio, toJson, typeName, members, hspeech]

end Item

/-! ### Timelines -/

namespace Timeline

/-- The timeline with the positive zero in place of the negative one in the offsets of its cues. -/
def settled (t : Timeline) : Timeline :=
  { t with items := t.items.map Item.settled }

theorem document_settled (t : Timeline) : t.settled.document = t.document := by
  have hitems : Item.toJson ∘ Item.settled = Item.toJson := funext Item.toJson_settled
  simp only [document, toJson, itemsJson, settled, List.map_map, hitems]

theorem ofJson?_toJson {t : Timeline} (h : ∀ x ∈ t.numbers, x.Kept) :
    ofJson? t.toJson = some t.settled := by
  have hitems : Json.toListOf? Item.ofSound? t.itemsJson = some (t.items.map Item.settled) := by
    refine Json.toListOf?_map fun i hi => ?_
    have hnumbers : ∀ x ∈ i.numbers, x.Kept :=
      fun x hx => h x (List.mem_flatMap.mpr ⟨i, hi, hx⟩)
    have hsound : i.toJson.sound (Json.nestingLimit - 2) :=
      Item.sound_toJson (fun x hx => (hnumbers x hx).readsBack) 122
    rw [Item.ofSound?, if_pos hsound]
    exact Item.ofJson?_toJson hnumbers
  have hkeys : hasCleanKeys t.toJson = true := rfl
  rw [ofJson?, if_pos hkeys, toJson, Json.ofMembers_eq, Record.ofJson?, Option.bind_eq_bind,
    Option.bind_some, field?_present 0 rfl, field?_present 1 rfl]
  simp [hitems, settled]

/-- A document is read as the value that was printed. -/
theorem ofText_document_eq (t : Timeline) : ofText t.document = orMalformed (ofJson? t.toJson) := by
  rw [ofText, ofDocument?, document, Json.pretty, String.toList_ofList, Json.parse?_print,
    Option.bind_some]

/-- The document of a timeline whose numbers are kept. -/
theorem ofText_document {t : Timeline} (h : ∀ x ∈ t.numbers, x.Kept) :
    ofText t.document = .ok t.settled := by
  rw [ofText_document_eq, ofJson?_toJson h]
  rfl

/-- A timeline that some document holds, be it a text or the bytes of a file. -/
def Documented (t : Timeline) : Prop :=
  (∃ text, ofText text = .ok t) ∨ ∃ bytes, ofBytes bytes = .ok t

theorem orMalformed_eq_ok {t? : Option Timeline} {t : Timeline} (h : orMalformed t? = .ok t) :
    t? = some t := by
  cases t? with
  | none => cases h
  | some u =>
      cases h
      rfl

theorem Documented.isFinite {t : Timeline} (h : t.Documented) : ∀ x ∈ t.numbers, x.isFinite := by
  rcases h with ⟨text, h⟩ | ⟨bytes, h⟩
  · obtain ⟨v, _, hv⟩ := Option.bind_eq_some_iff.mp (orMalformed_eq_ok h)
    exact isFinite_of_ofJson? hv
  · obtain ⟨v, _, hv⟩ := Option.bind_eq_some_iff.mp (orMalformed_eq_ok h)
    exact isFinite_of_ofJson? hv

/-- The round trip: a timeline whose numbers are finite, or which some document holds, and whose
numbers are read back from their texts is read back from its own document, up to the sign of a zero
in the offset of a cue; and what was read is written as the same text. -/
theorem document_roundTrip :
    (∀ t : Timeline, (∀ x ∈ t.numbers, x.isFinite) → (∀ x ∈ t.numbers, x.ReadsBack) →
      ofText t.document = .ok t.settled ∧ t.settled.document = t.document) ∧
    ∀ t : Timeline, t.Documented → (∀ x ∈ t.numbers, x.ReadsBack) →
      ofText t.document = .ok t.settled ∧ t.settled.document = t.document := by
  have roundTrip : ∀ t : Timeline, (∀ x ∈ t.numbers, x.isFinite) →
      (∀ x ∈ t.numbers, x.ReadsBack) →
        ofText t.document = .ok t.settled ∧ t.settled.document = t.document := by
    intro t hfinite hback
    refine ⟨ofText_document fun x hx => ?_, document_settled t⟩
    exact Binary64.readsBack_iff.mp (hback x hx) (hfinite x hx)
  exact ⟨roundTrip, fun t ht => roundTrip t ht.isFinite⟩

/-- A card with a cue at the negative zero, a sound and texts that need escapes. -/
def spoken : Timeline :=
  ⟨"say \"hi\"",
    [.card ⟨"a\\b\n", none, .ofRatio 5 2, [⟨"hi", "af_heart", .outEnd, .signedZero true⟩],
      [.plain "a.wav" .inEnd .zero]⟩]⟩

/-- A timeline that the round trip changes. -/
theorem document_roundTrip_spoken :
    (∀ x ∈ spoken.numbers, x.isFinite ∧ x.ReadsBack) ∧
      ofText spoken.document = .ok spoken.settled ∧ spoken.settled ≠ spoken ∧
      ofText spoken.settled.document = .ok spoken.settled := by
  have hfinite : ∀ x ∈ spoken.numbers, x.isFinite := by decide +kernel
  have hkept : ∀ x ∈ spoken.numbers, (Json.ofBinary64 x).toBinary64? = some x := by
    decide +kernel
  have hback : ∀ x ∈ spoken.numbers, x.ReadsBack :=
    fun x hx => Binary64.readsBack_iff.mpr fun _ => hkept x hx
  obtain ⟨hread, hwrite⟩ := document_roundTrip.1 spoken hfinite hback
  refine ⟨fun x hx => ⟨hfinite x hx, hback x hx⟩, hread, by decide +kernel, ?_⟩
  rw [hwrite, hread]

end Timeline

end Storyboard
