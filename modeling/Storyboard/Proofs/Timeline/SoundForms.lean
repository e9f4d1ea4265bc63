import Mathlib
import Storyboard.Proofs.Json.Replacement
import Storyboard.Proofs.Timeline.Rearrangement

/-!
The two forms of a clip's sounds. A single attachment is never a list of attachments, although both
may be arrays: a source is a text, which no attachment is. So it does not matter which form is tried
first, and a single attachment may stand for the list of one and the other way round.
-/

namespace Storyboard
open Json (InField InList Record)
open Json.Record (Field Agree Alike Apart required)

/-! ### Attachments -/

namespace Attachment

variable {v v' : Json} {depth : Nat}

/-- An attachment is an object, or an array that begins with its source. -/
theorem form_of_ofJson? (h : (ofJson? v).isSome) :
    (∃ members, v = .object members) ∨ ∃ source values, v = .array (.text source :: values) := by
  obtain ⟨a, ha⟩ := Option.isSome_iff_exists.mp h
  obtain ⟨r, hr, ha⟩ := Option.bind_eq_some_iff.mp ha
  cases v with
  | object members => exact .inl ⟨members, rfl⟩
  | array values =>
      right
      rw [Record.ofJson?] at hr
      split at hr
      · cases hr
        simp only [ofRecord?, Record.field?, Option.bind_eq_bind, Option.bind_some,
          Option.bind_eq_some_iff] at ha
        obtain ⟨source, hsource, -⟩ := ha
        obtain ⟨w, hw, hsource⟩ := Option.bind_eq_some_iff.mp hsource
        obtain ⟨values, rfl⟩ : ∃ rest, values = w :: rest := by
          cases values <;> cases hw
          exact ⟨_, rfl⟩
        cases w <;> cases hsource
        exact ⟨_, values, rfl⟩
      · cases hr
  | _ => cases hr

/-- No value is both an attachment and a list of them. -/
theorem not_single_and_list (v : Json) :
    ¬ ((ofJson? v).isSome ∧ (Json.toListOf? ofJson? v).isSome) := by
  rintro ⟨hsingle, hlist⟩
  obtain ⟨as, has⟩ := Option.isSome_iff_exists.mp hlist
  rcases form_of_ofJson? hsingle with ⟨members, rfl⟩ | ⟨source, values, rfl⟩
  · cases has
  · -- the source of the one would be an attachment of the other
    simp only [Json.toListOf?, Json.toList?, Option.bind_some, List.mapM_cons] at has
    cases has

/-- It does not matter which of the two forms is tried first. -/
theorem oneOrMany?_eq_or (h : v ≠ .null) :
    oneOrMany? v = ((ofJson? v).map ([·])).or (Json.toListOf? ofJson? v) ∧
      oneOrMany? v = (Json.toListOf? ofJson? v).or ((ofJson? v).map ([·])) := by
  have hsingle : oneOrMany? v = ((ofJson? v).map ([·])).or (Json.toListOf? ofJson? v) := by
    rw [oneOrMany?]
    · cases ofJson? v <;> rfl
    · exact h
  refine ⟨hsingle, hsingle.trans ?_⟩
  have hnot := not_single_and_list v
  cases hv : ofJson? v <;> cases hlist : Json.toListOf? ofJson? v <;> simp [hv, hlist] at hnot ⊢

/-- The change between an attachment and the list of it, where the list is accepted at a depth. -/
inductive Switched (depth : Nat) : Json → Json → Prop where
  | wrap {v : Json} :
      (ofJson? v).isSome → (Json.array [v]).sound depth → Switched depth v (.array [v])
  | unwrap {v : Json} :
      (ofJson? v).isSome → Switched depth (.array [v]) v

/-- A single attachment stands for the list of it. -/
theorem oneOrMany?_singleton (h : (ofJson? v).isSome) :
    oneOrMany? (.array [v]) = oneOrMany? v := by
  obtain ⟨a, ha⟩ := Option.isSome_iff_exists.mp h
  have hv : v ≠ .null := by
    rintro rfl
    cases ha
  have hlisted : Json.array [v] ≠ .null := by simp
  have hlist : Json.toListOf? ofJson? (.array [v]) = some [a] := by
    simp [Json.toListOf?, Json.toList?, ha]
  rw [(oneOrMany?_eq_or hv).1, ha, (oneOrMany?_eq_or (v := .array [v]) hlisted).2, hlist]
  rfl

theorem oneOrMany?_switched (h : Switched depth v v') : oneOrMany? v = oneOrMany? v' := by
  cases h with
  | wrap hv _ => exact (oneOrMany?_singleton hv).symm
  | unwrap hv => exact oneOrMany?_singleton hv

theorem sound_switched (h : Switched depth v v') (hv : v.sound depth) : v'.sound depth := by
  cases h with
  | wrap _ hsound => exact hsound
  | unwrap _ =>
      have hinner : v'.sound (depth - 1) := Json.sound_of_mem hv (List.mem_singleton_self v')
      exact Json.sound_mono (Nat.sub_le depth 1) v' hinner

end Attachment

/-! ### Items -/

namespace Item

/-- The fields of an item beside its type and its sounds, by their names. -/
def ownNames (type : String) : List (List String) :=
  if type = "transition" then [["name"], ["durationFrames"], ["direction"], ["mode"]]
  else if type = "card" then [["title"], ["subtitle"], ["seconds"], ["speech"]]
  else [["castPath", "path"], ["cols"], ["rows"], ["speech"]]

/-- The fields of an item beside its type, where its sounds may change form. -/
def switchFields (depth : Nat) (type : String) : List Field :=
  (ownNames type).map Field.fixed ++ [⟨["audio"], Attachment.Switched depth⟩]

/-- The form of an item's sounds is changed; they are the fifth field behind the type. -/
def Switched (depth : Nat) : Json → Json → Prop :=
  InField "audio" 5 (Attachment.Switched (depth - 1))

variable {depth : Nat} {v v' : Json} {r r' : Record}

theorem apart_switchFields (depth : Nat) (type : String) :
    Apart (typeField :: switchFields depth type) := by
  unfold switchFields ownNames
  split
  · change ["type", "name", "durationFrames", "direction", "mode", "audio"].Nodup
    decide
  split
  · change ["type", "title", "subtitle", "seconds", "speech", "audio"].Nodup
    decide
  · change ["type", "castPath", "path", "cols", "rows", "speech", "audio"].Nodup
    decide

theorem alike_of_switched (h : Switched depth v v') (type : String) :
    Alike (typeField :: switchFields (depth - 1) type) v v' := by
  refine Record.InField.alike h (apart_switchFields _ type) ?_
  unfold switchFields ownNames
  split_ifs <;> rfl

theorem bind_audio_of_switch {own : List Field} (h : Agree own r r')
    (hf : own[4]? = some ⟨["audio"], Attachment.Switched depth⟩) :
    (r.field? 4 ["audio"]).bind audio? = (r'.field? 4 ["audio"]).bind audio? :=
  h.bind_eq 4 hf fun _ _ => Attachment.oneOrMany?_switched

theorem ofFields?_of_switch {type : String} (h : Alike (switchFields depth type) v v') :
    ofFields? type v = ofFields? type v' := by
  unfold ofFields?
  split
  · next htype =>
      subst htype
      rw [h.bind_ofJson? fun r r' hagree => ?_]
      rw [Transition.ofRecord?, Transition.ofRecord?, hagree.field?_eq 0 rfl, hagree.field?_eq 1 rfl,
        hagree.field?_eq 2 rfl, hagree.field?_eq 3 rfl]
  split
  · next htype =>
      subst htype
      rw [h.bind_ofJson? fun r r' hagree => ?_]
      simp only [cardOfRecord?, hagree.field?_eq 0 rfl, hagree.field?_eq 1 rfl,
        hagree.field?_eq 2 rfl, hagree.field?_eq 3 rfl, Option.bind_eq_bind, ← Option.bind_assoc,
        bind_audio_of_switch hagree rfl]
  split
  · next htype =>
      subst htype
      rw [h.bind_ofJson? fun r r' hagree => ?_]
      simp only [castOfRecord?, hagree.field?_eq 0 rfl, hagree.field?_eq 1 rfl,
        hagree.field?_eq 2 rfl, hagree.field?_eq 3 rfl, Option.bind_eq_bind, ← Option.bind_assoc,
        bind_audio_of_switch hagree rfl]
  · rfl

theorem ofJson?_switched (h : Switched depth v v') : ofJson? v = ofJson? v' := by
  rw [ofJson?_eq_bind, ofJson?_eq_bind, type?_eq (alike_of_switched h "")]
  refine Option.bind_congr fun type _ => ?_
  exact ofFields?_of_switch (alike_rest (alike_of_switched h type))

theorem ofSound?_switched {i : Item} (h : Switched (Json.nestingLimit - 2) v v')
    (hi : ofSound? v = some i) : ofSound? v' = some i := by
  rw [ofSound?] at hi ⊢
  split at hi
  · next hsound =>
      have hsound' := h.sound (fun _ _ => Attachment.sound_switched) hsound
      rw [if_pos hsound', ← ofJson?_switched h, hi]
  · cases hi

end Item

/-! ### Documents -/

namespace Timeline

/-- The form of the sounds of one item is changed. -/
def Switched : Json → Json → Prop :=
  InField "items" 1 (InList (Item.Switched (Json.nestingLimit - 2)))

variable {v v' : Json} {t : Timeline}

theorem hasCleanKeys_switched (h : Switched v v') : hasCleanKeys v = hasCleanKeys v' := by
  cases h with
  | member => simp [hasCleanKeys]
  | value => rfl

theorem ofJson?_switched (h : Switched v v') (ht : ofJson? v = some t) : ofJson? v' = some t := by
  have halike : Alike [.fixed ["name"], ⟨["items"], InList (Item.Switched _)⟩] v v' :=
    Record.InField.alike h (by change ["name", "items"].Nodup; decide) rfl
  rw [ofJson?] at ht ⊢
  rw [← hasCleanKeys_switched h]
  split at ht
  · next hclean =>
      rw [if_pos hclean]
      refine halike.bind_ofJson?_eq_some (fun r r' hagree hr => ?_) 2 ht
      rw [hagree.field?_eq 0 rfl] at hr
      simp only [Option.bind_eq_bind, Option.bind_eq_some_iff] at hr ⊢
      obtain ⟨foundName, hfoundName, name, hname, found, hfound, items, hitems, ht⟩ := hr
      have hread : (r'.field? 1 ["items"]).bind (required (Json.toListOf? Item.ofSound?)) =
          some items :=
        hagree.bind_eq_some 1 rfl
          (fun _ _ hinside => hinside.toListOf?_eq_some fun _ _ _ => Item.ofSound?_switched)
          (Option.bind_eq_some_iff.mpr ⟨found, hfound, hitems⟩)
      obtain ⟨found', hfound', hitems'⟩ := Option.bind_eq_some_iff.mp hread
      exact ⟨foundName, hfoundName, name, hname, found', hfound', items, hitems', ht⟩
  · cases ht

/-- No value is both an attachment and a list of them, it does not matter which of the two is tried
first, and changing the one for the other, as often as the limit on nesting allows, leaves the
timeline of a document unchanged. -/
theorem sounds_unambiguous :
    (∀ v : Json,
      ¬ ((Attachment.ofJson? v).isSome ∧ (Json.toListOf? Attachment.ofJson? v).isSome)) ∧
    (∀ v : Json, v ≠ .null →
      Attachment.oneOrMany? v =
          ((Attachment.ofJson? v).map ([·])).or (Json.toListOf? Attachment.ofJson? v) ∧
        Attachment.oneOrMany? v =
          (Json.toListOf? Attachment.ofJson? v).or ((Attachment.ofJson? v).map ([·]))) ∧
    ∀ (text text' : String) (v v' : Json) (t : Timeline), Json.parse? text.toList = some v →
      Json.parse? text'.toList = some v' → Relation.ReflTransGen Switched v v' →
        ofText text = .ok t → ofText text' = .ok t := by
  refine ⟨Attachment.not_single_and_list, fun _ => Attachment.oneOrMany?_eq_or, ?_⟩
  intro text text' v v' t htext htext' hswitched ht
  have hread : ofJson? v = some t := by
    rw [ofText, ofDocument?, htext, Option.bind_some] at ht
    cases hv : ofJson? v <;> rw [hv] at ht <;> cases ht
    rfl
  have hread' : ofJson? v' = some t := by
    clear htext htext' ht
    induction hswitched with
    | refl => exact hread
    | tail _ hstep ih => exact ofJson?_switched hstep ih
  rw [ofText, ofDocument?, htext', Option.bind_some, hread']
  rfl

/-- A document of one card with sounds. -/
def underscored (audio : Json) : Json :=
  .object (holding [(some "type", .ofString "card"), (some "title", .ofString "T"),
    (some "audio", audio)])

/-- An attachment in the form of an array. -/
def hum : Json :=
  .array [.ofString "hum.ogg"]

/-- What a document with it holds. -/
def humming : Timeline :=
  ⟨"d", [.card ⟨"T", none, .zero, [], [⟨"hum.ogg", none, .zero, none, none, none, none, none⟩]⟩]⟩

theorem switched_underscored {audio audio' : Json} (h : Attachment.Switched 124 audio audio') :
    Switched (underscored audio) (underscored audio') := by
  have hitem : Item.Switched (Json.nestingLimit - 2)
      (.object [(some "type", .ofString "card"), (some "title", .ofString "T"), (some "audio", audio)])
      (.object [(some "type", .ofString "card"), (some "title", .ofString "T"),
        (some "audio", audio')]) :=
    @InField.member _ _ _ [(some "type", .ofString "card"), (some "title", .ofString "T")] [] _ _ h
  exact @InField.member _ _ _ [] [(some "name", .ofString "d")] _ _
    (@InList.element _ [] [] _ _ hitem)

theorem sounds_unambiguous_hum :
    Attachment.oneOrMany? hum = (Json.toListOf? Attachment.ofJson? hum).or
        ((Attachment.ofJson? hum).map ([·])) ∧
      ofText (underscored hum).pretty = .ok humming ∧
      ofText (underscored (.array [hum])).pretty = .ok humming := by
  have hsingle : Json.parse? (underscored hum).pretty.toList = some (underscored hum) := by
    rw [Json.pretty, String.toList_ofList, Json.parse?_print]
  have hlist : Json.parse? (underscored (.array [hum])).pretty.toList =
      some (underscored (.array [hum])) := by
    rw [Json.pretty, String.toList_ofList, Json.parse?_print]
  have hread : ofText (underscored hum).pretty = .ok humming := by
    rw [ofText, ofDocument?, hsingle, Option.bind_some]
    decide +kernel
  have hswitched : Switched (underscored hum) (underscored (.array [hum])) :=
    switched_underscored (.wrap rfl rfl)
  have hheld : hum ≠ .null := by simp [hum]
  obtain ⟨-, horder, hforms⟩ := sounds_unambiguous
  exact ⟨(horder hum hheld).2, hread, hforms _ _ _ _ _ hsingle hlist (.single hswitched) hread⟩

end Timeline

end Storyboard
