import Mathlib
import Storyboard.Timeline.File
import Storyboard.Proofs.Json.Rearrangement
import Storyboard.Proofs.Json.RoundTrip

/-!
Rearranged documents. In a compiled document the fields of the timeline, of an item, of a cue and
of an attachment may stand in any order, each of these objects may have members it does not know,
and a recording may go by either name: the document holds the same timeline.
-/

namespace Storyboard
open Json (InList Record)
open Json.Record (Field Agree Alike Apart required)

/-! ### Cues -/

namespace Cue

def fields : List Field :=
  Field.singles ["text", "voice", "anchor", "offsetSec"]

/-- One rearrangement of a cue that may nest to a depth. -/
def Rearranged (depth : Nat) : Json → Json → Prop :=
  Record.Rearranged fields fun v => v.sound (depth - 1)

theorem ofRecord?_eq {r r' : Record} (h : Agree fields r r') : ofRecord? r = ofRecord? r' := by
  rw [ofRecord?, ofRecord?, h.field?_eq 0 rfl, h.field?_eq 1 rfl, h.field?_eq 2 rfl,
    h.field?_eq 3 rfl]

theorem ofJson?_eq {depth : Nat} {v v' : Json} (h : Rearranged depth v v') :
    ofJson? v = ofJson? v' :=
  h.bind_ofJson? (Record.apart_singles (by decide)) (fun _ _ => ofRecord?_eq) 4

end Cue

/-! ### Attachments -/

namespace Attachment

def fields : List Field :=
  Field.singles
    ["src", "anchor", "offsetSec", "volume", "loop", "fadeInSec", "fadeOutSec", "label"]

/-- One rearrangement of an attachment that may nest to a depth. -/
def Rearranged (depth : Nat) : Json → Json → Prop :=
  Record.Rearranged fields fun v => v.sound (depth - 1)

variable {depth : Nat} {v v' : Json}

theorem ofRecord?_eq {r r' : Record} (h : Agree fields r r') : ofRecord? r = ofRecord? r' := by
  rw [ofRecord?, ofRecord?, h.field?_eq 0 rfl, h.field?_eq 1 rfl, h.field?_eq 2 rfl,
    h.field?_eq 3 rfl, h.field?_eq 4 rfl, h.field?_eq 5 rfl, h.field?_eq 6 rfl, h.field?_eq 7 rfl]

theorem ofJson?_eq (h : Rearranged depth v v') : ofJson? v = ofJson? v' :=
  h.bind_ofJson? (Record.apart_singles (by decide)) (fun _ _ => ofRecord?_eq) 8

theorem ne_object_of_eq_some {α : Type} {read : Option Json → Option α} {found : Option Json}
    {members : List (Option String × Json)} {a : α} (hread : read (some (.object members)) = none)
    (h : read found = some a) : found ≠ some (.object members) := by
  rintro rfl
  rw [hread] at h
  cases h

/-- No field of an attachment holds an object. -/
theorem ofJson?_of_object_mem {values : List Json} {members : List (Option String × Json)}
    (h : .object members ∈ values) : ofJson? (.array values) = none := by
  by_contra hne
  obtain ⟨a, ha⟩ := Option.ne_none_iff_exists'.mp hne
  obtain ⟨r, hr, ha⟩ := Option.bind_eq_some_iff.mp ha
  obtain ⟨i, hi⟩ := List.getElem?_of_mem h
  rw [Record.ofJson?] at hr
  split at hr
  · next hwidth =>
      cases hr
      simp only [ofRecord?, Record.field?, Option.bind_eq_bind, Option.bind_some,
        Option.bind_eq_some_iff] at ha
      obtain ⟨_, h0, _, h1, _, h2, _, h3, _, h4, _, h5, _, h6, _, h7, _⟩ := ha
      have hlt : i < 8 := (List.getElem?_eq_some_iff.mp hi).1.trans_le hwidth
      interval_cases i
      exacts [ne_object_of_eq_some rfl h0 hi, ne_object_of_eq_some rfl h1 hi,
        ne_object_of_eq_some rfl h2 hi, ne_object_of_eq_some rfl h3 hi,
        ne_object_of_eq_some rfl h4 hi, ne_object_of_eq_some rfl h5 hi,
        ne_object_of_eq_some rfl h6 hi, ne_object_of_eq_some rfl h7 hi]
  · cases hr

theorem oneOrMany?_object (members : List (Option String × Json)) :
    oneOrMany? (.object members) = (ofJson? (.object members)).map ([·]) := by
  rw [oneOrMany?]
  · cases ofJson? (.object members) <;> rfl
  · exact nofun

theorem oneOrMany?_of_object_mem {values : List Json} {members : List (Option String × Json)}
    (h : .object members ∈ values) :
    oneOrMany? (.array values) = Json.toListOf? ofJson? (.array values) := by
  rw [oneOrMany?, ofJson?_of_object_mem h]
  exact nofun

/-- A single attachment, or one of a list. -/
theorem oneOrMany?_eq {depth' : Nat} (h : Rearranged depth v v' ∨ InList (Rearranged depth') v v') :
    oneOrMany? v = oneOrMany? v' := by
  rcases h with h | h
  · obtain ⟨members, members', rfl, rfl⟩ := h.exists_object
    rw [oneOrMany?_object, oneOrMany?_object, ofJson?_eq h]
  · have hlists := h.toListOf?_eq fun _ _ => ofJson?_eq
    obtain ⟨hww'⟩ := h
    obtain ⟨members, members', rfl, rfl⟩ := hww'.exists_object
    -- an array that holds an object is never a single attachment
    rwa [oneOrMany?_of_object_mem (List.mem_append_right _ List.mem_cons_self),
      oneOrMany?_of_object_mem (List.mem_append_right _ List.mem_cons_self)]

end Attachment

/-! ### Items -/

namespace Item

/-- The cues of a clip. -/
def speechField (depth : Nat) : Field :=
  ⟨["speech"], InList (Cue.Rearranged (depth - 1))⟩

/-- The sounds of a clip, a list or a single one. -/
def audioField (depth : Nat) : Field :=
  ⟨["audio"], fun v v' =>
    Attachment.Rearranged depth v v' ∨ InList (Attachment.Rearranged (depth - 1)) v v'⟩

/-- The fields of an item beside its type. -/
def fields (depth : Nat) (type : String) : List Field :=
  if type = "transition" then Field.singles ["name", "durationFrames", "direction", "mode"]
  else if type = "card" then
    Field.singles ["title", "subtitle", "seconds"] ++ [speechField depth, audioField depth]
  else if type = "cast" then
    .fixed ["castPath", "path"] :: Field.singles ["cols", "rows"] ++
      [speechField depth, audioField depth]
  else []

/-- The field that an item has in front of the others. -/
def typeField : Field :=
  .fixed ["type"]

/-- The type that an item names. -/
def type? : Json → Option String
  | .object members => (Record.field? (.named members) 0 ["type"]).bind (required Json.toString?)
  | .array values => (Record.field? (.listed values) 0 ["type"]).bind (required Json.toString?)
  | _ => none

/-- What is left of an item behind its type: an object keeps its members. -/
def rest : Json → Json
  | .array (_ :: values) => .array values
  | v => v

/-- One rearrangement of an item that may nest to a depth. -/
def Rearranged (depth : Nat) (v v' : Json) : Prop :=
  ∃ type, type? v = some type ∧
    Record.Rearranged (typeField :: fields (depth - 1) type) (fun w => w.sound (depth - 1)) v v'

theorem ofJson?_eq_bind (v : Json) : ofJson? v = (type? v).bind fun type => ofFields? type (rest v) := by
  cases v with
  | null | bool | number | text => rfl
  | array values =>
      rcases values with _ | ⟨v, values⟩
      · rfl
      · cases v with
        | text s => cases s <;> rfl
        | _ => rfl
  | object members =>
      have hname : (fun m : Option String × Json => decide (m.1 = some "type")) =
          fun m => m.1.any ["type"].contains := by
        funext m
        obtain ⟨key | key, v⟩ := m <;> simp
      rw [ofJson?, type?, Record.field?_named, hname]
      generalize members.filter (fun m => m.1.any ["type"].contains) = found
      rcases found with _ | ⟨⟨key, v⟩, found⟩
      · rfl
      · cases v with
        | text s => cases s <;> cases found <;> rfl
        | _ => cases found <;> rfl

theorem apart_fields (depth : Nat) (type : String) : Apart (typeField :: fields depth type) := by
  unfold fields
  split
  · change ["type", "name", "durationFrames", "direction", "mode"].Nodup
    decide
  split
  · change ["type", "title", "subtitle", "seconds", "speech", "audio"].Nodup
    decide
  split
  · change ["type", "castPath", "path", "cols", "rows", "speech", "audio"].Nodup
    decide
  · change ["type"].Nodup
    decide

variable {depth : Nat} {v v' : Json} {r r' : Record}

theorem type?_eq {fields : List Field} (h : Alike (typeField :: fields) v v') :
    type? v = type? v' := by
  cases h with
  | named hagree => rw [type?, type?, hagree.field?_eq 0 rfl]
  | listed _ hagree => rw [type?, type?, hagree.field?_eq 0 rfl]

/-- What is left of alike items behind their type is alike. -/
theorem alike_rest {fields : List Field} (h : Alike (typeField :: fields) v v') :
    Alike fields (rest v) (rest v') := by
  cases h with
  | named hagree => exact .named fun i f hf => hagree (i + 1) f hf
  | @listed values values' hlength hagree =>
      rcases values with _ | ⟨w, values⟩ <;> rcases values' with _ | ⟨w', values'⟩
      · exact .listed rfl fun i f hf => hagree (i + 1) f hf
      · cases hlength
      · cases hlength
      · exact .listed (Nat.succ.inj hlength) fun i f hf => hagree (i + 1) f hf

theorem speech?_eq (h : (speechField depth).Inside v v') :
    speech? (some v) = speech? (some v') :=
  h.toListOf?_eq fun _ _ => Cue.ofJson?_eq

theorem audio?_eq (h : (audioField depth).Inside v v') : audio? (some v) = audio? (some v') :=
  Attachment.oneOrMany?_eq h

section
variable {own : List Field} (h : Agree own r r')
include h

theorem bind_speech (hf : own[3]? = some (speechField depth)) :
    (r.field? 3 ["speech"]).bind speech? = (r'.field? 3 ["speech"]).bind speech? :=
  h.bind_eq 3 hf fun _ _ => speech?_eq

theorem bind_audio (hf : own[4]? = some (audioField depth)) :
    (r.field? 4 ["audio"]).bind audio? = (r'.field? 4 ["audio"]).bind audio? :=
  h.bind_eq 4 hf fun _ _ => audio?_eq

end

theorem transition_eq (h : Agree (fields depth "transition") r r') :
    Transition.ofRecord? r = Transition.ofRecord? r' := by
  rw [Transition.ofRecord?, Transition.ofRecord?, h.field?_eq 0 rfl, h.field?_eq 1 rfl,
    h.field?_eq 2 rfl, h.field?_eq 3 rfl]

theorem cardOfRecord?_eq (h : Agree (fields depth "card") r r') :
    cardOfRecord? r = cardOfRecord? r' := by
  -- regrouped, so that the fields of the cues and of the sounds stand together with their readers
  simp only [cardOfRecord?, h.field?_eq 0 rfl, h.field?_eq 1 rfl, h.field?_eq 2 rfl,
    Option.bind_eq_bind, ← Option.bind_assoc, bind_speech h rfl, bind_audio h rfl]

theorem castOfRecord?_eq (h : Agree (fields depth "cast") r r') :
    castOfRecord? r = castOfRecord? r' := by
  simp only [castOfRecord?, h.field?_eq 0 rfl, h.field?_eq 1 rfl, h.field?_eq 2 rfl,
    Option.bind_eq_bind, ← Option.bind_assoc, bind_speech h rfl, bind_audio h rfl]

theorem ofFields?_eq {type : String} (h : Alike (fields depth type) v v') :
    ofFields? type v = ofFields? type v' := by
  unfold ofFields?
  split
  · next htype =>
      subst htype
      rw [h.bind_ofJson? fun _ _ => transition_eq]
  split
  · next htype =>
      subst htype
      rw [h.bind_ofJson? fun _ _ => cardOfRecord?_eq]
  split
  · next htype =>
      subst htype
      rw [h.bind_ofJson? fun _ _ => castOfRecord?_eq]
  · rfl

theorem ofJson?_eq (h : Rearranged depth v v') : ofJson? v = ofJson? v' := by
  obtain ⟨type, htype, h⟩ := h
  have halike := h.alike (apart_fields _ type)
  have htype' := (type?_eq halike).symm.trans htype
  rw [ofJson?_eq_bind, ofJson?_eq_bind, htype, htype', Option.bind_some, Option.bind_some,
    ofFields?_eq (alike_rest halike)]

theorem sound_speech (h : (speechField depth).Inside v v') : v.sound depth = v'.sound depth :=
  h.sound_eq fun _ _ hcue => hcue.sound_eq_of_singles

theorem sound_audio (h : (audioField depth).Inside v v') : v.sound depth = v'.sound depth := by
  rcases h with h | h
  · exact h.sound_eq_of_singles
  · exact h.sound_eq fun _ _ hattachment => hattachment.sound_eq_of_singles

/-- Beside its cues and its sounds, nothing inside an item changes. -/
theorem mem_fields {type : String} {f : Field} (hf : f ∈ fields depth type) :
    (∃ names, f = .fixed names) ∨ f = speechField depth ∨ f = audioField depth := by
  unfold fields at hf
  split_ifs at hf <;>
    simp only [Field.singles, List.map_cons, List.map_nil, List.cons_append, List.nil_append,
      List.mem_cons, List.not_mem_nil, or_false] at hf
  · rcases hf with rfl | rfl | rfl | rfl <;> exact .inl ⟨_, rfl⟩
  · rcases hf with rfl | rfl | rfl | hf
    exacts [.inl ⟨_, rfl⟩, .inl ⟨_, rfl⟩, .inl ⟨_, rfl⟩, .inr hf]
  · rcases hf with rfl | rfl | rfl | hf
    exacts [.inl ⟨_, rfl⟩, .inl ⟨_, rfl⟩, .inl ⟨_, rfl⟩, .inr hf]

theorem sound_of_mem_fields {type : String} {f : Field} (hf : f ∈ fields depth type)
    (h : f.Inside v v') : v.sound depth = v'.sound depth := by
  obtain ⟨names, rfl⟩ | rfl | rfl := mem_fields hf
  · exact h.elim
  · exact sound_speech h
  · exact sound_audio h

theorem sound_eq (h : Rearranged depth v v') : v.sound depth = v'.sound depth := by
  obtain ⟨type, -, h⟩ := h
  refine h.sound_eq (fun _ hw => hw) (List.forall_mem_cons.mpr ⟨fun _ _ hinside => ?_, ?_⟩)
  · exact hinside.elim
  · exact fun f hf _ _ => sound_of_mem_fields hf

theorem ofSound?_eq (h : Rearranged (Json.nestingLimit - 2) v v') : ofSound? v = ofSound? v' := by
  rw [ofSound?, ofSound?, sound_eq h, ofJson?_eq h]

end Item

/-! ### Documents -/

namespace Timeline

def fields : List Field :=
  [.fixed ["name"], ⟨["items"], InList (Item.Rearranged (Json.nestingLimit - 2))⟩]

/-- One rearrangement of a document. Of what comes in beside its fields a document reads nothing. -/
def Rearranged : Json → Json → Prop :=
  Record.Rearranged fields fun _ => True

variable {v v' : Json}

theorem apart_fields : Apart fields := by
  change ["name", "items"].Nodup
  decide

theorem hasCleanKeys_eq (h : Rearranged v v') : hasCleanKeys v = hasCleanKeys v' := by
  cases h with
  | permute hperm => exact hperm.all_eq
  | add | rename | inMember => simp [hasCleanKeys]
  | inValue => rfl

theorem ofJson?_eq (h : Rearranged v v') : ofJson? v = ofJson? v' := by
  rw [ofJson?, ofJson?, hasCleanKeys_eq h]
  split
  · refine h.bind_ofJson? apart_fields (fun r r' hagree => ?_) 2
    have hitems : (r.field? 1 ["items"]).bind (required (Json.toListOf? Item.ofSound?)) =
        (r'.field? 1 ["items"]).bind (required (Json.toListOf? Item.ofSound?)) :=
      hagree.bind_eq 1 rfl fun _ _ hinside => hinside.toListOf?_eq fun _ _ => Item.ofSound?_eq
    simp only [hagree.field?_eq 0 rfl, Option.bind_eq_bind, ← Option.bind_assoc, hitems]
  · rfl

/-- Rearranging a document, step by step, leaves the timeline that it holds unchanged. -/
theorem ofText_rearranged {v v' : Json} (h : Relation.ReflTransGen Rearranged v v')
    {text text' : String} (htext : Json.parse? text.toList = some v)
    (htext' : Json.parse? text'.toList = some v') : ofText text' = ofText text := by
  rw [ofText, ofText, ofDocument?, ofDocument?, htext, htext', Option.bind_some, Option.bind_some]
  clear htext htext'
  induction h with
  | refl => rfl
  | tail _ hstep ih => rw [← ofJson?_eq hstep, ih]

/-- A recording, by a name of its path, with one cue. -/
def recordedAs (name : String) (cue : List (Option String × Json)) : List (Option String × Json) :=
  [(some name, .ofString "a.cast"), (some "type", .ofString "cast"),
    (some "speech", .array [.object cue])]

/-- A document of one item. -/
def holding (item : List (Option String × Json)) : List (Option String × Json) :=
  [(some "items", .array [.object item]), (some "name", .ofString "d")]

def greeting : List (Option String × Json) :=
  [(some "text", .ofString "hi")]

def foreignGreeting : List (Option String × Json) :=
  (some "lang", .ofString "en") :: greeting

def plain : Json :=
  .object (holding (recordedAs "castPath" greeting)).reverse

/-- The same document in another order, by the other name of the path, and with a member in each
object that the object does not know. -/
def scrambled : Json :=
  .object ((some "by", .text none) ::
    holding ((some "title", .array []) :: (recordedAs "path" foreignGreeting).reverse))

/-- A rearrangement of the only item. -/
theorem rearranged_holding {item item' : List (Option String × Json)}
    (htype : Item.type? (.object item) = some "cast")
    (h : Record.Rearranged (Item.typeField :: Item.fields 124 "cast") (fun w => w.sound 124)
      (.object item) (.object item')) :
    Rearranged (.object (holding item)) (.object (holding item')) := by
  have hinside : InList (Item.Rearranged (Json.nestingLimit - 2)) (.array [.object item])
      (.array [.object item']) :=
    @InList.element _ [] [] _ _ ⟨"cast", htype, h⟩
  exact .inMember (f := ⟨["items"], _⟩) (by simp [fields]) (by simp) hinside

theorem plain_scrambled : Relation.ReflTransGen Rearranged plain scrambled := by
  have hdocument : Rearranged plain (.object (holding (recordedAs "castPath" greeting))) :=
    .permute (List.reverse_perm _)
  have hname : Rearranged (.object (holding (recordedAs "castPath" greeting)))
      (.object (holding (recordedAs "path" greeting))) :=
    rearranged_holding rfl (.rename (f := .fixed ["castPath", "path"]) (by simp [Item.fields])
      (by simp [Field.fixed]) (by simp [Field.fixed]))
  have horder : Rearranged (.object (holding (recordedAs "path" greeting)))
      (.object (holding (recordedAs "path" greeting).reverse)) :=
    rearranged_holding rfl (.permute (List.reverse_perm _).symm)
  have hcue : Rearranged (.object (holding (recordedAs "path" greeting).reverse))
      (.object (holding (recordedAs "path" foreignGreeting).reverse)) := by
    have hinside : (Item.speechField 124).Inside (.array [.object greeting])
        (.array [.object foreignGreeting]) :=
      @InList.element _ [] [] _ _ (.add (by simp [Cue.fields, Field.singles, Field.fixed]) rfl)
    exact rearranged_holding rfl (.inMember (f := Item.speechField 124) (by simp [Item.fields])
      (by simp [Item.speechField]) hinside)
  have htitle : Rearranged (.object (holding (recordedAs "path" foreignGreeting).reverse))
      (.object (holding ((some "title", .array []) :: (recordedAs "path" foreignGreeting).reverse))) :=
    rearranged_holding rfl (.add (by
      simp [Item.fields, Item.typeField, Item.speechField, Item.audioField, Field.singles,
        Field.fixed]) rfl)
  have hby : Rearranged (.object (holding ((some "title", .array []) ::
      (recordedAs "path" foreignGreeting).reverse))) scrambled :=
    .add (by simp [fields, Field.fixed]) trivial
  exact ((((Relation.ReflTransGen.single hdocument).tail hname).tail horder).tail hcue).tail htitle
    |>.tail hby

/-- A document that is read alike after a rearrangement of each kind. -/
theorem ofText_rearranged_scrambled :
    ofText plain.pretty = .ok ⟨"d", [.cast ⟨"a.cast", none, none,
      [⟨"hi", "af_heart", .inBegin, .zero⟩], []⟩]⟩ ∧
      ofText scrambled.pretty = ofText plain.pretty := by
  have hplain : Json.parse? plain.pretty.toList = some plain := by
    rw [Json.pretty, String.toList_ofList, Json.parse?_print]
  have hscrambled : Json.parse? scrambled.pretty.toList = some scrambled := by
    rw [Json.pretty, String.toList_ofList, Json.parse?_print]
  refine ⟨?_, ofText_rearranged plain_scrambled hplain hscrambled⟩
  rw [ofText, ofDocument?, hplain, Option.bind_some]
  decide +kernel

end Timeline

end Storyboard
