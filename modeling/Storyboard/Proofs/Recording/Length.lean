import Mathlib
import Storyboard.Recording.Length
import Storyboard.Proofs.Json.Balance
import Storyboard.Proofs.Json.Line
import Storyboard.Proofs.Json.Rearrangement

/-!
What a recording tells. A text that is one document is never taken for a header with events behind
it, however it is laid out over lines, nor is a header with events taken for a document: tokens keep
to their lines, and the tokens of a value neither begin nor end with those of another.
-/

namespace Storyboard

/-! ### Accepted values -/

namespace Json

theorem read?_eq_some {s : List Char} {v : Json} (h : read? s = some v) :
    parse? s = some v ∧ v.sound nestingLimit :=
  Option.filter_eq_some_iff.mp h

end Json

theorem Text.trim_eq_nil {s : List Char} : trim s = [] ↔ ∀ c ∈ s, isBlank c := by
  constructor
  · intro h
    obtain ⟨before, tail, hbefore, htail, hs⟩ := exists_trim s
    rw [h, List.append_nil] at hs
    rw [hs, List.forall_mem_append]
    exact ⟨hbefore, htail⟩
  · intro h
    have hstart : trimStart s = [] := List.dropWhile_eq_nil_iff.mpr h
    rw [trim, hstart]
    rfl

namespace Recording
open Json (Token)

variable {text header last : List Char} {rest : List (List Char)} {ts : List Token}

/-! ### Tokens of the filled lines -/

theorem filledLines_nonblank {line : List Char} (h : line ∈ filledLines text) :
    ¬ ∀ c ∈ line, Text.isBlank c := by
  have hfilled := (List.mem_filter.mp h).2
  rw [← Text.trim_eq_nil]
  simpa using hfilled

/-- The tokens of a text are those of its filled lines. -/
theorem exists_tokens (h : Token.all? text = some ts) :
    ∃ parts, (filledLines text).mapM Token.all? = some parts ∧ parts.flatten = ts := by
  rw [Token.all?_eq_lines] at h
  unfold filledLines
  generalize Text.lines text = lines at h
  induction lines generalizing ts with
  | nil =>
      cases h
      exact ⟨[], rfl, rfl⟩
  | cons line lines ih =>
      rw [List.mapM_cons] at h
      obtain ⟨_, hparts, rfl⟩ := Option.map_eq_some_iff.mp h
      obtain ⟨part, hpart, hmapM⟩ := Option.bind_eq_some_iff.mp hparts
      obtain ⟨others, hothers, hcons⟩ := Option.bind_eq_some_iff.mp hmapM
      cases hcons
      obtain ⟨parts, hfilled, hflatten⟩ := ih (by rw [hothers]; rfl)
      rw [List.flatten_cons, ← hflatten]
      by_cases hline : Text.trim line = []
      · have hnone : part = [] := Token.all?_of_blank (Text.trim_eq_nil.mp hline) hpart
        exact ⟨parts, by rw [List.filter_cons_of_neg (by simp [hline]), hfilled], by rw [hnone]; rfl⟩
      · refine ⟨part :: parts, ?_, rfl⟩
        rw [List.filter_cons_of_pos (by simpa using hline), List.mapM_cons, hpart, hfilled]
        rfl

/-- Where a text has several filled lines, its tokens begin with those of the first one and end with
those of the last one, and neither has none. -/
theorem tokens_of_filledLines (htext : Token.all? text = some ts)
    (hlines : filledLines text = header :: rest) (hlast : rest.getLast? = some last) :
    ∃ front mid back, Token.all? header = some front ∧ Token.all? last = some back ∧
      front ≠ [] ∧ back ≠ [] ∧ ts = front ++ (mid ++ back) := by
  obtain ⟨lines, rfl⟩ := List.getLast?_eq_some_iff.mp hlast
  have filled (line : List Char) (hline : line ∈ filledLines text) :
      Token.all? line ≠ some [] :=
    fun h => filledLines_nonblank hline (Token.blank_of_all? h)
  obtain ⟨parts, hparts, rfl⟩ := exists_tokens htext
  rw [hlines, List.mapM_cons, List.mapM_append] at hparts
  obtain ⟨front, hfront, hrest⟩ := Option.bind_eq_some_iff.mp hparts
  obtain ⟨others, hothers, hcons⟩ := Option.bind_eq_some_iff.mp hrest
  obtain ⟨mid, hmid, hback⟩ := Option.bind_eq_some_iff.mp hothers
  cases hcons
  cases hall : Token.all? last with
  | none => simp [hall] at hback
  | some back =>
      have htail : others = mid ++ [back] := by simpa [hall, eq_comm] using hback
      refine ⟨front, mid.flatten, back, hfront, rfl, ?_, ?_, by simp [htail]⟩
      · rintro rfl
        exact filled header (by simp [hlines]) hfront
      · rintro rfl
        exact filled last (by simp [hlines]) hall

/-- The last line of a document is not a value. -/
theorem parse?_last_of_document (htext : (Json.parse? text).isSome)
    (hlines : filledLines text = header :: rest) (hlast : rest.getLast? = some last) :
    Json.parse? last = none := by
  obtain ⟨ts, hts, hcomplete⟩ := Json.isSome_parse?.mp htext
  obtain ⟨front, mid, back, -, hback, hfront, -, rfl⟩ := tokens_of_filledLines hts hlines hlast
  rw [← Option.not_isSome_iff_eq_none, Json.isSome_parse?]
  rintro ⟨us, hus, hvalue⟩
  cases hback.symm.trans hus
  rw [← List.append_assoc] at hcomplete
  exact hfront (List.append_eq_nil_iff.mp (hvalue.append_left hcomplete)).1

/-- A text with more behind a value is not a document. -/
theorem parse?_of_header (hheader : (Json.parse? header).isSome)
    (hlines : filledLines text = header :: rest) (hlast : rest.getLast? = some last) :
    Json.parse? text = none := by
  rw [← Option.not_isSome_iff_eq_none]
  intro htext
  obtain ⟨ts, hts, hcomplete⟩ := Json.isSome_parse?.mp htext
  obtain ⟨us, hus, hvalue⟩ := Json.isSome_parse?.mp hheader
  obtain ⟨front, mid, back, hfront, -, -, hback, rfl⟩ := tokens_of_filledLines hts hlines hlast
  cases hfront.symm.trans hus
  exact hback (List.append_eq_nil_iff.mp (hvalue.append_right hcomplete)).2

/-! ### Lengths -/

theorem lastLineLength?_eq (hlines : filledLines text = header :: rest)
    (hlast : rest.getLast? = some last) :
    lastLineLength? text = (Json.read? last).bind eventTime? := by
  obtain ⟨second, others, rfl⟩ : ∃ second others, rest = second :: others :=
    List.exists_cons_of_ne_nil (by rintro rfl; cases hlast)
  rw [List.getLast?_eq_some_getLast (List.cons_ne_nil _ _)] at hlast
  rw [lastLineLength?, hlines]
  exact congrArg (fun line => (Json.read? line).bind eventTime?) (Option.some.inj hlast)

/-- What an event tells: the number that opens it. -/
inductive EventTells (event : Json) : Binary64 → Prop where
  | time {n : Numeral} {more : List Json} {secs : Binary64}
      (hevent : event = .array (.number n :: more)) (hn : n.toBinary64? = some secs) :
      EventTells event secs

/-- What a document tells: its duration, or else what its last output event tells, or else zero. -/
inductive DocumentTells (document : Json) : Binary64 → Prop where
  | duration {n : Numeral} {secs : Binary64}
      (hduration : document.find? "duration" = some (.number n))
      (hn : n.toBinary64? = some secs) : DocumentTells document secs
  | lastEvent {events : List Json} {event : Json} {secs : Binary64}
      (hduration : ∀ n, document.find? "duration" ≠ some (.number n))
      (hstdout : document.find? "stdout" = some (.array (events ++ [event])))
      (hevent : EventTells event secs) : DocumentTells document secs
  | nothing (hduration : ∀ n, document.find? "duration" ≠ some (.number n))
      (hstdout : ∀ events n more,
        document.find? "stdout" ≠ some (.array (events ++ [.array (.number n :: more)]))) :
      DocumentTells document .zero

/-- What a line tells: if it is an event that opens with a number, what that tells, or else zero. -/
inductive LineTells (line : List Char) : Binary64 → Prop where
  | event {event : Json} {secs : Binary64} (hline : Json.read? line = some event)
      (hevent : EventTells event secs) : LineTells line secs
  | nothing (hline : ∀ n more, Json.read? line ≠ some (.array (.number n :: more))) :
      LineTells line .zero

theorem eventTime?_eq_some {event : Json} {secs : Binary64} :
    eventTime? event = some secs ↔ EventTells event secs := by
  constructor
  · intro h
    obtain ⟨values, hvalues, hfirst⟩ := Option.bind_eq_some_iff.mp h
    obtain ⟨first, hhead, hsecs⟩ := Option.bind_eq_some_iff.mp hfirst
    obtain ⟨more, rfl⟩ := List.head?_eq_some_iff.mp hhead
    cases event <;> cases hvalues
    cases first <;> try cases hsecs
    exact .time rfl hsecs
  · rintro ⟨rfl, hn⟩
    exact hn

/-- An accepted event that tells nothing does not open with a number, and the other way round. -/
theorem eventTime?_eq_none {event : Json} {depth : Nat} (hsound : event.sound depth) :
    eventTime? event = none ↔ ∀ n more, event ≠ .array (.number n :: more) := by
  constructor
  · rintro h n more rfl
    have hn : n.toBinary64?.isSome := Json.sound_of_mem hsound List.mem_cons_self
    obtain ⟨secs, hsecs⟩ := Option.isSome_iff_exists.mp hn
    cases (eventTime?_eq_some.mpr (.time rfl hsecs)).symm.trans h
  · intro h
    cases htime : eventTime? event with
    | none => rfl
    | some secs =>
        obtain ⟨hevent, -⟩ := eventTime?_eq_some.mp htime
        exact absurd hevent (h _ _)

variable {document event : Json} {secs : Binary64} {depth : Nat}

/-- The last output event of a document. -/
def lastEvent? (document : Json) : Option Json :=
  ((document.find? "stdout").bind Json.toList?).bind List.getLast?

theorem lastEvent?_eq_some : lastEvent? document = some event ↔
    ∃ events, document.find? "stdout" = some (.array (events ++ [event])) := by
  constructor
  · intro h
    obtain ⟨values, hvalues, hlast⟩ := Option.bind_eq_some_iff.mp h
    obtain ⟨stdout, hstdout, hlist⟩ := Option.bind_eq_some_iff.mp hvalues
    obtain ⟨events, rfl⟩ := List.getLast?_eq_some_iff.mp hlast
    cases stdout <;> cases hlist
    exact ⟨events, hstdout⟩
  · rintro ⟨events, hstdout⟩
    rw [lastEvent?, hstdout]
    exact List.getLast?_concat

theorem sound_of_lastEvent? (hsound : document.sound depth) (h : lastEvent? document = some event) :
    event.sound (depth - 1 - 1) := by
  obtain ⟨events, hstdout⟩ := lastEvent?_eq_some.mp h
  exact Json.sound_of_mem (Json.sound_of_find? hsound hstdout) (by simp)

theorem documentLength?_of_duration {n : Numeral} (hsound : document.sound depth)
    (h : document.find? "duration" = some (.number n)) :
    ∃ secs, n.toBinary64? = some secs ∧ documentLength? document = some secs := by
  have hn : n.toBinary64?.isSome := Json.sound_of_find? hsound h
  obtain ⟨secs, hsecs⟩ := Option.isSome_iff_exists.mp hn
  refine ⟨secs, hsecs, ?_⟩
  rw [documentLength?, h, Option.bind_some, Json.toBinary64?, hsecs]

theorem documentLength?_of_events (h : ∀ n, document.find? "duration" ≠ some (.number n)) :
    documentLength? document = (lastEvent? document).bind eventTime? := by
  have hduration : (document.find? "duration").bind Json.toBinary64? = none := by
    rw [Option.bind_eq_none_iff]
    intro v hv
    cases v with
    | number n => exact absurd hv (h n)
    | _ => rfl
  rw [documentLength?, hduration, lastEvent?, Option.bind_assoc, Option.bind_assoc]
  rfl

/-- An accepted document tells its length, or zero where it has none. -/
theorem documentTells_iff (hsound : document.sound depth) :
    DocumentTells document secs ↔ secs = (documentLength? document).getD .zero := by
  constructor
  · intro h
    cases h with
    | duration hduration hn =>
        obtain ⟨secs', hsecs', hlength⟩ := documentLength?_of_duration hsound hduration
        cases hsecs'.symm.trans hn
        rw [hlength]
        rfl
    | lastEvent hduration hstdout hevent =>
        rw [documentLength?_of_events hduration, lastEvent?_eq_some.mpr ⟨_, hstdout⟩,
          Option.bind_some, eventTime?_eq_some.mpr hevent]
        rfl
    | nothing hduration hstdout =>
        have hnone : (lastEvent? document).bind eventTime? = none := by
          rw [Option.bind_eq_none_iff]
          intro event hevent
          obtain ⟨events, hevents⟩ := lastEvent?_eq_some.mp hevent
          rw [eventTime?_eq_none (sound_of_lastEvent? hsound hevent)]
          rintro n more rfl
          exact hstdout events n more hevents
        rw [documentLength?_of_events hduration, hnone]
        rfl
  · rintro rfl
    by_cases hduration : ∀ n, document.find? "duration" ≠ some (.number n)
    · rw [documentLength?_of_events hduration]
      cases hlast : lastEvent? document with
      | none =>
          refine .nothing hduration fun events n more hstdout => ?_
          cases (lastEvent?_eq_some.mpr ⟨events, hstdout⟩).symm.trans hlast
      | some event =>
          obtain ⟨events, hevents⟩ := lastEvent?_eq_some.mp hlast
          rw [Option.bind_some]
          cases htime : eventTime? event with
          | some secs => exact .lastEvent hduration hevents (eventTime?_eq_some.mp htime)
          | none =>
              have hnumber := (eventTime?_eq_none (sound_of_lastEvent? hsound hlast)).mp htime
              refine .nothing hduration fun events' n more hstdout => ?_
              cases (lastEvent?_eq_some.mpr ⟨events', hstdout⟩).symm.trans hlast
              exact hnumber n more rfl
    · push Not at hduration
      obtain ⟨n, hn⟩ := hduration
      obtain ⟨secs, hsecs, hlength⟩ := documentLength?_of_duration hsound hn
      rw [hlength]
      exact .duration hn hsecs

/-- A line tells the time of the event on it, or zero where it has none. -/
theorem lineTells_iff {line : List Char} :
    LineTells line secs ↔ secs = ((Json.read? line).bind eventTime?).getD .zero := by
  constructor
  · intro h
    cases h with
    | event hline hevent =>
        rw [hline, Option.bind_some, eventTime?_eq_some.mpr hevent]
        rfl
    | nothing hline =>
        have hnone : (Json.read? line).bind eventTime? = none := by
          rw [Option.bind_eq_none_iff]
          intro event hevent
          rw [eventTime?_eq_none (Json.read?_eq_some hevent).2]
          rintro n more rfl
          exact hline n more hevent
        rw [hnone]
        rfl
  · rintro rfl
    cases hline : Json.read? line with
    | none => exact .nothing fun n more h => nomatch hline.symm.trans h
    | some event =>
        rw [Option.bind_some]
        cases htime : eventTime? event with
        | some secs => exact .event hline (eventTime?_eq_some.mp htime)
        | none =>
            have hnumber := (eventTime?_eq_none (Json.read?_eq_some hline).2).mp htime
            refine .nothing fun n more h => hnumber n more ?_
            exact Option.some.inj (hline.symm.trans h)

/-- A document is not read line by line. -/
theorem length_of_document (h : Json.read? text = some document) :
    length text = (documentLength? document).getD .zero := by
  have hparse : (Json.parse? text).isSome := by rw [(Json.read?_eq_some h).1]; rfl
  have hlines : lastLineLength? text = none := by
    match hfilled : filledLines text with
    | [] => rw [lastLineLength?, hfilled]
    | [_] => rw [lastLineLength?, hfilled]
    | header :: second :: others =>
        obtain ⟨last, hlast⟩ := List.getLast?_isSome.mpr (List.cons_ne_nil second others) |>
          Option.isSome_iff_exists.mp
        have hnone : Json.read? last = none := by
          rw [Json.read?, parse?_last_of_document hparse hfilled hlast]
          rfl
        rw [lastLineLength?_eq hfilled hlast, hnone]
        rfl
  rw [length, h, Option.bind_some, hlines]
  cases documentLength? document <;> rfl

/-- What comes behind a header is read line by line. -/
theorem length_of_header (hheader : (Json.parse? header).isSome)
    (hlines : filledLines text = header :: rest) (hlast : rest.getLast? = some last) :
    length text = ((Json.read? last).bind eventTime?).getD .zero := by
  have hnone : Json.read? text = none := by
    rw [Json.read?, parse?_of_header hheader hlines hlast]
    rfl
  rw [length, hnone, Option.bind_none, lastLineLength?_eq hlines hlast]

/-- The length of a recording that is one document is what the document tells, and that of a
recording with more lines behind a header that is a value is what its last line tells. -/
theorem length_eq_told (text : List Char) :
    (∀ document, Json.read? text = some document →
      ∀ secs, secs = length text ↔ DocumentTells document secs) ∧
    (∀ header rest last, filledLines text = header :: rest → rest.getLast? = some last →
      (Json.parse? header).isSome → ∀ secs, secs = length text ↔ LineTells last secs) := by
  constructor
  · intro document h secs
    rw [documentTells_iff (Json.read?_eq_some h).2, length_of_document h]
  · intro header rest last hlines hlast hheader secs
    rw [lineTells_iff, length_of_header hheader hlines hlast]

/-- A document over three lines, the last of which is no event. -/
def laidOut : List Char :=
  "\x7b\"stdout\": [[0.5, \"a\"],\n[7, \"b\"]\n]\x7d".toList

/-- A header with two events behind it. -/
def streamed : List Char :=
  "\x7b\"version\": 2\x7d\n[0.5, \"o\"]\n\n[2, \"o\"]\n".toList

theorem length_eq_told_layouts :
    (∃ document, Json.read? laidOut = some document ∧ DocumentTells document (length laidOut)) ∧
    filledLines streamed =
      ["\x7b\"version\": 2\x7d".toList, "[0.5, \"o\"]".toList, "[2, \"o\"]".toList] ∧
    LineTells "[2, \"o\"]".toList (length streamed) := by
  have hread : (Json.read? laidOut).isSome := by
    decide +kernel
  have hfilled : filledLines streamed =
      ["\x7b\"version\": 2\x7d".toList, "[0.5, \"o\"]".toList, "[2, \"o\"]".toList] := by
    decide +kernel
  have hheader : (Json.parse? "\x7b\"version\": 2\x7d".toList).isSome := by
    decide +kernel
  obtain ⟨document, hdocument⟩ := Option.isSome_iff_exists.mp hread
  refine ⟨⟨document, hdocument, ?_⟩, hfilled, ?_⟩
  · exact ((length_eq_told laidOut).1 document hdocument _).mp rfl
  · exact ((length_eq_told streamed).2 _ _ _ hfilled rfl hheader _).mp rfl

end Recording

end Storyboard
