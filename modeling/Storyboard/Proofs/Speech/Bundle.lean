import Mathlib
import Storyboard.Speech.Bundle
import Storyboard.Timeline.Check
import Storyboard.Proofs.Json.Layout
import Storyboard.Proofs.Timeline.RoundTrip

/-!
What a bundle carries, and what JavaScript takes for its comment. The literals of the name and of
the items are found again in the text of a bundle, whatever the texts in them are, because neither
has a line that could be taken for one of the bundle's own. The comment of the first line, however,
ends for JavaScript at a separator that a JSON literal leaves as it is.
-/

namespace Storyboard

namespace Bundle
open Text (Hangs)

/-! ### Finding the literals again -/

/-- A text between two fixed ones. -/
def enclose (before behind : String) (s : List Char) : List Char :=
  before.toList ++ s ++ behind.toList

/-- What stands between two fixed texts. -/
def between? (before behind : String) (s : List Char) : Option (List Char) :=
  (s.dropPrefix? before.toList).bind (·.dropSuffix? behind.toList)

theorem between?_enclose (before behind : String) (s : List Char) :
    between? before behind (enclose before behind s) = some s := by
  rw [between?, enclose, List.append_assoc, List.dropPrefix?_append_of_beq _ (beq_self_eq_true _),
    Option.bind_some, List.dropSuffix?_eq_some_iff]
  exact ⟨behind.toList, rfl, beq_self_eq_true _⟩

/-- Whether a line asks where the player is. -/
def isQuestion (line : List Char) : Bool :=
  "if (typeof globalThis".toList.isPrefixOf line

/-- The lines of a bundle before the one that asks where the player is. -/
def front (s : String) : List (List Char) :=
  (s.toList.splitOn '\n').takeWhile (!isQuestion ·)

/-- The lines of a bundle from the one that asks where the player is. -/
def back (s : String) : List (List Char) :=
  (s.toList.splitOn '\n').dropWhile (!isQuestion ·)

/-- What stands at each place for the literal of the name. -/
def nameLiterals (s : String) : List (Option (List Char)) :=
  [(front s)[0]?.bind (between? "// AUTO-GENERATED for timeline " " - DO NOT EDIT"),
   (front s)[1]?.bind (between? "export const name = " ";"),
   (back s)[3]?.bind (between? "    root.registerTimeline(name, timeline, " ");"),
   (back s)[6]?.bind (between? "    (root.__titles ??= \x7b\x7d)[name] = " ";")]

/-- What stands in the place of the items, over as many lines as it takes. -/
def itemsLiteral? (s : String) : Option (List Char) :=
  between? "export const timeline = " ";" (['\n'].intercalate ((front s).drop 2))

/-- The text that a literal denotes. -/
def decodeName? (literal : List Char) : Option String :=
  (Json.read? literal).bind Json.toString?

/-- The items that a literal denotes. -/
def decodeItems? (literal : List Char) : Option (List Item) :=
  (Json.read? literal).bind (Json.toListOf? Item.ofJson?)

/-! ### The lines of a bundle -/

theorem toList_ended (ls : List String) :
    (ended ls).toList = Text.ended (ls.map String.toList) := by
  simp [ended, Text.ended, String.toList_join, List.flatMap_map]

theorem newline_not_mem_enclose {before behind : String} {s : List Char}
    (hbefore : '\n' ∉ before.toList) (hbehind : '\n' ∉ behind.toList) (hs : '\n' ∉ s) :
    '\n' ∉ enclose before behind s := by
  simp [enclose, hbefore, hbehind, hs]

/-- The lines behind the items, around the literal of the name. -/
def closing (name : String) : List (List Char) :=
  ((lines name "").drop 3).map String.toList

theorem newline_not_mem_closing {name : String} (h : '\n' ∉ name.toList) :
    ∀ l ∈ closing name, '\n' ∉ l := by
  simp only [closing, lines, List.drop_succ_cons, List.drop_zero, List.map_cons, List.map_nil,
    List.forall_mem_cons, String.toList_append, List.mem_append, h, or_false]
  exact ⟨by decide, by decide, by decide, by decide, by decide, by decide, by decide, by decide,
    by decide, List.forall_mem_nil _⟩

/-- The lines up to the last one of the items. -/
def opening (name items : String) : List (List Char) :=
  enclose "// AUTO-GENERATED for timeline " " - DO NOT EDIT" name.toList ::
    enclose "export const name = " ";" name.toList ::
      (enclose "export const timeline = " ";" items.toList).splitOn '\n'

theorem toList_lines (name items : String) :
    (lines name items).map String.toList =
      enclose "// AUTO-GENERATED for timeline " " - DO NOT EDIT" name.toList ::
        enclose "export const name = " ";" name.toList ::
          enclose "export const timeline = " ";" items.toList :: closing name := by
  simp [lines, closing, enclose]

/-- Only the items take more than one line. -/
theorem splitOn_lines {name : String} (hname : '\n' ∉ name.toList) (items : String) :
    (ended (lines name items)).toList.splitOn '\n' =
      opening name items ++ (closing name ++ [[]]) := by
  have hheader : '\n' ∉ enclose "// AUTO-GENERATED for timeline " " - DO NOT EDIT" name.toList :=
    newline_not_mem_enclose (by decide) (by decide) hname
  have hexport : '\n' ∉ enclose "export const name = " ";" name.toList :=
    newline_not_mem_enclose (by decide) (by decide) hname
  have hclosing : (closing name).flatMap (·.splitOn '\n') = closing name := by
    rw [List.flatMap_congr fun l hl => List.splitOn_eq_singleton (newline_not_mem_closing hname l hl),
      List.flatMap_singleton']
  rw [toList_ended, toList_lines, ← List.append_nil (Text.ended _), Text.splitOn_ended,
    List.flatMap_cons, List.flatMap_cons, List.flatMap_cons, hclosing,
    List.splitOn_eq_singleton hheader, List.splitOn_eq_singleton hexport, List.splitOn_nil]
  simp [opening]

theorem isQuestion_of_head? {line : List Char} {c : Char} (hline : line.head? = some c)
    (hc : c ≠ 'i') : isQuestion line = false := by
  obtain ⟨rest, rfl⟩ := List.head?_eq_some_iff.mp hline
  simp [isQuestion, List.isPrefixOf, Ne.symm hc]

/-- Items that hang at margins leave the question the first of its kind. -/
theorem isQuestion_opening (name : String) {items : String}
    (hitems : Hangs Json.IsMargin items.toList) : ∀ l ∈ opening name items, isQuestion l = false := by
  have hlines : Hangs (fun c => c ≠ 'i' ∧ c ≠ '\n')
      (enclose "export const timeline = " ";" items.toList) := by
    refine .append (.append (.of_not_mem (by decide)) ?_) (.of_not_mem (by decide))
    refine hitems.mono fun c hc => ?_
    rcases hc with rfl | rfl | rfl <;> decide
  refine List.forall_mem_cons.mpr ⟨isQuestion_of_head? (c := '/') (by rfl) (by decide),
    List.forall_mem_cons.mpr ⟨isQuestion_of_head? (c := 'e') (by rfl) (by decide), ?_⟩⟩
  intro l hl
  obtain ⟨c, hc, hi, -⟩ := (hlines.feed (d := 'e') (by decide)).head_of_mem_tail (by simp) l hl
  exact isQuestion_of_head? hc hi

/-! ### What is found -/

/-- The literal of the name of a timeline. -/
def nameText (t : Timeline) : String :=
  (Json.ofString t.name).compact

theorem toList_nameText (t : Timeline) : (nameText t).toList = Literal.write t.name.toList :=
  String.toList_ofList

theorem newline_not_mem_nameText (t : Timeline) : '\n' ∉ (nameText t).toList := by
  rw [toList_nameText]
  exact Literal.newline_not_mem_write _

theorem hangs_itemsJson (t : Timeline) : Hangs Json.IsMargin t.itemsJson.pretty.toList := by
  rw [Json.pretty, String.toList_ofList]
  exact Json.hangs_print _ _

theorem splitOn_text (t : Timeline) :
    (text t).toList.splitOn '\n' =
      opening (nameText t) t.itemsJson.pretty ++ (closing (nameText t) ++ [[]]) :=
  splitOn_lines (newline_not_mem_nameText t) _

theorem front_text (t : Timeline) : front (text t) = opening (nameText t) t.itemsJson.pretty := by
  have hopening := isQuestion_opening (nameText t) (hangs_itemsJson t)
  rw [front, splitOn_text, List.takeWhile_append_of_pos fun l hl => by rw [hopening l hl]; rfl]
  exact List.append_nil _

theorem back_text (t : Timeline) : back (text t) = closing (nameText t) ++ [[]] := by
  have hopening := isQuestion_opening (nameText t) (hangs_itemsJson t)
  rw [back, splitOn_text, List.dropWhile_append_of_pos fun l hl => by rw [hopening l hl]; rfl]
  rfl

/-- At each place the literal of the name is found. -/
theorem nameLiterals_text (t : Timeline) :
    nameLiterals (text t) = List.replicate 4 (some (nameText t).toList) := by
  have hregister : (closing (nameText t) ++ [[]])[3]? = some
      (enclose "    root.registerTimeline(name, timeline, " ");" (nameText t).toList) := by
    simp [closing, lines, enclose]
  have htitle : (closing (nameText t) ++ [[]])[6]? = some
      (enclose "    (root.__titles ??= \x7b\x7d)[name] = " ";" (nameText t).toList) := by
    simp [closing, lines, enclose]
  rw [nameLiterals, front_text, back_text, hregister, htitle]
  simp [opening, between?_enclose]

theorem itemsLiteral?_text (t : Timeline) :
    itemsLiteral? (text t) = some t.itemsJson.pretty.toList := by
  rw [itemsLiteral?, front_text, opening, List.drop_succ_cons, List.drop_succ_cons, List.drop_zero,
    List.intercalate_splitOn, between?_enclose]

theorem read?_print (m : Json.Margin) {v : Json} (h : v.sound Json.nestingLimit) :
    Json.read? (v.print m) = some v := by
  rw [Json.read?, Json.parse?_print, Option.filter_some, if_pos h]

theorem decodeName?_nameText (t : Timeline) : decodeName? (nameText t).toList = some t.name := by
  rw [nameText, Json.compact, String.toList_ofList, decodeName?,
    read?_print _ (Json.sound_ofString _ _)]
  rfl

theorem decodeItems?_itemsJson {t : Timeline} (h : ∀ x ∈ t.numbers, x.Kept) :
    decodeItems? t.itemsJson.pretty.toList = some t.settled.items := by
  have hnumbers : ∀ i ∈ t.items, ∀ x ∈ i.numbers, x.Kept :=
    fun i hi x hx => h x (List.mem_flatMap.mpr ⟨i, hi, hx⟩)
  have hsound : t.itemsJson.sound Json.nestingLimit :=
    Json.sound_array (List.forall_mem_map.mpr fun i hi =>
      Item.sound_toJson (fun x hx => (hnumbers i hi x hx).readsBack) 123)
  rw [Json.pretty, String.toList_ofList, decodeItems?, read?_print _ hsound]
  exact Json.toListOf?_map fun i hi => Item.ofJson?_toJson (hnumbers i hi)

/-- The sign of a zero in the offset of a cue is not written. -/
theorem text_settled (t : Timeline) : text t.settled = text t := by
  have hitems : Item.toJson ∘ Item.settled = Item.toJson := funext Item.toJson_settled
  simp only [text, Timeline.itemsJson, Timeline.settled, List.map_map, hitems]

/-- A bundle carries its timeline: whatever its name and the texts in its items, if its numbers are
finite and are read back from their texts, then one literal stands at each place for the name and
denotes it, and what stands in the place of the items denotes them, up to the sign of a zero in the
offset of a cue. So no two such timelines share a bundle, but for that sign. -/
theorem text_carries :
    (∀ t : Timeline, (∀ x ∈ t.numbers, x.isFinite ∧ x.ReadsBack) → ∃ literal items,
      nameLiterals (text t) = List.replicate 4 (some literal) ∧ decodeName? literal = some t.name ∧
        itemsLiteral? (text t) = some items ∧ decodeItems? items = some t.settled.items) ∧
    ∀ t u : Timeline, (∀ x ∈ t.numbers, x.isFinite ∧ x.ReadsBack) →
      (∀ x ∈ u.numbers, x.isFinite ∧ x.ReadsBack) → text t = text u → t.settled = u.settled := by
  have hcarries : ∀ t : Timeline, (∀ x ∈ t.numbers, x.isFinite ∧ x.ReadsBack) → ∃ literal items,
      nameLiterals (text t) = List.replicate 4 (some literal) ∧ decodeName? literal = some t.name ∧
        itemsLiteral? (text t) = some items ∧ decodeItems? items = some t.settled.items := by
    intro t ht
    have hkept : ∀ x ∈ t.numbers, x.Kept :=
      fun x hx => Binary64.readsBack_iff.mp (ht x hx).2 (ht x hx).1
    exact ⟨_, _, nameLiterals_text t, decodeName?_nameText t, itemsLiteral?_text t,
      decodeItems?_itemsJson hkept⟩
  refine ⟨hcarries, fun t u ht hu htext => ?_⟩
  obtain ⟨literal, items, hliteral, hname, hplace, hitems⟩ := hcarries t ht
  obtain ⟨literal', items', hliteral', hname', hplace', hitems'⟩ := hcarries u hu
  rw [htext] at hliteral hplace
  obtain rfl : literal' = literal := by
    have hsame := hliteral'.symm.trans hliteral
    simpa using hsame
  obtain rfl : items' = items := Option.some.inj (hplace'.symm.trans hplace)
  have hnames : t.name = u.name := Option.some.inj (hname.symm.trans hname')
  have hsettled : t.settled.items = u.settled.items := Option.some.inj (hitems.symm.trans hitems')
  exact congrArg₂ Timeline.mk hnames hsettled

/-- A timeline whose name looks like the lines of a bundle, and with a cue at the negative zero. -/
def mimic : Timeline :=
  ⟨"a\";\nexport const timeline = [];\nif (typeof globalThis",
    [.card ⟨"];\n", none, .ofRatio 5 2, [⟨"hi", "af_heart", .outEnd, .signedZero true⟩], []⟩]⟩

theorem text_carries_mimic :
    (∃ literal items,
      nameLiterals (text mimic) = List.replicate 4 (some literal) ∧
        decodeName? literal = some mimic.name ∧ itemsLiteral? (text mimic) = some items ∧
        decodeItems? items = some mimic.settled.items) ∧
      mimic.settled ≠ mimic ∧ text mimic.settled = text mimic ∧
      mimic.settled.settled = mimic.settled := by
  have hkept : ∀ x ∈ mimic.numbers, x.isFinite ∧ (Json.ofBinary64 x).toBinary64? = some x := by
    decide +kernel
  have hkept' : ∀ x ∈ mimic.settled.numbers,
      x.isFinite ∧ (Json.ofBinary64 x).toBinary64? = some x := by
    decide +kernel
  have hback : ∀ x ∈ mimic.numbers, x.isFinite ∧ x.ReadsBack :=
    fun x hx => ⟨(hkept x hx).1, Binary64.readsBack_iff.mpr fun _ => (hkept x hx).2⟩
  have hback' : ∀ x ∈ mimic.settled.numbers, x.isFinite ∧ x.ReadsBack :=
    fun x hx => ⟨(hkept' x hx).1, Binary64.readsBack_iff.mpr fun _ => (hkept' x hx).2⟩
  have htext : text mimic.settled = text mimic := text_settled mimic
  exact ⟨text_carries.1 mimic hback, by decide +kernel, htext,
    text_carries.2 mimic.settled mimic hback' hback htext⟩

/-! ### The comment -/

/-- A separator: it ends a line of JavaScript, and JSON leaves it as it is. -/
def isSeparator (c : Char) : Bool :=
  c = '\u2028' || c = '\u2029'

/-- What ends a line of JavaScript, and with it a comment. -/
def isTerminator (c : Char) : Bool :=
  c = '\n' || c = '\r' || isSeparator c

/-- The first line of a bundle. -/
def header (s : String) : List Char :=
  s.toList.takeWhile (· ≠ '\n')

/-- What JavaScript takes for the comment that a bundle begins with. -/
def comment (s : String) : List Char :=
  s.toList.takeWhile (!isTerminator ·)

theorem isTerminator_of_isGraphic (c : Char) (h : Literal.isGraphic c) : isTerminator c = false := by
  simp only [isTerminator, isSeparator, Bool.or_eq_false_iff, decide_eq_false_iff_not]
  refine ⟨⟨?_, ?_⟩, ?_, ?_⟩ <;> rintro rfl <;> exact absurd h (by decide)

/-- Control characters are escaped, separators are not. -/
theorem isTerminator_and_not_isControl (c : Char) :
    (isTerminator c && !Literal.isControl c) = isSeparator c := by
  cases hc : isSeparator c with
  | true =>
      have hplain : Literal.isControl c = false := by
        rcases (by simpa [isSeparator] using hc : c = '\u2028' ∨ c = '\u2029') with rfl | rfl <;>
          decide
      simp [isTerminator, hc, hplain]
  | false =>
      by_cases hfeed : c = '\n' ∨ c = '\r'
      · have hcontrol : Literal.isControl c = true := by
          rcases hfeed with rfl | rfl <;> decide
        rw [hcontrol, Bool.not_true, Bool.and_false]
      · simp [isTerminator, hc, not_or.mp hfeed]

theorem filter_nameText (t : Timeline) :
    (nameText t).toList.filter isTerminator = t.name.toList.filter isSeparator := by
  rw [toList_nameText, Literal.filter_write isTerminator_of_isGraphic]
  exact List.filter_congr fun c _ => isTerminator_and_not_isControl c

theorem toList_text (t : Timeline) :
    (text t).toList =
      enclose "// AUTO-GENERATED for timeline " " - DO NOT EDIT" (nameText t).toList ++ '\n' ::
        Text.ended (enclose "export const name = " ";" (nameText t).toList ::
          enclose "export const timeline = " ";" t.itemsJson.pretty.toList ::
            closing (nameText t)) := by
  change (ended (lines (nameText t) t.itemsJson.pretty)).toList = _
  rw [toList_ended, toList_lines, Text.ended, List.flatMap_cons, List.append_assoc]
  rfl

theorem header_text (t : Timeline) :
    header (text t) =
      enclose "// AUTO-GENERATED for timeline " " - DO NOT EDIT" (nameText t).toList := by
  have hnewline : '\n' ∉
      enclose "// AUTO-GENERATED for timeline " " - DO NOT EDIT" (nameText t).toList :=
    newline_not_mem_enclose (by decide) (by decide) (newline_not_mem_nameText t)
  rw [header, toList_text, List.takeWhile_append_of_pos, List.takeWhile_cons_of_neg (by decide),
    List.append_nil]
  intro c hc
  exact decide_eq_true (ne_of_mem_of_not_mem hc hnewline)

theorem filter_header (t : Timeline) :
    (header (text t)).filter isTerminator = t.name.toList.filter isSeparator := by
  have hbefore : "// AUTO-GENERATED for timeline ".toList.filter isTerminator = [] := by decide
  have hbehind : " - DO NOT EDIT".toList.filter isTerminator = [] := by decide
  rw [header_text, enclose, List.filter_append, List.filter_append, hbefore, hbehind,
    filter_nameText, List.nil_append, List.append_nil]

/-- JavaScript takes the first line for a comment if the line has no terminator. -/
theorem comment_eq_header_iff (t : Timeline) :
    comment (text t) = header (text t) ↔ ∀ c ∈ header (text t), isTerminator c = false := by
  constructor
  · intro h c hc
    rw [← h] at hc
    simpa using List.mem_takeWhile_imp hc
  · intro h
    rw [header_text] at h ⊢
    rw [comment, toList_text, List.takeWhile_append_of_pos fun c hc => by rw [h c hc]; rfl,
      List.takeWhile_cons_of_neg (by decide), List.append_nil]

/-- Otherwise JavaScript takes for the comment what stands before the first separator. -/
theorem comment_of_separator {t : Timeline} {before after : List Char} {c : Char}
    (hname : t.name.toList = before ++ c :: after) (hbefore : ∀ d ∈ before, isSeparator d = false)
    (hc : isSeparator c) :
    comment (text t) =
      "// AUTO-GENERATED for timeline \"".toList ++ before.flatMap Literal.escape := by
  have hescape : Literal.escape c = [c] := by
    rcases (by simpa [isSeparator] using hc : c = '\u2028' ∨ c = '\u2029') with rfl | rfl <;> decide
  have hsplit : (text t).toList =
      ("// AUTO-GENERATED for timeline \"".toList ++ before.flatMap Literal.escape) ++ c ::
        (after.flatMap Literal.escape ++ '"' :: " - DO NOT EDIT".toList ++ '\n' ::
          Text.ended (enclose "export const name = " ";" (nameText t).toList ::
            enclose "export const timeline = " ";" t.itemsJson.pretty.toList ::
              closing (nameText t))) := by
    have hquote : "// AUTO-GENERATED for timeline \"".toList =
        "// AUTO-GENERATED for timeline ".toList ++ ['"'] := by decide
    rw [toList_text, toList_nameText, enclose, Literal.write, hname, List.flatMap_append,
      List.flatMap_cons, hescape, hquote]
    simp
  have hwords : "// AUTO-GENERATED for timeline \"".toList.filter isTerminator = [] := by decide
  have hescapes : (before.flatMap Literal.escape).filter isTerminator = [] := by
    rw [Literal.filter_flatMap_escape isTerminator_of_isGraphic]
    simpa [isTerminator_and_not_isControl] using hbefore
  have hfront : ∀ d ∈ "// AUTO-GENERATED for timeline \"".toList ++ before.flatMap Literal.escape,
      (!isTerminator d) = true := by
    intro d hd
    have hnone := List.append_eq_nil_iff.mpr ⟨hwords, hescapes⟩
    rw [← List.filter_append, List.filter_eq_nil_iff] at hnone
    simpa using hnone d hd
  rw [comment, hsplit, List.takeWhile_append_of_pos hfront,
    List.takeWhile_cons_of_neg (by simp [isTerminator, hc]), List.append_nil]

/-- The first line of a bundle is a comment that ends where the name is exported: of what ends a
line of JavaScript it has the separators of the name and nothing else. So JavaScript takes the whole
line for a comment if the name has no separator, and only then. -/
theorem header_closes (t : Timeline) :
    (∃ rest, (text t).toList =
      header (text t) ++ '\n' :: ("export const name = ".toList ++ rest)) ∧
      "//".toList <+: header (text t) ∧
      (header (text t)).filter isTerminator = t.name.toList.filter isSeparator ∧
      (comment (text t) = header (text t) ↔ ∀ c ∈ t.name.toList, isSeparator c = false) := by
  refine ⟨?_, ?_, filter_header t, ?_⟩
  · rw [header_text, toList_text, Text.ended, List.flatMap_cons, enclose, enclose]
    simp only [List.append_assoc]
    exact ⟨_, rfl⟩
  · rw [header_text, enclose, List.append_assoc]
    exact .trans (by decide) (List.prefix_append _ _)
  · have hnone (s : List Char) (p : Char → Bool) : s.filter p = [] ↔ ∀ c ∈ s, p c = false := by
      simp [List.filter_eq_nil_iff]
    rw [comment_eq_header_iff, ← hnone, filter_header, hnone]

/-- A timeline whose name has a separator. -/
def severed : Timeline :=
  ⟨"a\u2028b", []⟩

/-- The name is accepted, but the comment ends inside it. -/
theorem header_closes_fails :
    severed.check = .ok () ∧
      comment (text severed) = "// AUTO-GENERATED for timeline \"a".toList ∧
      ¬ ∀ t : Timeline, t.check = .ok () → ∀ c ∈ header (text t), isTerminator c = false := by
  have hcheck : severed.check = .ok () := by decide +kernel
  refine ⟨hcheck, ?_, fun h => ?_⟩
  · have hname : severed.name.toList = ['a'] ++ '\u2028' :: ['b'] := by decide
    rw [comment_of_separator hname (by simp [isSeparator]) (by decide)]
    decide +kernel
  · have hmem : '\u2028' ∈ (header (text severed)).filter isTerminator := by
      rw [filter_header]
      decide
    rw [List.mem_filter] at hmem
    exact absurd hmem.2 (by rw [h severed hcheck _ hmem.1]; decide)

end Bundle

end Storyboard
