import Mathlib
import Storyboard.Proofs.Script.Productions

/-!
Narration lines, read. The text of a narration line may hold quotation marks and whatever else; it
still ends at the last quotation mark of the line, since no option holds one.
-/

namespace Storyboard

theorem Anchor.mark_not_mem {x : String × Anchor} (hx : x ∈ spellings) :
    '"' ∉ Text.lower x.1.toList := by
  intro hmark
  have hletter := List.all_eq_true.mp (of_mem_spellings hx).2.2.2 '"'
    ((of_mem_spellings hx).2.1 ▸ hmark)
  cases hletter

namespace Grammar

/-! ### Marks that options do not hold -/

theorem Spelling.mark_not_mem {word : String} (hword : '"' ∉ Text.lower word.toList)
    (s : Spelling word) : '"' ∉ s.1 := by
  obtain ⟨s, hs⟩ := s
  intro hmark
  rw [Text.sameWord, beq_iff_eq] at hs
  exact hword (hs ▸ List.mem_map_of_mem hmark)

theorem not_mem_of_class {p : Char → Bool} {s : List Char} {c : Char} (hc : p c = false)
    (hs : ∀ d ∈ s, p d = true) : c ∉ s := by
  intro hmem
  rw [hs c hmem] at hc
  cases hc

theorem Blanks.mark_not_mem (s : Blanks) : '"' ∉ s.1 :=
  not_mem_of_class (by decide) s.2

theorem Space.mark_not_mem (s : Space) : '"' ∉ s.1 :=
  not_mem_of_class (by decide) s.2.2

theorem Number.mark_not_mem (n : Number) : '"' ∉ n.1 := by
  intro hmem
  rcases n.2.1 _ hmem with hdigit | hpoint
  · cases hdigit
  · cases hpoint

theorem Seconds.mark_not_mem (s : Seconds) : '"' ∉ s.text := by
  have hunit : '"' ∉ unitText s.unit := by
    rcases s.unit with _ | ⟨c, hc⟩
    · exact List.not_mem_nil
    · intro hmem
      obtain rfl := List.mem_singleton.mp hmem
      cases hc
  simp [text, Blanks.mark_not_mem, s.number.mark_not_mem, hunit]

theorem Voice.mark_not_mem (v : Voice) : '"' ∉ v.text := by
  have hword : '"' ∉ v.voice.1 := not_mem_of_class (by decide) v.voice.2.2
  simp [text, Space.mark_not_mem, v.keyword.mark_not_mem (by decide), hword]

theorem AnchorChoice.mark_not_mem (a : AnchorChoice) : '"' ∉ a.text := by
  have hword : '"' ∉ a.anchor.2.1 := a.anchor.2.mark_not_mem (Anchor.mark_not_mem a.anchor.1.2)
  simp [text, Space.mark_not_mem, a.keyword.mark_not_mem (by decide), hword]

theorem Options.mark_not_mem (o : Options) : '"' ∉ o.text := by
  have hseconds : '"' ∉ optionalText Seconds.text o.seconds := by
    rcases o.seconds with _ | s
    · exact List.not_mem_nil
    · exact s.mark_not_mem
  have hvoice : '"' ∉ optionalText Voice.text o.voice := by
    rcases o.voice with _ | v
    · exact List.not_mem_nil
    · exact v.mark_not_mem
  have hanchor : '"' ∉ optionalText AnchorChoice.text o.anchor := by
    rcases o.anchor with _ | a
    · exact List.not_mem_nil
    · exact a.mark_not_mem
  simp [text, hseconds, hvoice, hanchor, Blanks.mark_not_mem]

/-- The text of the line up to its first quotation mark. -/
def SayLine.head (l : SayLine) : List Char :=
  l.indent.1.1 ++ (l.keyword.1 ++ (l.gap.1 ++ ['"']))

theorem SayLine.text_eq (l : SayLine) : l.text = l.head ++ (l.said ++ '"' :: l.options.text) := by
  simp [text, head]

def SayLine.parts :
    SayLine ≃ {s : Blanks // 2 ≤ s.1.length} × Spelling "say" × Space × List Char × Options where
  toFun l := (l.indent, l.keyword, l.gap, l.said, l.options)
  invFun := fun (indent, keyword, gap, said, options) => ⟨indent, keyword, gap, said, options⟩

end Grammar

namespace Statement
open Scanner Grammar
open Text (Stops stops_cons)

theorem onLine?_sayOptions {s : List Char} {o : SayOptions} :
    sayOptions.onLine? s = some o ↔ ∃ x : Options, x.text = s ∧ x.value = o := by
  simpa using reads_sayOptions.onLine?_eq_some fun _ => []

theorem injective_optionsText : Function.Injective Options.text := by
  simpa using reads_sayOptions.injective fun _ => []

theorem map_spoken?_eq_some {c : Char} {rest said : List Char} {o : SayOptions} :
    (spoken? rest).map (fun x => (c :: x.1, x.2)) = some (said, o) ↔
      ∃ s, c :: s = said ∧ spoken? rest = some (s, o) := by
  rw [Option.map_eq_some_iff]
  constructor
  · rintro ⟨⟨s, o⟩, hs, ⟨⟩⟩
    exact ⟨s, rfl, hs⟩
  · rintro ⟨s, rfl, hs⟩
    exact ⟨(s, o), hs, rfl⟩

/-- The text of a narration line ends at its last quotation mark: behind an earlier one, there are
no options up to the end of the line. -/
theorem spoken?_eq_some {s said : List Char} {o : SayOptions} :
    spoken? s = some (said, o) ↔ ∃ x : Options, s = said ++ '"' :: x.text ∧ x.value = o := by
  fun_induction spoken? s generalizing said with
  | case1 => simp
  | case2 rest o' ho' =>
      obtain ⟨x, rfl, rfl⟩ := onLine?_sayOptions.mp ho'
      constructor
      · rintro ⟨⟩
        exact ⟨x, rfl, rfl⟩
      -- A later mark would stand among the options behind this one.
      · rintro ⟨y, hsplit, rfl⟩
        rcases said with _ | ⟨d, said⟩
        · rw [List.nil_append, List.cons.injEq] at hsplit
          obtain rfl := injective_optionsText hsplit.2
          rfl
        · rw [List.cons_append, List.cons.injEq] at hsplit
          refine absurd ?_ x.mark_not_mem
          rw [hsplit.2]
          exact List.mem_append_right _ List.mem_cons_self
  | case3 rest hnone ih =>
      rw [map_spoken?_eq_some]
      constructor
      · rintro ⟨s, rfl, hs⟩
        obtain ⟨x, rfl, rfl⟩ := ih.mp hs
        exact ⟨x, rfl, rfl⟩
      -- If the text ended at this mark, its options would have been taken.
      · rintro ⟨x, hsplit, rfl⟩
        rcases said with _ | ⟨d, said⟩
        · rw [List.nil_append, List.cons.injEq] at hsplit
          rw [onLine?_sayOptions.mpr ⟨x, hsplit.2.symm, rfl⟩] at hnone
          cases hnone
        · rw [List.cons_append, List.cons.injEq] at hsplit
          exact ⟨said, by rw [hsplit.1], ih.mpr ⟨x, hsplit.2, rfl⟩⟩
  | case4 c rest hc ih =>
      rw [map_spoken?_eq_some]
      constructor
      · rintro ⟨s, rfl, hs⟩
        obtain ⟨x, rfl, rfl⟩ := ih.mp hs
        exact ⟨x, rfl, rfl⟩
      · rintro ⟨x, hsplit, rfl⟩
        rcases said with _ | ⟨d, said⟩
        · exact absurd (List.cons.inj hsplit).1 hc
        · rw [List.cons_append, List.cons.injEq] at hsplit
          exact ⟨said, by rw [hsplit.1], ih.mpr ⟨x, hsplit.2, rfl⟩⟩

/-! ### Narration lines -/

/-- At least two blanks. -/
theorem reads_indent :
    (blanks >>= fun n => if n < 2 then failure else pure ()).Reads
      (fun s : {s : Blanks // 2 ≤ s.1.length} => s.1.1) (fun _ => ())
      fun _ => Stops Text.isBlank := by
  refine .of_injective (fun _ _ h => Subtype.ext (Subtype.ext h)) ?_ ?_
  · rintro ⟨s, hlong⟩ rest hrest
    rw [bind_apply, reads_blanks.complete hrest, Option.bind_some, if_neg (Nat.not_lt.mpr hlong)]
    rfl
  · intro s a rest h
    rw [bind_apply] at h
    obtain ⟨⟨n, middle⟩, hblanks, hlong⟩ := Option.bind_eq_some_iff.mp h
    obtain ⟨s, rfl, rfl, hstop⟩ := reads_blanks.sound hblanks
    by_cases hn : s.1.length < 2
    · rw [if_pos hn] at hlong
      cases hlong
    · rw [if_neg hn] at hlong
      cases hlong
      exact ⟨⟨s, by omega⟩, rfl, rfl, hstop⟩

/-- The part of the rule behind the opening quotation mark. -/
def spoken : Scanner Statement := do
  match spoken? (← get) with
  | some (text, options) => return .say (cue text options)
  | none => failure

theorem sayLine_eq :
    sayLine = (blanks >>= fun n => if n < 2 then failure else pure ()) >>= fun _ =>
      keyword "say".toList >>= fun _ => space >>= fun _ => char '"' >>= fun _ => spoken := by
  rw [bind_assoc]
  unfold sayLine
  congr 1
  funext n
  by_cases hn : n < 2
  · rw [if_pos hn, if_pos hn]
    rfl
  · rw [if_neg hn, if_neg hn]
    rfl

theorem spoken_eq_some {s rest : List Char} {a : Statement} :
    spoken s = some (a, rest) ↔
      ∃ said, ∃ x : Options,
        s = said ++ '"' :: x.text ∧ a = .say (cue said x.value) ∧ rest = s := by
  change (match spoken? s with
    | some (said, o) => pure (.say (cue said o))
    | none => failure : Scanner Statement) s = _ ↔ _
  constructor
  · intro h
    cases hs : spoken? s with
    | none =>
        rw [hs] at h
        cases h
    | some x =>
        rw [hs] at h
        cases h
        obtain ⟨o, hs, ho⟩ := spoken?_eq_some.mp hs
        exact ⟨x.1, o, hs, by rw [ho], rfl⟩
  · rintro ⟨said, x, hs, rfl, rfl⟩
    rw [spoken?_eq_some.mpr ⟨x, hs, rfl⟩]
    rfl

theorem reads_spoken : spoken.Reads (fun _ : List Char × Options => [])
    (fun x => .say (cue x.1 x.2.value)) fun x rest => rest = x.1 ++ '"' :: x.2.text where
  complete := by
    rintro ⟨said, x⟩ _ rfl
    exact spoken_eq_some.mpr ⟨said, x, rfl, rfl, rfl⟩
  sound := by
    intro s a rest h
    obtain ⟨said, x, rfl, rfl, rfl⟩ := spoken_eq_some.mp h
    exact ⟨(said, x), rfl, rfl, rfl⟩
  unique := by
    rintro ⟨said, x⟩ ⟨said', x'⟩ s s' hs hs' (rfl : s = s')
    have hspoken := spoken?_eq_some.mpr ⟨x, hs, rfl⟩
    rw [spoken?_eq_some.mpr ⟨x', hs', rfl⟩, Option.some.injEq, Prod.mk.injEq] at hspoken
    obtain rfl : said' = said := hspoken.1
    have hsame := hs.symm.trans hs'
    rw [List.append_cancel_left_eq, List.cons.injEq] at hsame
    obtain rfl := injective_optionsText hsame.2
    rfl

theorem reads_sayLine : sayLine.Reads SayLine.head SayLine.statement fun l rest =>
    rest = l.said ++ '"' :: l.options.text := by
  rw [sayLine_eq]
  have hsaid : (space >>= fun _ => char '"' >>= fun _ => spoken).Reads _ _ _ :=
    reads_space.bind fun _ => Reads.behind reads_spoken
  refine (reads_indent.bind fun _ => (reads_keyword "say").bind fun _ => hsaid).equiv
    SayLine.parts (fun _ => rfl) (fun _ => rfl) fun l rest => ?_
  refine ⟨fun h => ⟨?_, trivial, stops_cons.mpr (by decide), h⟩, fun h => h.2.2.2⟩
  rw [List.append_assoc]
  exact l.keyword.stops_blank rfl (by decide) _

/-- Behind the opening quotation mark, the rest of the line decides. -/
theorem onLine?_sayLine (indent : {s : Blanks // 2 ≤ s.1.length}) (kw : Spelling "say")
    (gap : Space) {rest : List Char} {s : Statement} :
    sayLine.onLine? (indent.1.1 ++ (kw.1 ++ (gap.1 ++ '"' :: rest))) = some s ↔
      ∃ said, ∃ x : Options, rest = said ++ '"' :: x.text ∧ s = .say (cue said x.value) := by
  have hread : sayLine (indent.1.1 ++ (kw.1 ++ (gap.1 ++ '"' :: rest))) = spoken rest := by
    rw [sayLine_eq, bind_apply, reads_indent.complete (kw.stops_blank rfl (by decide) _),
      Option.bind_some, bind_apply, (reads_keyword "say").complete trivial, Option.bind_some,
      bind_apply, reads_space.complete (stops_cons.mpr (by decide)), Option.bind_some]
    rfl
  rw [onLine?, hread, Option.map_eq_some_iff]
  constructor
  · rintro ⟨⟨a, after⟩, hspoken, rfl⟩
    obtain ⟨said, x, hrest, ha, -⟩ := spoken_eq_some.mp hspoken
    exact ⟨said, x, hrest, ha⟩
  · rintro ⟨said, x, hrest, rfl⟩
    exact ⟨(_, rest), spoken_eq_some.mpr ⟨said, x, hrest, rfl, rfl⟩, rfl⟩

end Statement
end Storyboard
