import Mathlib
import Storyboard.Proofs.Script.Document
import Storyboard.Proofs.Script.Narration
import Storyboard.Proofs.Timing.Lengthening

/-!
Scripts of which one card is made longer. The numbers of two lengths are compared as the decimals
that they write, with any number of digits; the script with the greater one has a plan in which no
clip is shorter, and neither is the whole, as long as the frames of the card are finitely many.
-/

namespace Storyboard

theorem Binary64.ceil?_of_not_finite {x : Binary64} (h : ¬ x.isFinite) : x.ceil? = none := by
  cases x with
  | finite s u hu => exact absurd rfl h
  | nan | infinite s => rfl

/-! ### Drafts with longer cards -/

namespace Script

variable {rate : FrameRate}

/-- Drafts of the same items, but for cards that have grown. -/
structure Draft.Grows (rate : FrameRate) (d d' : Draft) : Prop where
  name : d.name = d'.name
  items : Item.AllGrow rate d.items d'.items
  block : Item.AllGrow rate d.block.toList d'.block.toList

namespace Draft.Grows

variable {d d' e : Draft} {s : Statement}

protected theorem refl (rate : FrameRate) (d : Draft) : d.Grows rate d :=
  ⟨rfl, .refl rate _, .refl rate _⟩

theorem allItems (h : d.Grows rate d') : Item.AllGrow rate d.allItems d'.allItems :=
  List.rel_append h.items h.block

theorem openClip (h : d.Grows rate d') {i j : Item} (hij : i.Grows rate j) :
    (d.openClip i).Grows rate (d'.openClip j) :=
  ⟨h.name, h.allItems, .cons hij .nil⟩

/-- What a draft takes, one with longer cards takes too. -/
theorem exists_take (h : d.Grows rate d') (htake : d.take s = some e) :
    ∃ e', d'.take s = some e' ∧ e.Grows rate e' := by
  cases s with
  | blank =>
      cases htake
      exact ⟨d', rfl, h⟩
  | name n =>
      cases htake
      exact ⟨_, rfl, rfl, h.items, h.block⟩
  | transition t =>
      cases htake
      exact ⟨_, rfl, h.name, List.rel_append h.allItems (Item.AllGrow.refl rate _), .nil⟩
  | card c =>
      cases htake
      exact ⟨_, rfl, h.openClip (.refl rate _)⟩
  | cast c =>
      cases htake
      exact ⟨_, rfl, h.openClip (.refl rate _)⟩
  | say cue =>
      obtain ⟨i, hi, rfl⟩ := Option.map_eq_some_iff.mp htake
      have hblock := h.block
      rw [hi] at hblock
      cases hj : d'.block with
      | none =>
          rw [hj] at hblock
          cases hblock
      | some j =>
          rw [hj] at hblock
          obtain ⟨hij, _⟩ := List.forall₂_cons.mp hblock
          refine ⟨{ d' with block := some (j.withSound (j.speech ++ [cue]) j.audio) }, ?_, h.name,
            h.items, .cons (hij.withSound cue) .nil⟩
          rw [take, hj, Option.map_some]

/-- The same lines behind them leave one draft with longer cards than the other. -/
theorem exists_compileLines (h : d.Grows rate d') {number : Nat} {lines : List (List Char)}
    (hlines : compileLines number d lines = .ok e) :
    ∃ e', compileLines number d' lines = .ok e' ∧ e.Grows rate e' := by
  induction lines generalizing number d d' with
  | nil =>
      cases hlines
      exact ⟨d', rfl, h⟩
  | cons raw rest ih =>
      obtain ⟨s, next, hs, htake, hrest⟩ := compileLines_cons_ok hlines
      obtain ⟨next', htake', hnext⟩ := h.exists_take htake
      obtain ⟨e', he', hgrows⟩ := ih hnext hrest
      refine ⟨e', ?_, hgrows⟩
      rw [compileLines_cons, hs, Option.bind_some, htake']
      exact he'

end Draft.Grows

end Script

/-! ### Cards with a length -/

namespace Grammar

/-- What the digits of a number denote, exactly. -/
def Number.decimal (n : Number) : ℚ :=
  (numeral (n.1.filter Text.isAsciiDigit) : ℚ) / 10 ^ places n.1

theorem Number.mul_le_of_decimal_le {m n : Number} (h : m.decimal ≤ n.decimal) :
    numeral (m.1.filter Text.isAsciiDigit) * 10 ^ places n.1 ≤
      numeral (n.1.filter Text.isAsciiDigit) * 10 ^ places m.1 := by
  unfold decimal at h
  rw [div_le_div_iff₀ (by positivity) (by positivity)] at h
  exact_mod_cast h

theorem Number.le_of_decimal_le {n : Number} {k : Nat} (h : n.decimal ≤ 2 ^ k) :
    numeral (n.1.filter Text.isAsciiDigit) ≤ 2 ^ k * 10 ^ places n.1 := by
  unfold decimal at h
  rw [div_le_iff₀ (by positivity)] at h
  exact_mod_cast h

/-- The card with a length: the number behind an at sign, whatever the card says otherwise. -/
def CardLine.lasting (l : CardLine) (s : Seconds) (n : Number) : CardLine :=
  { l with seconds := some { s with number := n } }

theorem CardLine.trimEnd_lasting (l : CardLine) (s : Seconds) (n : Number)
    (htail : l.tail.1 = []) : Text.trimEnd (l.lasting s n).text = (l.lasting s n).text := by
  have htext : (l.lasting s n).text = l.keyword.1 ++ l.gap.1 ++ '"' :: l.title.1 ++
      '"' :: optionalText Subtitle.text l.subtitle ++ Seconds.text { s with number := n } := by
    simp [text, lasting, optionalText, htail]
  rw [htext]
  exact Text.trimEnd_append_eq (Seconds.trimEnd_text _) (by simp [Seconds.text]) _

/-- The card of such a line. -/
def CardLine.lastingCard (l : CardLine) (n : Number) : Card :=
  ⟨String.ofList l.title.1, l.subtitle.map Subtitle.value, n.value, [], []⟩

theorem CardLine.seconds_lastingCard (l : CardLine) (n : Number) :
    (l.lastingCard n).seconds = n.value := by
  rw [lastingCard]

theorem CardLine.statement_lasting (l : CardLine) (s : Seconds) (n : Number) :
    (l.lasting s n).statement = .card (l.lastingCard n) := by
  unfold statement lasting lastingCard
  rw [Option.map_some, Option.getD_some, Seconds.value]

/-- A line with a card and its length is understood as the card. -/
theorem CardLine.statement?_lasting (l : CardLine) (s : Seconds) (n : Number) :
    Script.statement? (l.lasting s n).text = some (.card (l.lastingCard n)) := by
  -- Blanks at the end of the line do not matter.
  let core : CardLine := { l with tail := ⟨[], by simp⟩ }
  have htext : (l.lasting s n).text = (core.lasting s n).text ++ l.tail.1 := by
    simp [text, lasting, core]
  have hhead : ∀ c ∈ (core.lasting s n).text.head?, Text.isBlank c = false := by
    simp only [text, List.append_assoc]
    exact l.keyword.stops_blank (k := 'c') rfl (by decide) _
  have hnormal : Script.normalize (l.lasting s n).text = (core.lasting s n).text := by
    rw [htext, Script.normalize_append_of_blank l.tail.2,
      Script.normalize_of_trimmed hhead (core.trimEnd_lasting s n rfl)]
  rw [Script.statement?, hnormal]
  exact Statement.ofLine?_of_mem (by simp [Statement.classifiers])
    ((Statement.recognizes_card.accepts _ _).mpr
      ⟨core.lasting s n, rfl, core.statement_lasting s n⟩)

end Grammar

/-! ### Scripts of which a card is made longer -/

namespace Script
open Grammar (Number Seconds CardLine)

variable {rate : FrameRate} {m n : Number} {script script' : String} {t : Timeline}

/-- A one and noughts behind it. -/
def powerOfTen (k : Nat) : Number :=
  ⟨'1' :: List.replicate k '0', by
    intro c hc
    refine .inl ?_
    rcases List.mem_cons.mp hc with rfl | hc
    · decide
    · obtain rfl := List.eq_of_mem_replicate hc
      decide,
    ⟨'1', List.mem_cons_self, by decide⟩, by
    simp [List.count_replicate]⟩

/-- A card of one second, and one without a length. -/
def twoCards : Timeline :=
  ⟨"timeline", [.card ⟨"A", none, (powerOfTen 0).value, [], []⟩, .card ⟨"B", none, .zero, [], []⟩]⟩

/-- The line of a card with the title A, of any length. -/
theorem exists_cardA : ∃ (l : CardLine) (s : Seconds), ∀ n : Number,
    (l.lasting s n).text = "card \"A\" @".toList ++ (n.1 ++ ['s']) := by
  refine ⟨{
      keyword := ⟨"card".toList, by decide⟩
      gap := ⟨[' '], List.cons_ne_nil _ _, List.forall_mem_singleton.mpr (by decide)⟩
      title := ⟨['A'], List.cons_ne_nil _ _, List.forall_mem_singleton.mpr (by decide)⟩
      subtitle := none
      seconds := none
      tail := ⟨[], List.forall_mem_nil _⟩ }, {
      before := ⟨[' '], List.forall_mem_singleton.mpr (by decide)⟩
      behind := ⟨[], List.forall_mem_nil _⟩
      number := powerOfTen 0
      unit := some ⟨'s', by decide⟩ }, fun n => ?_⟩
  simp [CardLine.text, CardLine.lasting, Grammar.optionalText, Seconds.text, Grammar.unitText]

/-- A card in the middle of a script, with another length: the items are the same but for it. -/
theorem exists_compile_of_lasting (hframes : rate.coverFrames m.value ≤ rate.coverFrames n.value)
    {l : CardLine} {s : Seconds} {before after : List (List Char)}
    (hlines : Text.lines script.toList = before ++ (l.lasting s m).text :: after)
    (hlines' : Text.lines script'.toList = before ++ (l.lasting s n).text :: after)
    (h : compile script = .ok t) :
    ∃ t', compile script' = .ok t' ∧ Item.AllGrow rate t.items t'.items := by
  rw [compile, hlines, compileLines_append] at h
  rw [compile, hlines', compileLines_append]
  cases hbefore : compileLines 1 .empty before with
  | error e =>
      rw [hbefore] at h
      cases h
  | ok d =>
      rw [hbefore, Except.bind] at h
      rw [Except.bind]
      cases hwhole : compileLines (1 + before.length) d ((l.lasting s m).text :: after) with
      | error e =>
          rw [hwhole] at h
          cases h
      | ok whole =>
          rw [hwhole] at h
          cases h
          obtain ⟨said, next, hsaid, htake, hafter⟩ := compileLines_cons_ok hwhole
          rw [CardLine.statement?_lasting] at hsaid
          cases hsaid
          cases htake
          have hcard : (Item.card (l.lastingCard m)).Grows rate (.card (l.lastingCard n)) := by
            refine .inr ⟨l.lastingCard m, n.value, rfl, rfl, ?_⟩
            rwa [l.seconds_lastingCard]
          have hgrows := (Draft.Grows.refl rate d).openClip hcard
          obtain ⟨whole', hwhole', hall⟩ := hgrows.exists_compileLines hafter
          refine ⟨whole'.timeline, ?_, hall.allItems⟩
          rw [compileLines_cons, CardLine.statement?_lasting, Option.bind_some, Draft.take]
          exact congrArg (Except.map Draft.timeline) hwhole'

/-- The numbers that cards are given as lengths, compared as decimals. As long as the greater one
has finitely many frames, as all have up to `2 ^ 991`, its card covers as many frames as that of the
smaller one or more, and the plan of a script in which it takes the place of the smaller one has no
clip with fewer frames, nor fewer in all. With more frames than there are numbers for, a card covers
one frame. -/
theorem plan_of_longer (rate : FrameRate) (m n : Number) (hle : m.decimal ≤ n.decimal) :
    (∀ k ≤ 991, n.decimal ≤ 2 ^ k → (n.value * rate.perSecond).isFinite) ∧
    (¬ (n.value * rate.perSecond).isFinite → rate.coverFrames n.value = 1) ∧
    ((n.value * rate.perSecond).isFinite →
      rate.coverFrames m.value ≤ rate.coverFrames n.value ∧
      ∀ (l : CardLine) (s : Seconds) (before after : List (List Char)) (script script' : String)
        (t : Timeline) (probe : Probe) (p : Plan),
        Text.lines script.toList = before ++ (l.lasting s m).text :: after →
        Text.lines script'.toList = before ++ (l.lasting s n).text :: after →
        compile script = .ok t → t.plan rate probe = .ok p →
        ∃ t' p', compile script' = .ok t' ∧ t'.plan rate probe = .ok p' ∧
          List.Forall₂ (· ≤ ·) (p.schedule.clips.map (·.base)) (p'.schedule.clips.map (·.base)) ∧
          p.schedule.totalFrames ≤ p'.schedule.totalFrames) := by
  refine ⟨fun k hk hn => ?_, fun hinfinite => ?_, fun hfinite => ?_⟩
  · exact FrameRate.isFinite_mul_perSecond hk (Nat.pow_pos (by decide)) (n.le_of_decimal_le hn)
  · exact rate.coverFrames_of_ceil? (Binary64.ceil?_of_not_finite hinfinite)
  · have hframes : rate.coverFrames m.value ≤ rate.coverFrames n.value :=
      FrameRate.coverFrames_mono (Nat.pow_pos (by decide)) (Nat.pow_pos (by decide))
        (Number.mul_le_of_decimal_le hle) hfinite
    refine ⟨hframes, ?_⟩
    intro l s before after script script' t probe p hlines hlines' ht hp
    obtain ⟨t', ht', hall⟩ := exists_compile_of_lasting hframes hlines hlines' ht
    obtain ⟨p', hp', hbases, htotal⟩ := Timeline.exists_plan_of_grow hall hp
    exact ⟨t', p', ht', hp', hbases, htotal⟩

/-- A card of a second and one of ten seconds. -/
theorem plan_of_longer_tenSeconds :
    (powerOfTen 0).decimal ≤ (powerOfTen 1).decimal ∧
    FrameRate.standard.coverFrames (powerOfTen 0).value ≤
      FrameRate.standard.coverFrames (powerOfTen 1).value ∧
    ∃ t p t' p', compile "card \"A\" @1s\ncard \"B\"" = .ok t ∧
      t.plan .standard (fun _ => .error .zeroFrames) = .ok p ∧
      compile "card \"A\" @10s\ncard \"B\"" = .ok t' ∧
      t'.plan .standard (fun _ => .error .zeroFrames) = .ok p' ∧
      p.schedule.totalFrames ≤ p'.schedule.totalFrames := by
  have hle : (powerOfTen 0).decimal ≤ (powerOfTen 1).decimal := by decide +kernel
  obtain ⟨hfinite, _, hlonger⟩ := plan_of_longer .standard (powerOfTen 0) (powerOfTen 1) hle
  obtain ⟨hframes, hplan⟩ := hlonger (hfinite 4 (by decide) (by decide +kernel))
  have ht : compile "card \"A\" @1s\ncard \"B\"" = .ok twoCards := by decide +kernel
  have hlengths : twoCards.clipLengths .standard (fun _ => .error .zeroFrames) = .ok [30, 1] := by
    decide +kernel
  obtain ⟨p, hp⟩ := Timeline.exists_plan_of_clipLengths hlengths
  obtain ⟨l, s, htext⟩ := exists_cardA
  obtain ⟨t', p', ht', hp', _, htotal⟩ := hplan l s [] ["card \"B\"".toList] _
    "card \"A\" @10s\ncard \"B\"" _ _ _ (by rw [htext]; decide +kernel)
    (by rw [htext]; decide +kernel) ht hp
  exact ⟨hle, hframes, _, p, t', p', ht, hp, ht', hp', htotal⟩

/-- A greater length that is a finite number of seconds covers fewer frames: their number is not
finite. -/
theorem coverFrames_powerOfTen_lt :
    (powerOfTen 300).decimal ≤ (powerOfTen 308).decimal ∧ (powerOfTen 308).value.isFinite = true ∧
      FrameRate.standard.coverFrames (powerOfTen 300).value = Frame.greatestLength ∧
      FrameRate.standard.coverFrames (powerOfTen 308).value = 1 := by
  decide +kernel

end Script

end Storyboard
