import Mathlib
import Storyboard.Proofs.Script.Productions
import Storyboard.Proofs.Text.Folding
import Storyboard.Script.Cursor

/-!
Matchers do what scanners do. At a cursor between two characters a matcher never cuts one: it takes
from the text ahead what the scanner takes from its characters, or it leaves the cursor alone where
the scanner fails. What the scanners take is told by the language of each pattern, in which runs are
as long as possible.
-/

namespace Storyboard
open Text (Stops)

/-! ### Cuts between characters -/

theorem isValid_append {s t : String} : s.rawEndPos.IsValid (s ++ t) :=
  String.Pos.Raw.isValid_iff_exists_append.mpr ⟨s, t, rfl, rfl⟩

theorem sliceFrom?_append (s t : String) : sliceFrom? (s ++ t) s.rawEndPos = some t := by
  rw [sliceFrom?, dif_pos isValid_append, Option.some.injEq]
  exact (String.Pos.splits _).eq_right ⟨rfl, rfl⟩

theorem sliceTo?_append (s t : String) : sliceTo? (s ++ t) s.rawEndPos = some s := by
  rw [sliceTo?, dif_pos isValid_append, Option.some.injEq]
  exact (String.Pos.splits _).eq_left ⟨rfl, rfl⟩

theorem exists_of_sliceTo? {s head : String} {p : String.Pos.Raw} (h : sliceTo? s p = some head) :
    ∃ tail, s = head ++ tail := by
  unfold sliceTo? at h
  split at h
  · next hp =>
      cases h
      exact ⟨_, (String.Pos.splits ⟨p, hp⟩).eq_append⟩
  · cases h

/-- The cursor between two parts of a text. -/
def Cursor.between (behind ahead : List Char) : Cursor :=
  ⟨String.ofList behind ++ String.ofList ahead, (String.ofList behind).rawEndPos⟩

theorem Cursor.isValid_between (behind ahead : List Char) :
    (between behind ahead).place.IsValid (between behind ahead).text :=
  isValid_append

theorem Cursor.exists_between {c : Cursor} (h : c.place.IsValid c.text) :
    ∃ behind ahead, c = .between behind ahead := by
  obtain ⟨s, t, htext, hplace⟩ := String.Pos.Raw.isValid_iff_exists_append.mp h
  refine ⟨s.toList, t.toList, ?_⟩
  rw [between, String.ofList_toList, String.ofList_toList, ← htext, ← hplace]

theorem Cursor.text_between_append (behind taken ahead : List Char) :
    (between (behind ++ taken) ahead).text = (between behind (taken ++ ahead)).text := by
  simp only [between, String.ofList_append, String.append_assoc]

theorem Cursor.place_le_between (behind taken ahead : List Char) :
    (between behind (taken ++ ahead)).place ≤ (between (behind ++ taken) ahead).place := by
  simp only [between, String.Pos.Raw.le_iff, String.byteIdx_rawEndPos, String.ofList_append,
    String.utf8ByteSize_append]
  exact Nat.le_add_right _ _

theorem utf8ByteSize_ofList_singleton (c : Char) :
    (String.ofList [c]).utf8ByteSize = c.utf8Size := by
  rw [← String.singleton_eq_ofList, String.utf8ByteSize_singleton]

theorem utf8ByteSize_ofList_cons (c : Char) (s : List Char) :
    (String.ofList (c :: s)).utf8ByteSize = c.utf8Size + (String.ofList s).utf8ByteSize := by
  rw [← List.singleton_append, String.ofList_append, String.utf8ByteSize_append,
    utf8ByteSize_ofList_singleton]

theorem utf8Size_toLower (c : Char) : c.toLower.utf8Size = c.utf8Size := by
  rcases Nat.lt_or_ge c.toNat 128 with hascii | hbeyond
  · exact Text.of_ascii (P := fun c => c.toLower.utf8Size = c.utf8Size) (by decide +kernel) c hascii
  · rw [Text.toLower_of_not_ascii hbeyond]

/-- Texts that are the same in any case have equally many bytes. -/
theorem utf8ByteSize_of_sameWord {s t : List Char} (h : Text.lower s = Text.lower t) :
    (String.ofList s).utf8ByteSize = (String.ofList t).utf8ByteSize := by
  have hlower : ∀ s, (String.ofList (Text.lower s)).utf8ByteSize =
      (String.ofList s).utf8ByteSize := by
    intro s
    induction s with
    | nil => rfl
    | cons c s ih =>
        rw [Text.lower, List.map_cons, utf8ByteSize_ofList_cons, utf8ByteSize_ofList_cons,
          utf8Size_toLower]
        exact congrArg _ ih
  rw [← hlower, h, hlower]

namespace Matcher

variable {α β : Type}

theorem bind_apply (m : Matcher α) (f : α → Matcher β) (c : Cursor) :
    (m >>= f) c = (m c).bind fun x =>
      match x.1 with
      | some a => f a x.2
      | none => some (none, x.2) := by
  change (m c).bind _ = _
  congr 1
  funext ⟨a, c⟩
  cases a <;> rfl

theorem bind_of_some {m : Matcher α} {f : α → Matcher β} {c c' : Cursor} {a : α}
    (h : m c = some (some a, c')) : (m >>= f) c = f a c' := by
  rw [bind_apply, h]
  rfl

theorem bind_of_none {m : Matcher α} {f : α → Matcher β} {c c' : Cursor}
    (h : m c = some (none, c')) : (m >>= f) c = some (none, c') := by
  rw [bind_apply, h]
  rfl

theorem rest_between (behind ahead : List Char) :
    rest (.between behind ahead) = some (some (String.ofList ahead), .between behind ahead) := by
  change slice (sliceFrom? _ _) _ = _
  rw [slice, Cursor.between, sliceFrom?_append]
  rfl

theorem advance_between (behind taken ahead : List Char) :
    advance (String.ofList taken).utf8ByteSize (.between behind (taken ++ ahead)) =
      some (some (), .between (behind ++ taken) ahead) := by
  change some (some (), Cursor.mk _ _) = _
  have hplace : ⟨(String.ofList behind).utf8ByteSize + (String.ofList taken).utf8ByteSize⟩ =
      (String.ofList behind ++ String.ofList taken).rawEndPos := by
    rw [String.Pos.Raw.ext_iff, String.byteIdx_rawEndPos, String.utf8ByteSize_append]
  rw [Cursor.between, Cursor.between, String.ofList_append, String.ofList_append,
    String.append_assoc, ← hplace]
  rfl

/-! ### Matchers that follow a scanner -/

/-- The matcher moves over what the scanner takes from the text ahead, and gives the same. -/
def Moves (m : Matcher α) (p : Scanner α) (behind ahead : List Char) : Prop :=
  ∃ a taken rest, ahead = taken ++ rest ∧ p ahead = some (a, rest) ∧
    m (.between behind ahead) = some (some a, .between (behind ++ taken) rest)

/-- Between any two parts of a text the matcher moves with the scanner, or there is no match and
the cursor may have come anywhere. -/
def Follows (m : Matcher α) (p : Scanner α) : Prop :=
  ∀ behind ahead, (p ahead = none ∧ ∃ c, m (.between behind ahead) = some (none, c)) ∨
    m.Moves p behind ahead

/-- Between any two parts of a text the matcher moves with the scanner, or there is no match and
the cursor stays. -/
def Agrees (m : Matcher α) (p : Scanner α) : Prop :=
  ∀ behind ahead, (p ahead = none ∧
      m (.between behind ahead) = some (none, .between behind ahead)) ∨ m.Moves p behind ahead

variable {m : Matcher α} {p : Scanner α} {f : α → Matcher β} {g : α → Scanner β}

theorem Agrees.follows (h : m.Agrees p) : m.Follows p :=
  fun behind ahead => (h behind ahead).imp_left fun ⟨hp, hm⟩ => ⟨hp, _, hm⟩

theorem Follows.pure (a : α) : Follows (Pure.pure a) (Pure.pure a) := by
  refine fun behind ahead => .inr ⟨a, [], ahead, rfl, rfl, ?_⟩
  rw [List.append_nil]
  rfl

theorem Follows.failure : Follows (failure : Matcher α) failure :=
  fun _ _ => .inl ⟨rfl, _, rfl⟩

theorem Follows.bind (hm : m.Follows p) (hf : ∀ a, (f a).Follows (g a)) :
    (m >>= f).Follows (p >>= g) := by
  intro behind ahead
  rcases hm behind ahead with ⟨hp, c, hc⟩ | ⟨a, first, middle, rfl, hp, hfirst⟩
  · exact .inl ⟨by rw [Scanner.bind_apply, hp, Option.bind_none], c, bind_of_none hc⟩
  · have hscan : (p >>= g) (first ++ middle) = g a middle := by
      rw [Scanner.bind_apply, hp, Option.bind_some]
    rcases hf a (behind ++ first) middle with ⟨hg, c, hc⟩ | ⟨b, second, rest, rfl, hg, hsecond⟩
    · exact .inl ⟨hscan.trans hg, c, (bind_of_some hfirst).trans hc⟩
    · refine .inr ⟨b, first ++ second, rest, (List.append_assoc ..).symm, hscan.trans hg, ?_⟩
      rw [bind_of_some hfirst, hsecond, List.append_assoc]

/-- A copy of the cursor that came to nothing is forgotten. -/
theorem Follows.opt (h : m.Follows p) : m.opt.Agrees p := by
  intro behind ahead
  rcases h behind ahead with ⟨hp, c, hc⟩ | ⟨a, taken, rest, hahead, hp, htaken⟩
  · refine .inl ⟨hp, ?_⟩
    rw [Matcher.opt, hc]
    rfl
  · refine .inr ⟨a, taken, rest, hahead, hp, ?_⟩
    rw [Matcher.opt, htaken]
    rfl

theorem Agrees.map (h : m.Agrees p) (f : α → β) :
    Agrees (m >>= fun a => Pure.pure (f a)) (p >>= fun a => Pure.pure (f a)) := by
  intro behind ahead
  rcases h behind ahead with ⟨hp, hm⟩ | ⟨a, taken, rest, hahead, hp, hm⟩
  · exact .inl ⟨by rw [Scanner.bind_apply, hp, Option.bind_none], bind_of_none hm⟩
  · refine .inr ⟨f a, taken, rest, hahead, ?_, (bind_of_some hm).trans rfl⟩
    rw [Scanner.bind_apply, hp, Option.bind_some]
    rfl

/-! ### Each matcher -/

/-- What a matcher does that looks at the text ahead first. -/
theorem rest_bind (f : String → Matcher α) (behind ahead : List Char) :
    (rest >>= f) (.between behind ahead) = f (String.ofList ahead) (.between behind ahead) :=
  bind_of_some (rest_between behind ahead)

theorem advance_one (behind : List Char) (c : Char) (ahead : List Char) :
    advance c.utf8Size (.between behind (c :: ahead)) =
      some (some (), .between (behind ++ [c]) ahead) := by
  rw [← utf8ByteSize_ofList_singleton]
  exact advance_between behind [c] ahead

theorem agrees_one {q : Char → Bool} {p : Scanner Unit} (hnil : p [] = none)
    (hcons : ∀ c rest, p (c :: rest) = if q c then some ((), rest) else none) :
    (one q).Agrees p := by
  intro behind ahead
  unfold Moves
  rw [one, rest_bind, String.toList_ofList]
  cases ahead with
  | nil => exact .inl ⟨hnil, rfl⟩
  | cons c rest =>
      rw [hcons]
      dsimp only
      split
      · exact .inr ⟨(), [c], rest, rfl, rfl, advance_one behind c rest⟩
      · exact .inl ⟨rfl, rfl⟩

theorem agrees_char (want : Char) : (char want).Agrees (Scanner.char want) := by
  refine agrees_one rfl fun c rest => ?_
  simp only [Scanner.char, beq_iff_eq]

theorem agrees_letter (want : Char) : (letter want).Agrees (Scanner.letter want) :=
  agrees_one rfl fun _ _ => rfl

theorem skip_between (n : Nat) (behind ahead : List Char) :
    skip n ahead (.between behind ahead) = some (some (n + (ahead.takeWhile Text.isBlank).length),
      .between (behind ++ ahead.takeWhile Text.isBlank) (ahead.dropWhile Text.isBlank)) := by
  induction ahead generalizing n behind with
  | nil => simp [skip]; rfl
  | cons c ahead ih =>
      rw [skip]
      split
      · next hc =>
          rw [bind_of_some (advance_one behind c ahead), ih, List.takeWhile_cons_of_pos hc,
            List.dropWhile_cons_of_pos hc, List.length_cons, List.append_assoc, Nat.add_right_comm]
          rfl
      · next hc =>
          rw [List.takeWhile_cons_of_neg hc, List.dropWhile_cons_of_neg hc, List.append_nil]
          rfl

theorem blanks_between (behind ahead : List Char) :
    blanks (.between behind ahead) = some (some (ahead.takeWhile Text.isBlank).length,
      .between (behind ++ ahead.takeWhile Text.isBlank) (ahead.dropWhile Text.isBlank)) := by
  rw [blanks, rest_bind, String.toList_ofList, skip_between, Nat.zero_add]

theorem agrees_blanks : blanks.Agrees Scanner.blanks := fun behind ahead =>
  .inr ⟨_, _, _, List.takeWhile_append_dropWhile.symm, rfl, blanks_between behind ahead⟩

theorem scan_run (q : Char → Bool) (s : List Char) : Scanner.run q s =
    if s.takeWhile q = [] then none else some (s.takeWhile q, s.dropWhile q) := by
  unfold Scanner.run
  cases s.takeWhile q <;> rfl

theorem scan_space (s : List Char) : Scanner.space s =
    if s.takeWhile Text.isBlank = [] then none else some ((), s.dropWhile Text.isBlank) := by
  rw [Scanner.space, Scanner.bind_apply, scan_run]
  split <;> rfl

theorem agrees_space : space.Agrees Scanner.space := by
  refine Follows.opt fun behind ahead => ?_
  unfold Moves
  rw [bind_of_some (blanks_between behind ahead), scan_space]
  split
  · next hblank =>
      rw [hblank, List.length_nil, if_neg (Nat.lt_irrefl 0)]
      exact .inl ⟨rfl, _, rfl⟩
  · next hblank =>
      rw [if_pos (List.length_pos_iff.mpr hblank)]
      exact .inr ⟨(), _, _, List.takeWhile_append_dropWhile.symm, rfl, rfl⟩

theorem agrees_finish : finish.Agrees Scanner.finish := by
  refine Follows.opt fun behind ahead => ?_
  unfold Moves
  rw [bind_of_some (blanks_between behind ahead), rest_bind, Scanner.finish_eq]
  split
  · next hend =>
      have hblank := List.takeWhile_append_dropWhile (p := Text.isBlank) (l := ahead)
      rw [hend, List.append_nil] at hblank
      rw [hend, hblank]
      exact .inr ⟨(), ahead, [], (List.append_nil _).symm, rfl, rfl⟩
  · next hend =>
      have hne : ¬ (String.ofList (ahead.dropWhile Text.isBlank)).isEmpty = true := by
        simpa using hend
      rw [if_neg hne]
      exact .inl ⟨rfl, _, rfl⟩

theorem stop_ofList (q : Char → Bool) (s : List Char) :
    stop q (String.ofList s) = (String.ofList (s.takeWhile q)).rawEndPos := by
  rw [stop, String.toList_ofList]

theorem agrees_run (q : Char → Bool) : (run q).Agrees (Scanner.run q) := by
  intro behind ahead
  unfold Moves
  have hslice : sliceTo? (String.ofList ahead) (String.ofList (ahead.takeWhile q)).rawEndPos =
      some (String.ofList (ahead.takeWhile q)) := by
    have hsplit := sliceTo?_append (String.ofList (ahead.takeWhile q))
      (String.ofList (ahead.dropWhile q))
    rwa [← String.ofList_append, List.takeWhile_append_dropWhile] at hsplit
  have hadvance := advance_between behind (ahead.takeWhile q) (ahead.dropWhile q)
  rw [List.takeWhile_append_dropWhile] at hadvance
  rw [run, rest_bind, stop_ofList, scan_run, hslice]
  split
  · next hnone =>
      rw [hnone]
      exact .inl ⟨rfl, rfl⟩
  · next hsome =>
      rw [if_neg]
      · refine .inr ⟨_, _, _, List.takeWhile_append_dropWhile.symm, rfl, ?_⟩
        refine (bind_of_some hadvance).trans ?_
        change some (some (String.ofList (ahead.takeWhile q)).toList, _) = _
        rw [String.toList_ofList]
      · simpa using hsome

/-- A spelling of the word has as many bytes, so that it is the slice that is looked at. -/
theorem sliceTo?_of_sameWord {w rest : List Char} {word : String}
    (h : Text.lower w = Text.lower word.toList) :
    sliceTo? (String.ofList (w ++ rest)) word.rawEndPos = some (String.ofList w) := by
  have hbytes := utf8ByteSize_of_sameWord h
  rw [String.ofList_toList] at hbytes
  have hplace : word.rawEndPos = (String.ofList w).rawEndPos :=
    String.Pos.Raw.ext_iff.mpr hbytes.symm
  rw [hplace, String.ofList_append, sliceTo?_append]

theorem agrees_keyword (word : String) : (keyword word).Agrees (Scanner.keyword word.toList) := by
  intro behind ahead
  unfold Moves
  rw [keyword, rest_bind]
  cases hscan : Scanner.keyword word.toList ahead with
  | some x =>
      obtain ⟨⟨⟩, rest⟩ := x
      obtain ⟨w, rfl, hw⟩ := Scanner.keyword_eq_some.mp hscan
      have hsame : Text.sameWord (String.ofList w).toList word.toList = true := by
        simpa [Text.sameWord] using hw
      have hbytes := utf8ByteSize_of_sameWord hw
      rw [String.ofList_toList] at hbytes
      rw [sliceTo?_of_sameWord hw]
      dsimp only
      rw [if_pos hsame, ← hbytes]
      exact .inr ⟨(), w, rest, rfl, rfl, advance_between behind w rest⟩
  | none =>
      refine .inl ⟨rfl, ?_⟩
      cases hhead : sliceTo? (String.ofList ahead) word.rawEndPos with
      | none => rfl
      | some head =>
          dsimp only
          rw [if_neg]
          · rfl
          · intro hsame
            obtain ⟨tail, htext⟩ := exists_of_sliceTo? hhead
            have htake : Scanner.keyword word.toList ahead = some ((), tail.toList) := by
              refine Scanner.keyword_eq_some.mpr ⟨head.toList, ?_, ?_⟩
              · rw [← String.toList_append, ← htext, String.toList_ofList]
              · simpa [Text.sameWord] using hsame
            rw [hscan] at htake
            cases htake

/-- A slice of as many bytes as the word has would end inside the character. -/
example : keyword "e" ⟨"é", 0⟩ = some (none, ⟨"é", 0⟩) := by decide +kernel

theorem count?_getD (digits : List Char) : (count? digits).getD (.ofNat (UInt32.size - 1)) =
    .ofNat (min (Digits.toNat (Digits.span digits).1) (UInt32.size - 1)) := by
  unfold count?
  dsimp only
  split
  · next h => rw [Option.getD_some, Nat.min_eq_left (Nat.le_sub_one_of_lt h)]
  · next h => rw [Option.getD_none, Nat.min_eq_right (by omega)]

theorem agrees_count : count.Agrees Scanner.count := by
  have hvalue : Scanner.count = Scanner.run Text.isAsciiDigit >>= fun digits =>
      Pure.pure ((count? digits).getD (.ofNat (UInt32.size - 1))) := by
    simp only [count?_getD]
    rfl
  rw [hvalue]
  exact (agrees_run Text.isAsciiDigit).map _

theorem agrees_number : number.Agrees Scanner.number := by
  refine Follows.opt ((agrees_run _).follows.bind fun s => ?_)
  cases Scanner.decimal? s with
  | none => exact .failure
  | some d => exact .pure _

theorem agrees_quoted : quoted.Agrees Scanner.quoted :=
  Follows.opt <| (agrees_char _).follows.bind fun _ => (agrees_run _).follows.bind fun _ =>
    (agrees_char _).follows.bind fun _ => .pure _

end Matcher

/-! ### Patterns -/

/-- The matchers of script lines, alone, put back on a mismatch, and one behind the other with
nothing taken unless both match. -/
inductive Pattern : Type → Type 1 where
  | blanks : Pattern Nat
  | space : Pattern Unit
  | keyword (word : String) : Pattern Unit
  | char (want : Char) : Pattern Unit
  | letter (want : Char) : Pattern Unit
  | count : Pattern UInt32
  | number : Pattern Binary64
  | word : Pattern (List Char)
  | nonblank : Pattern (List Char)
  | quoted : Pattern (List Char)
  | finish : Pattern Unit
  | opt {α : Type} (p : Pattern α) : Pattern α
  | group {α β : Type} (p : Pattern α) (q : Pattern β) : Pattern (α × β)

namespace Pattern
open Grammar (Space Spelling Letter Count Number Run Quoted Blanks)

def matcher : {α : Type} → Pattern α → Matcher α
  | _, .blanks => .blanks
  | _, .space => .space
  | _, .keyword w => .keyword w
  | _, .char want => .char want
  | _, .letter want => .letter want
  | _, .count => .count
  | _, .number => .number
  | _, .word => .word
  | _, .nonblank => .nonblank
  | _, .quoted => .quoted
  | _, .finish => .finish
  | _, .opt p => p.matcher.opt
  | _, .group p q => Matcher.opt do
    let a ← p.matcher
    let b ← q.matcher
    return (a, b)

def scanner : {α : Type} → Pattern α → Scanner α
  | _, .blanks => .blanks
  | _, .space => .space
  | _, .keyword w => .keyword w.toList
  | _, .char want => .char want
  | _, .letter want => .letter want
  | _, .count => .count
  | _, .number => .number
  | _, .word => .word
  | _, .nonblank => .nonblank
  | _, .quoted => .quoted
  | _, .finish => .finish
  | _, .opt p => p.scanner
  | _, .group p q => do
    let a ← p.scanner
    let b ← q.scanner
    return (a, b)

/-- The language of a pattern: the texts that may be taken before a rest, with their meanings. A run
is taken only before a rest that does not prolong it. -/
def Takes : {α : Type} → Pattern α → (taken rest : List Char) → α → Prop
  | _, .blanks, taken, rest, n =>
    ∃ s : Blanks, taken = s.1 ∧ n = s.1.length ∧ Stops Text.isBlank rest
  | _, .space, taken, rest, _ => ∃ s : Space, taken = s.1 ∧ Stops Text.isBlank rest
  | _, .keyword w, taken, _, _ => ∃ s : Spelling w, taken = s.1
  | _, .char want, taken, _, _ => taken = [want]
  | _, .letter want, taken, _, _ => ∃ c : Letter want, taken = [c.1]
  | _, .count, taken, rest, n =>
    ∃ s : Count, taken = s.1 ∧ n = s.value ∧ Stops Text.isAsciiDigit rest
  | _, .number, taken, rest, x =>
    ∃ s : Number, taken = s.1 ∧ x = s.value ∧ Stops Scanner.isNumberChar rest
  | _, .word, taken, rest, slice =>
    ∃ s : Run Text.isWordChar, taken = s.1 ∧ slice = s.1 ∧ Stops Text.isWordChar rest
  | _, .nonblank, taken, rest, slice =>
    ∃ s : Run fun c => !Text.isBlank c, taken = s.1 ∧ slice = s.1 ∧
      Stops (fun c => !Text.isBlank c) rest
  | _, .quoted, taken, _, slice => ∃ s : Quoted, taken = '"' :: (s.1 ++ ['"']) ∧ slice = s.1
  | _, .finish, taken, rest, _ => ∃ s : Blanks, taken = s.1 ∧ rest = []
  | _, .opt p, taken, rest, a => p.Takes taken rest a
  | _, .group p q, taken, rest, x => ∃ first second, taken = first ++ second ∧
    p.Takes first (second ++ rest) x.1 ∧ q.Takes second rest x.2

variable {α : Type}

/-- Every matcher agrees with the scanner of its pattern. -/
theorem agrees (p : Pattern α) : p.matcher.Agrees p.scanner := by
  induction p with
  | blanks => exact Matcher.agrees_blanks
  | space => exact Matcher.agrees_space
  | keyword w => exact Matcher.agrees_keyword w
  | char want => exact Matcher.agrees_char want
  | letter want => exact Matcher.agrees_letter want
  | count => exact Matcher.agrees_count
  | number => exact Matcher.agrees_number
  | word | nonblank => exact Matcher.agrees_run _
  | quoted => exact Matcher.agrees_quoted
  | finish => exact Matcher.agrees_finish
  | opt p ih => exact ih.follows.opt
  | group p q hp hq =>
      exact Matcher.Follows.opt (hp.follows.bind fun _ => hq.follows.bind fun _ => .pure _)

theorem exists_taken {p : Pattern α} {s rest : List Char} {a : α}
    (h : p.scanner s = some (a, rest)) : ∃ taken, s = taken ++ rest := by
  rcases p.agrees [] s with ⟨hnone, _⟩ | ⟨b, taken, rest', hs, hsome, _⟩
  · rw [h] at hnone
    cases hnone
  · rw [h] at hsome
    cases hsome
    exact ⟨taken, hs⟩

/-- The scanner of a pattern takes its language and nothing else. -/
theorem takes_iff (p : Pattern α) {taken rest : List Char} {a : α} :
    p.Takes taken rest a ↔ p.scanner (taken ++ rest) = some (a, rest) := by
  induction p generalizing taken rest with
  | blanks => exact (Scanner.reads_blanks.apply_append_iff taken rest a).symm
  | space => simpa [Takes, scanner] using (Scanner.reads_space.apply_append_iff taken rest a).symm
  | keyword w =>
      simpa [Takes, scanner] using ((Scanner.reads_keyword w).apply_append_iff taken rest a).symm
  | char want =>
      simpa [Takes, scanner] using ((Scanner.reads_char want).apply_append_iff taken rest a).symm
  | letter want =>
      simpa [Takes, scanner] using ((Scanner.reads_letter want).apply_append_iff taken rest a).symm
  | count => exact (Scanner.reads_count.apply_append_iff taken rest a).symm
  | number => exact (Scanner.reads_number.apply_append_iff taken rest a).symm
  | word | nonblank => exact ((Scanner.reads_run _).apply_append_iff taken rest a).symm
  | quoted =>
      simpa only [Takes, scanner, and_true] using
        (Statement.reads_quoted.apply_append_iff taken rest a).symm
  | finish => simpa [Takes, scanner] using (Scanner.reads_finish.apply_append_iff taken rest a).symm
  | opt p ih => exact ih
  | group p q hp hq =>
      obtain ⟨a, b⟩ := a
      constructor
      · rintro ⟨first, second, rfl, hfirst, hsecond⟩
        have hp' := hp.mp hfirst
        have hq' := hq.mp hsecond
        rw [scanner, Scanner.bind_apply, List.append_assoc, hp', Option.bind_some,
          Scanner.bind_apply, hq']
        rfl
      · intro h
        rw [scanner, Scanner.bind_apply] at h
        obtain ⟨⟨a', middle⟩, hp', h⟩ := Option.bind_eq_some_iff.mp h
        rw [Scanner.bind_apply] at h
        obtain ⟨⟨b', rest'⟩, hq', h⟩ := Option.bind_eq_some_iff.mp h
        cases h
        obtain ⟨first, hfirst⟩ := exists_taken hp'
        obtain ⟨second, rfl⟩ := exists_taken hq'
        rw [← List.append_assoc] at hfirst
        obtain rfl := List.append_cancel_right hfirst
        rw [List.append_assoc] at hp'
        exact ⟨first, second, rfl, hp.mpr hp', hq.mpr hq'⟩

/-- From between two characters of any text a matcher never cuts a character. Either nothing of its
language is ahead and the cursor stays, or the cursor moves over a text of its language to a place
between two characters again, and what the text means is given. -/
theorem matches_or_stays (p : Pattern α) (c : Cursor) (hc : c.place.IsValid c.text) :
    ∃ behind ahead, c = .between behind ahead ∧
      ((p.matcher c = some (none, c) ∧ p.scanner ahead = none ∧
          ∀ taken rest a, ahead = taken ++ rest → ¬ p.Takes taken rest a) ∨
        ∃ a taken rest c', ahead = taken ++ rest ∧ c' = .between (behind ++ taken) rest ∧
          p.matcher c = some (some a, c') ∧ p.scanner ahead = some (a, rest) ∧
          p.Takes taken rest a ∧ c'.text = c.text ∧ c'.place.IsValid c'.text ∧
          c.place ≤ c'.place ∧ c'.place ≤ c'.text.rawEndPos) := by
  obtain ⟨behind, ahead, rfl⟩ := Cursor.exists_between hc
  refine ⟨behind, ahead, rfl, ?_⟩
  rcases p.agrees behind ahead with ⟨hscan, hmatch⟩ | ⟨a, taken, rest, rfl, hscan, hmatch⟩
  · refine .inl ⟨hmatch, hscan, ?_⟩
    rintro taken rest a rfl htakes
    rw [p.takes_iff.mp htakes] at hscan
    cases hscan
  · have hvalid := Cursor.isValid_between (behind ++ taken) rest
    exact .inr ⟨a, taken, rest, _, rfl, rfl, hmatch, hscan, p.takes_iff.mpr hscan,
      Cursor.text_between_append behind taken rest, hvalid,
      Cursor.place_le_between behind taken rest, hvalid.le_rawEndPos⟩

/-- Behind a character of two bytes, and over another one. -/
theorem matches_or_stays_accented :
    (⟨3⟩ : String.Pos.Raw).IsValid "é \"ü\"." ∧
      ∃ c', Pattern.quoted.matcher ⟨"é \"ü\".", ⟨3⟩⟩ = some (some ['ü'], c') ∧
        c'.place.IsValid "é \"ü\"." ∧ c'.place = ⟨7⟩ := by
  have hvalid : (⟨3⟩ : String.Pos.Raw).IsValid "é \"ü\"." := by decide +kernel
  have hmatch : Pattern.quoted.matcher ⟨"é \"ü\".", ⟨3⟩⟩ =
      some (some ['ü'], ⟨"é \"ü\".", ⟨7⟩⟩) := by decide +kernel
  obtain ⟨_, _, -, ⟨hnone, -⟩ | ⟨_, _, _, c', -, -, hsome, -, -, -, hend, -⟩⟩ :=
    matches_or_stays .quoted ⟨"é \"ü\".", ⟨3⟩⟩ hvalid
  · rw [hmatch] at hnone
    cases hnone
  · rw [hmatch] at hsome
    cases hsome
    exact ⟨hvalid, _, hmatch, hend, rfl⟩

end Pattern

end Storyboard
