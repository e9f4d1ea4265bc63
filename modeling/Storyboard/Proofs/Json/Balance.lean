import Mathlib
import Storyboard.Json.Reader

/-!
Balance of tokens. The machine has as many containers open as tokens opened and have not closed, and
from its first token on, its value is complete exactly where none is open. So of the tokens of a
value neither a proper part in front nor one at the end is again the tokens of a value.
-/

namespace Storyboard.Json

/-- By how much a token changes the number of open containers. -/
def Token.nesting : Token → Int
  | .openArray => 1
  | .openObject => 1
  | .closeArray => -1
  | .closeObject => -1
  | _ => 0

/-- By how much several tokens change the number of open containers. -/
def nesting (ts : List Token) : Int :=
  (ts.map Token.nesting).sum

theorem nesting_append (ts us : List Token) : nesting (ts ++ us) = nesting ts + nesting us := by
  rw [nesting, List.map_append, List.sum_append]
  rfl

namespace Machine

variable {m m' : Machine} {t : Token} {ts us : List Token} {v : Json} {frames : List Frame}

/-- A value is complete exactly where no container is open. -/
def Settled (m : Machine) : Prop :=
  m.frames = [] ↔ m.result?.isSome

/-! ### One token -/

theorem length_frames_put (h : put v frames = some m) : m.frames.length = frames.length := by
  unfold put at h
  split at h <;> cases h <;> rfl

theorem settled_put (h : put v frames = some m) : m.Settled := by
  unfold put at h
  split at h <;> cases h <;> simp [Settled, result?]

theorem length_frames_begin? (h : begin? frames t = some m) :
    (m.frames.length : Int) = frames.length + t.nesting := by
  unfold begin? at h
  split at h
  case h_5 | h_6 =>
    cases h
    simp [Token.nesting]
  case h_7 => cases h
  all_goals
    rw [length_frames_put h]
    simp [Token.nesting]

theorem settled_begin? (h : begin? frames t = some m) : m.Settled := by
  unfold begin? at h
  split at h
  case h_5 | h_6 =>
    cases h
    simp [Settled, result?]
  case h_7 => cases h
  all_goals exact settled_put h

/-- What a token does to the machine. -/
inductive Move (m : Machine) (t : Token) (m' : Machine) : Prop where
  | begins (hbegin : begin? m.frames t = some m')
  /-- The innermost container is complete. -/
  | closes {frame : Frame} {frames : List Frame} {v : Json} (hframes : m.frames = frame :: frames)
      (ht : t.nesting = -1) (hput : put v frames = some m')
  /-- A key, a colon or a comma, which only stand in a container. -/
  | within (hvalue : m.expected ≠ .value) (hopen : m.result? = none) (ht : t.nesting = 0)
      (hlength : m'.frames.length = m.frames.length) (hopen' : m'.result? = none)

theorem move_of_step? (h : m.step? t = some m') : Move m t m' := by
  obtain ⟨frames, expected⟩ := m
  unfold step? at h
  split at h
  case h_1 | h_3 => exact .begins h
  case h_2 | h_4 | h_10 | h_11 =>
    next hframes => exact .closes hframes rfl h
  case h_5 | h_6 =>
    next hexpected =>
      cases h
      cases hexpected
      exact .within nofun rfl rfl rfl rfl
  case h_7 | h_8 | h_9 =>
    next hexpected hframes =>
      cases h
      cases hexpected
      cases hframes
      exact .within nofun rfl rfl rfl rfl
  case h_12 => cases h

/-- A token opens as many containers as its nesting says. -/
theorem length_frames_step? (h : m.step? t = some m') :
    (m'.frames.length : Int) = m.frames.length + t.nesting := by
  cases move_of_step? h with
  | begins hbegin => exact length_frames_begin? hbegin
  | closes hframes ht hput =>
      rw [length_frames_put hput, hframes, ht, List.length_cons]
      omega
  | within _ _ ht hlength _ => rw [hlength, ht, add_zero]

theorem settled_step? (hm : m = start ∨ m.Settled) (h : m.step? t = some m') : m'.Settled := by
  cases move_of_step? h with
  | begins hbegin => exact settled_begin? hbegin
  | closes _ _ hput => exact settled_put hput
  | within hvalue hopen _ hlength hopen' =>
      have hne : m.frames ≠ [] := by
        rcases hm with rfl | hm
        · exact absurd rfl hvalue
        · intro hframes
          have hcomplete := hm.mp hframes
          rw [hopen] at hcomplete
          cases hcomplete
      have hne' : m'.frames ≠ [] := by
        rwa [ne_eq, ← List.length_eq_zero_iff, hlength, List.length_eq_zero_iff]
      simp [Settled, hne', hopen']

/-- Behind a complete value there is no token. -/
theorem step?_of_result? (h : m.result?.isSome) (t : Token) : m.step? t = none := by
  obtain ⟨frames, expected⟩ := m
  cases expected with
  | nothing value => rfl
  | _ => cases h

/-! ### Several tokens -/

theorem run?_append (m : Machine) (ts us : List Token) :
    m.run? (ts ++ us) = (m.run? ts).bind (run? · us) := by
  induction ts generalizing m with
  | nil => rfl
  | cons t ts ih =>
      rw [List.cons_append, run?, run?, Option.bind_assoc]
      exact Option.bind_congr fun m' _ => ih m'

theorem length_frames_run? (h : m.run? ts = some m') :
    (m'.frames.length : Int) = m.frames.length + nesting ts := by
  induction ts generalizing m with
  | nil =>
      cases h
      exact (add_zero _).symm
  | cons t ts ih =>
      obtain ⟨m₁, hstep, hrun⟩ := Option.bind_eq_some_iff.mp h
      rw [ih hrun, length_frames_step? hstep, nesting, nesting, List.map_cons, List.sum_cons]
      omega

theorem settled_run? (hm : m = start ∨ m.Settled) (hts : ts ≠ []) (h : m.run? ts = some m') :
    m'.Settled := by
  induction ts generalizing m with
  | nil => exact absurd rfl hts
  | cons t ts ih =>
      obtain ⟨m₁, hstep, hrun⟩ := Option.bind_eq_some_iff.mp h
      have hm₁ := settled_step? hm hstep
      cases ts with
      | nil =>
          cases hrun
          exact hm₁
      | cons u ts => exact ih (.inr hm₁) (List.cons_ne_nil u ts) hrun

theorem run?_of_result? (h : m.result?.isSome) (hrun : m.run? ts = some m') : ts = [] := by
  cases ts with
  | nil => rfl
  | cons t ts =>
      obtain ⟨m₁, hstep, -⟩ := Option.bind_eq_some_iff.mp hrun
      rw [step?_of_result? h t] at hstep
      cases hstep

end Machine

/-! ### Complete values -/

/-- The tokens are those of one value. -/
def Complete (ts : List Token) : Prop :=
  ∃ m, Machine.start.run? ts = some m ∧ m.result?.isSome

namespace Complete

variable {ts us : List Token}

theorem ne_nil (h : Complete ts) : ts ≠ [] := by
  rintro rfl
  obtain ⟨m, hrun, hm⟩ := h
  cases hrun
  cases hm

/-- A value closes what it opens. -/
theorem nesting_eq (h : Complete ts) : nesting ts = 0 := by
  obtain ⟨m, hrun, hm⟩ := h
  have hframes : m.frames = [] :=
    (Machine.settled_run? (.inl rfl) (ne_nil ⟨m, hrun, hm⟩) hrun).mpr hm
  have hlength := Machine.length_frames_run? hrun
  rw [hframes] at hlength
  simpa [Machine.start] using hlength.symm

/-- Nothing comes behind a value. -/
theorem append_right (h : Complete ts) (hboth : Complete (ts ++ us)) : us = [] := by
  obtain ⟨m, hrun, hm⟩ := h
  obtain ⟨m', hrun', -⟩ := hboth
  rw [Machine.run?_append, hrun] at hrun'
  exact Machine.run?_of_result? hm hrun'

/-- Nothing comes before a value: there, as many containers would be open as behind it, none. -/
theorem append_left (h : Complete us) (hboth : Complete (ts ++ us)) : ts = [] := by
  by_contra hts
  have hnesting : nesting ts = 0 := by
    have hsum := nesting_append ts us
    rw [hboth.nesting_eq, h.nesting_eq] at hsum
    omega
  obtain ⟨m', hrun', -⟩ := hboth
  rw [Machine.run?_append] at hrun'
  obtain ⟨m, hrun, hrest⟩ := Option.bind_eq_some_iff.mp hrun'
  have hframes : m.frames = [] := by
    have hlength := Machine.length_frames_run? hrun
    rw [hnesting] at hlength
    simpa [Machine.start] using hlength
  have hm := (Machine.settled_run? (.inl rfl) hts hrun).mp hframes
  exact h.ne_nil (Machine.run?_of_result? hm hrest)

end Complete

theorem isSome_parse? {s : List Char} :
    (parse? s).isSome ↔ ∃ ts, Token.all? s = some ts ∧ Complete ts := by
  constructor
  · intro h
    obtain ⟨v, hv⟩ := Option.isSome_iff_exists.mp h
    obtain ⟨ts, hts, hmachine⟩ := Option.bind_eq_some_iff.mp hv
    obtain ⟨m, hrun, hm⟩ := Option.bind_eq_some_iff.mp hmachine
    exact ⟨ts, hts, m, hrun, by rw [hm]; rfl⟩
  · rintro ⟨ts, hts, m, hrun, hm⟩
    rw [parse?, hts]
    change ((Machine.start.run? ts).bind Machine.result?).isSome
    rw [hrun]
    exact hm

end Storyboard.Json
