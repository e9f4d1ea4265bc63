/-!
Decimal digits. A natural number is written with its digits, the most significant first and none
of them superfluous; reading the written digits gives the number back.
-/

namespace Storyboard

abbrev Digit := Fin 10

namespace Digit

def zero : Digit := ⟨0, by decide⟩

def toChar (d : Digit) : Char :=
  Char.ofNat ('0'.toNat + d)

def ofChar? (c : Char) : Option Digit :=
  if h : '0' ≤ c ∧ c ≤ '9' then
    some ⟨c.toNat - '0'.toNat, by
      have : c.toNat ≤ '9'.toNat := h.2
      have : '9'.toNat = 57 := rfl
      have : '0'.toNat = 48 := rfl
      omega⟩
  else none

@[simp] theorem ofChar?_toChar (d : Digit) : ofChar? d.toChar = some d := by
  revert d; decide

end Digit

namespace Digits

/-- The number that a run of digits denotes. -/
def toNat (ds : List Digit) : Nat :=
  ds.foldl (fun n d => 10 * n + d.val) 0

/-- The digits of a number, without superfluous zeros in front. -/
def ofNat (n : Nat) : List Digit :=
  if n < 10 then [Fin.ofNat 10 n] else ofNat (n / 10) ++ [Fin.ofNat 10 n]

def toText (ds : List Digit) : List Char :=
  ds.map Digit.toChar

/-- The longest run of digits at the front, and what follows it. -/
def span : List Char → List Digit × List Char
  | [] => ([], [])
  | c :: rest =>
    match Digit.ofChar? c with
    | some d => (d :: (span rest).1, (span rest).2)
    | none => ([], c :: rest)

theorem toNat_append_singleton (ds : List Digit) (d : Digit) :
    toNat (ds ++ [d]) = 10 * toNat ds + d.val := by
  simp [toNat]

@[simp] theorem toNat_ofNat (n : Nat) : toNat (ofNat n) = n := by
  fun_induction ofNat n with
  | case1 n h => simp [toNat, Nat.mod_eq_of_lt h]
  | case2 n h ih => rw [toNat_append_singleton, ih]; simp; omega

theorem ofNat_ne_nil (n : Nat) : ofNat n ≠ [] := by
  rw [ofNat]; split <;> simp

/-- Only zero is written with a zero in front. -/
theorem head?_ofNat {n : Nat} (h : n ≠ 0) : (ofNat n).head? ≠ some Digit.zero := by
  fun_induction ofNat n with
  | case1 n hn =>
    simp only [List.head?_cons, ne_eq, Option.some.injEq, Fin.ext_iff, Fin.val_ofNat]
    simpa [Nat.mod_eq_of_lt hn, Digit.zero] using h
  | case2 n hn ih =>
    rw [List.head?_append, Option.or_of_isSome (by simp [ofNat_ne_nil])]
    exact ih (by omega)

@[simp] theorem span_toText_append (ds : List Digit) {rest : List Char}
    (h : ∀ c ∈ rest.head?, Digit.ofChar? c = none) :
    span (toText ds ++ rest) = (ds, rest) := by
  induction ds with
  | nil =>
    cases rest with
    | nil => rfl
    | cons c r =>
      have hc : Digit.ofChar? c = none := h c rfl
      simp [toText, span, hc]
  | cons d ds ih =>
    simp only [toText, List.map_cons, List.cons_append, span, Digit.ofChar?_toChar]
    simp only [toText] at ih
    simp [ih]

theorem length_span_le (s : List Char) : (span s).2.length ≤ s.length := by
  fun_induction span s with
  | case1 => simp
  | case2 c rest d h ih => simp only [List.length_cons]; omega
  | case3 => simp

/-- A number in decimal. -/
def write (n : Nat) : List Char :=
  toText (ofNat n)

end Digits

end Storyboard
