import Mathlib

/-!
The order of texts by code points is the order of their encodings by bytes: the lead byte of an
encoding grows with its length, and each byte holds digits of the code point, the leading ones in
front.
-/

namespace Storyboard.Text

theorem ofNat_lt_iff {a b : Nat} (ha : a < 256) (hb : b < 256) :
    UInt8.ofNat a < UInt8.ofNat b ↔ a < b := by
  simp [UInt8.lt_iff_toNat_lt, Nat.mod_eq_of_lt ha, Nat.mod_eq_of_lt hb]

theorem ofNat_inj_iff {a b : Nat} (ha : a < 256) (hb : b < 256) :
    UInt8.ofNat a = UInt8.ofNat b ↔ a = b := by
  simp [← UInt8.toNat_inj, Nat.mod_eq_of_lt ha, Nat.mod_eq_of_lt hb]

theorem div_lt_or_mod_lt (n : Nat) {v w : Nat} (h : v < w) :
    v / n < w / n ∨ v / n = w / n ∧ v % n < w % n := by
  rcases (Nat.div_le_div_right h.le).lt_or_eq with hlt | heq
  · exact .inl hlt
  · right
    refine ⟨heq, ?_⟩
    have hv := Nat.div_add_mod v n
    have hw := Nat.div_add_mod w n
    rw [heq] at hv
    omega

/-- Four digits of base 64 are ordered as the numbers that they write. -/
theorem digits_lt {v w : Nat} (h : v < w) :
    v / 262144 < w / 262144 ∨
      v / 262144 = w / 262144 ∧ (v / 4096 % 64 < w / 4096 % 64 ∨
        v / 4096 % 64 = w / 4096 % 64 ∧ (v / 64 % 64 < w / 64 % 64 ∨
          v / 64 % 64 = w / 64 % 64 ∧ v % 64 < w % 64)) := by
  have hsecond : ∀ n, n / 64 / 64 = n / 4096 := fun n => Nat.div_div_eq_div_mul n 64 64
  have hfirst : ∀ n, n / 4096 / 64 = n / 262144 := fun n => Nat.div_div_eq_div_mul n 4096 64
  rcases div_lt_or_mod_lt 64 h with h₁ | ⟨h₁, hlast⟩
  · rcases div_lt_or_mod_lt 64 h₁ with h₂ | ⟨h₂, hthird⟩
    · rw [hsecond, hsecond] at h₂
      rcases div_lt_or_mod_lt 64 h₂ with h₃ | ⟨h₃, hsecondDigit⟩
      · rw [hfirst, hfirst] at h₃
        exact .inl h₃
      · rw [hfirst, hfirst] at h₃
        exact .inr ⟨h₃, .inl hsecondDigit⟩
    · rw [hsecond, hsecond] at h₂
      exact .inr ⟨by rw [← hfirst, h₂, hfirst], .inr ⟨by rw [h₂], .inl hthird⟩⟩
  · have h₂ : v / 4096 = w / 4096 := by rw [← hsecond, h₁, hsecond]
    exact .inr ⟨by rw [← hfirst, h₂, hfirst], .inr ⟨by rw [h₂], .inr ⟨by rw [h₁], hlast⟩⟩⟩

/-- Of two texts that begin with different characters, the encodings are ordered as these are. -/
theorem utf8EncodeChar_append_lt {c d : Char} (h : c < d) (s t : List UInt8) :
    String.utf8EncodeChar c ++ s < String.utf8EncodeChar d ++ t := by
  have hlt : c.val.toNat < d.val.toNat := h
  have hbound : d.val.toNat < 1114112 := by
    rcases d.valid with hlow | ⟨_, hhigh⟩
    · exact hlow.trans (by decide)
    · exact hhigh
  simp only [String.utf8EncodeChar]
  generalize c.val.toNat = v at hlt
  generalize d.val.toNat = w at hlt hbound
  have hdigits := digits_lt hlt
  have hlead : v / 262144 % 8 = v / 262144 ∧ w / 262144 % 8 = w / 262144 := by omega
  split_ifs <;>
    simp (disch := omega) only [List.cons_append, List.nil_append, List.cons_lt_cons_iff,
      ofNat_lt_iff, ofNat_inj_iff] <;>
    omega

theorem flatMap_utf8EncodeChar_lt {a b : List Char} (h : a < b) :
    a.flatMap String.utf8EncodeChar < b.flatMap String.utf8EncodeChar := by
  induction a generalizing b with
  | nil =>
      cases b with
      | nil => exact absurd h (List.not_lt_nil _)
      | cons d b =>
          rw [List.flatMap_nil, List.flatMap_cons]
          generalize hd : String.utf8EncodeChar d = bytes
          cases bytes with
          | nil => exact absurd hd (by simp)
          | cons byte bytes => exact List.nil_lt_cons _ _
  | cons c a ih =>
      cases b with
      | nil => exact absurd h (List.not_lt_nil _)
      | cons d b =>
          rw [List.flatMap_cons, List.flatMap_cons]
          rcases List.cons_lt_cons_iff.mp h with hchar | ⟨rfl, hrest⟩
          · exact utf8EncodeChar_append_lt hchar _ _
          · generalize String.utf8EncodeChar c = bytes
            induction bytes with
            | nil => exact ih hrest
            | cons byte bytes ihBytes =>
                exact List.cons_lt_cons_iff.mpr (.inr ⟨rfl, ihBytes⟩)

/-- The bytes of a text in its encoding. -/
def bytes (s : String) : List UInt8 :=
  s.toUTF8.data.toList

theorem bytes_eq (s : String) : bytes s = s.toList.flatMap String.utf8EncodeChar := by
  rw [bytes]
  conv =>
    lhs
    rw [← String.ofList_toList (s := s)]
  rw [String.toUTF8_eq_toByteArray]
  exact List.toList_data_toByteArray

theorem bytes_lt {a b : String} (h : a < b) : bytes a < bytes b := by
  rw [bytes_eq, bytes_eq]
  exact flatMap_utf8EncodeChar_lt (String.lt_iff_toList_lt.mp h)

end Storyboard.Text
