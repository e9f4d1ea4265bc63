import Mathlib
import Storyboard.Speech.Release

/-!
What a build gives and leaves. A build that succeeded is taken apart into its parts, each of which
succeeded where the part before it had left the session.
-/

namespace Storyboard

/-! ### Sequences -/

section Sequence

variable {ε σ α β : Type}

theorem bind_eq_ok {x : EStateM ε σ α} {f : α → EStateM ε σ β} {s s' : σ} {b : β}
    (h : (x >>= f) s = .ok b s') : ∃ a t, x s = .ok a t ∧ f a t = .ok b s' := by
  change EStateM.bind x f s = .ok b s' at h
  unfold EStateM.bind at h
  cases hx : x s with
  | ok a t =>
      rw [hx] at h
      exact ⟨a, t, rfl, h⟩
  | error e t =>
      rw [hx] at h
      cases h

theorem bind_of_ok {x : EStateM ε σ α} {s t : σ} {a : α} (h : x s = .ok a t)
    (f : α → EStateM ε σ β) : (x >>= f) s = f a t := by
  change EStateM.bind x f s = f a t
  simp only [EStateM.bind, h]

theorem pure_eq_ok {a b : α} {s s' : σ} (h : (pure a : EStateM ε σ α) s = .ok b s') :
    b = a ∧ s' = s := by
  cases h
  exact ⟨rfl, rfl⟩

theorem exists_of_run'_eq_some {x : EStateM ε σ α} {s : σ} {a : α} (h : x.run' s = some a) :
    ∃ t, x s = .ok a t := by
  unfold EStateM.run' at h
  split at h
  · next b t hb =>
      cases h
      exact ⟨t, hb⟩
  · cases h

/-- Elements that do nothing but give their results. -/
theorem mapM_eq_pure {f : α → EStateM ε σ β} {g : α → β} {as : List α}
    (h : ∀ a ∈ as, f a = pure (g a)) : as.mapM f = pure (as.map g) := by
  induction as with
  | nil => rfl
  | cons a as ih =>
      obtain ⟨ha, has⟩ := List.forall_mem_cons.mp h
      rw [List.mapM_cons, ha, ih has, pure_bind, pure_bind, List.map_cons]

/-- Elements that were gone through give their results one by one. -/
theorem map_of_mapM_eq_ok {f : α → EStateM ε σ β} {γ : Type} {g : β → γ} {k : α → γ}
    (hf : ∀ a s b s', f a s = .ok b s' → g b = k a) {as : List α} {bs : List β} {s s' : σ}
    (h : as.mapM f s = .ok bs s') : bs.map g = as.map k := by
  induction as generalizing bs s s' with
  | nil =>
      obtain ⟨rfl, _⟩ := pure_eq_ok h
      rfl
  | cons a as ih =>
      rw [List.mapM_cons] at h
      obtain ⟨b, t, hb, h⟩ := bind_eq_ok h
      obtain ⟨rest, t', hrest, h⟩ := bind_eq_ok h
      obtain ⟨rfl, _⟩ := pure_eq_ok h
      rw [List.map_cons, List.map_cons, hf a s b t hb, ih hrest]

/-- What each element achieves is there behind the last one, where what comes between keeps it. A
state that is related to itself is one in which elements can be gone through. -/
theorem forall_of_mapM_eq_ok {f : α → EStateM ε σ β} {R : σ → σ → Prop} {Q : α → σ → Prop}
    (htrans : ∀ {s t u}, R s t → R t u → R s u) (hself : ∀ {s t}, R s t → R t t)
    (hstable : ∀ {a s t}, R s t → Q a s → Q a t)
    (hf : ∀ {a b s t}, R s s → f a s = .ok b t → R s t ∧ Q a t)
    {as : List α} {bs : List β} {s s' : σ} (hs : R s s) (h : as.mapM f s = .ok bs s') :
    R s s' ∧ ∀ a ∈ as, Q a s' := by
  induction as generalizing bs s with
  | nil =>
      obtain ⟨_, rfl⟩ := pure_eq_ok h
      exact ⟨hs, List.forall_mem_nil _⟩
  | cons a as ih =>
      rw [List.mapM_cons] at h
      obtain ⟨b, t, hb, h⟩ := bind_eq_ok h
      obtain ⟨rest, t', hrest, h⟩ := bind_eq_ok h
      obtain ⟨_, rfl⟩ := pure_eq_ok h
      obtain ⟨hst, ha⟩ := hf hs hb
      obtain ⟨htt', has⟩ := ih (hself hst) hrest
      exact ⟨htrans hst htt', List.forall_mem_cons.mpr ⟨hstable htt' ha, has⟩⟩

/-- Elements each of which can be gone through, wherever the ones before it have led, can be gone
through together. -/
theorem exists_mapM_eq_ok {f : α → EStateM ε σ β} {I : σ → Prop} {P : β → Prop} {as : List α}
    (hf : ∀ a ∈ as, ∀ s, I s → ∃ b t, f a s = .ok b t ∧ P b ∧ I t) {s : σ} (hs : I s) :
    ∃ bs t, as.mapM f s = .ok bs t ∧ (∀ b ∈ bs, P b) ∧ I t := by
  induction as generalizing s with
  | nil => exact ⟨[], s, rfl, List.forall_mem_nil _, hs⟩
  | cons a as ih =>
      obtain ⟨ha, has⟩ := List.forall_mem_cons.mp hf
      obtain ⟨b, t, hb, hP, ht⟩ := ha s hs
      obtain ⟨bs, t', hbs, hPs, ht'⟩ := ih has ht
      refine ⟨b :: bs, t', ?_, List.forall_mem_cons.mpr ⟨hP, hPs⟩, ht'⟩
      rw [List.mapM_cons, bind_of_ok hb, bind_of_ok hbs]
      rfl

end Sequence

/-! ### Failures -/

section Failure

variable {ε σ α β : Type}

/-- The state that is left, with a result or without. -/
def after (x : EStateM ε σ α) (s : σ) : σ :=
  match x s with
  | .ok _ t => t
  | .error _ t => t

/-- An invariant holds in the state that is left, and the result is good if there is one. -/
def Safe (I : σ → Prop) (Q : α → Prop) (x : EStateM ε σ α) (s : σ) : Prop :=
  I (after x s) ∧ ∀ {a t}, x s = .ok a t → Q a

variable {I : σ → Prop} {x : EStateM ε σ α} {s : σ}

theorem bind_of_error {e : ε} {t : σ} (hx : x s = .error e t) (f : α → EStateM ε σ β) :
    (x >>= f) s = .error e t := by
  change EStateM.bind x f s = .error e t
  simp only [EStateM.bind, hx]

theorem after_of_ok {a : α} {t : σ} (h : x s = .ok a t) : after x s = t := by
  rw [after, h]

/-- A property of states holds behind a sequence if it holds behind its first part, and behind the
rest wherever that begins. -/
theorem after_bind {f : α → EStateM ε σ β} (hx : I (after x s))
    (hf : ∀ {a t}, x s = .ok a t → I t → I (after (f a) t)) : I (after (x >>= f) s) := by
  cases h : x s with
  | ok a t =>
      rw [after_of_ok h] at hx
      rw [after, bind_of_ok h]
      exact hf h hx
  | error e t =>
      rw [after, h] at hx
      rw [after, bind_of_error h]
      exact hx

theorem after_mapM {f : α → EStateM ε σ β} {as : List α}
    (hf : ∀ a ∈ as, ∀ {s}, I s → I (after (f a) s)) (hs : I s) : I (after (as.mapM f) s) := by
  induction as generalizing s with
  | nil => exact hs
  | cons a as ih =>
      obtain ⟨ha, has⟩ := List.forall_mem_cons.mp hf
      rw [List.mapM_cons]
      exact after_bind (ha hs) fun _ ht => after_bind (ih has ht) fun _ ht => ht

end Failure

end Storyboard
