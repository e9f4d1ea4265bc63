import Mathlib
import Storyboard.Proofs.Timing.Transitions
import Storyboard.Timing.Plan

/-!
What the layout of a timeline depends on: the kinds of its clips and its transitions. Items that
are changed in nothing else are laid out as before, and with their titles they keep their chapters.
-/

namespace Storyboard

/-- A change of items that leaves kinds, transitions and titles as they are. -/
structure Item.KeepsOutline (f : Item → Item) : Prop where
  kind : ∀ i, (f i).kind? = i.kind?
  transition : ∀ i, (f i).transition? = i.transition?
  title : ∀ i, (f i).title = i.title

namespace Item.KeepsOutline

variable {f : Item → Item} (hf : KeepsOutline f)
include hf

theorem apply_transition (t : Transition) : f (.transition t) = .transition t := by
  have h := hf.transition (.transition t)
  cases hi : f (.transition t) with
  | transition u =>
      rw [hi] at h
      cases h
      rfl
  | card c | cast c =>
      rw [hi] at h
      cases h

theorem apply_card (c : Card) : ∃ d, f (.card c) = .card d := by
  have h := hf.kind (.card c)
  cases hi : f (.card c) with
  | card d => exact ⟨d, rfl⟩
  | transition t | cast d =>
      rw [hi] at h
      cases h

theorem apply_cast (c : Cast) : ∃ d, f (.cast c) = .cast d := by
  have h := hf.kind (.cast c)
  cases hi : f (.cast c) with
  | cast d => exact ⟨d, rfl⟩
  | transition t | card d =>
      rw [hi] at h
      cases h

theorem lastTransition?_map (items : List Item) :
    Slot.lastTransition? (items.map f) = Slot.lastTransition? items := by
  induction items with
  | nil => rfl
  | cons i items ih =>
      cases i with
      | transition t =>
          rw [List.map_cons, hf.apply_transition, Slot.lastTransition?, Slot.lastTransition?, ih]
      | card c =>
          obtain ⟨d, hd⟩ := hf.apply_card c
          rw [List.map_cons, hd]
          rfl
      | cast c =>
          obtain ⟨d, hd⟩ := hf.apply_cast c
          rw [List.map_cons, hd]
          rfl

theorem ofItems_map (index : Nat) (incoming : Option Transition) (items : List Item) :
    Slot.ofItems index incoming (items.map f) = Slot.ofItems index incoming items := by
  induction items generalizing index incoming with
  | nil => rfl
  | cons i items ih =>
      have hlast := hf.lastTransition?_map items
      cases i with
      | transition t =>
          rw [List.map_cons, hf.apply_transition]
          exact ih (index + 1) (some t)
      | card c =>
          obtain ⟨d, hd⟩ := hf.apply_card c
          rw [List.map_cons, hd, Slot.ofItems, Slot.ofItems, ih, hlast]
      | cast c =>
          obtain ⟨d, hd⟩ := hf.apply_cast c
          rw [List.map_cons, hd, Slot.ofItems, Slot.ofItems, ih, hlast]

theorem layout_map (name : String) (items : List Item) (lengths : List Nat) :
    Timeline.layout ⟨name, items.map f⟩ lengths = Timeline.layout ⟨name, items⟩ lengths := by
  have hslots : Timeline.slots ⟨name, items.map f⟩ = Timeline.slots ⟨name, items⟩ := by
    rw [Timeline.slots_eq_ofItems, Timeline.slots_eq_ofItems]
    exact hf.ofItems_map 0 none items
  rw [Timeline.layout, Timeline.layout, hslots]

/-- The chapters of any schedule, be it of these items or not. -/
theorem chapters_map (name : String) (items : List Item) (s : Schedule) :
    Chapters.ofSchedule ⟨name, items.map f⟩ s = Chapters.ofSchedule ⟨name, items⟩ s := by
  have htitle (k : Nat) : (items.map f)[k]?.map Item.title = items[k]?.map Item.title := by
    rw [List.getElem?_map, Option.map_map]
    exact congrArg (Option.map · _) (funext hf.title)
  unfold Chapters.ofSchedule Chapters.unsorted Chapters.ofClip?
  simp only [htitle]

end Item.KeepsOutline

end Storyboard
