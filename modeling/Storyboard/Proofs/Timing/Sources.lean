import Mathlib
import Storyboard.Proofs.Timing.Resolution

/-!
The items that clips are placed from. The layout names them by position; here they are the items
that are no transitions, in order, so that whatever else goes through the items clip by clip meets
the clips of a schedule one by one.
-/

namespace Storyboard

def Item.isClip (i : Item) : Bool :=
  i.kind?.isSome

namespace Timeline

/-- The items that are clips, in order. -/
def clipItems (t : Timeline) : List Item :=
  t.items.filter Item.isClip

theorem clipItems_eq (t : Timeline) :
    t.clips.map (fun clip => t.items[clip.1]?) = t.clipItems.map some := by
  have hitems : t.items.zipIdx.map (·.1) = t.items := List.zipIdx_map_fst 0 t.items
  have hfilter : t.clipItems.map some =
      (t.items.zipIdx.filter fun x => x.1.isClip).map fun x => some x.1 := by
    rw [clipItems, ← hitems, List.filter_map, List.map_map, hitems]
    rfl
  rw [hfilter, clips, List.map_filterMap, ← List.filterMap_eq_map, List.filterMap_filter]
  apply List.filterMap_congr
  rintro ⟨item, i⟩ hmem
  have hitem : t.items[i]? = some item := List.mem_zipIdx_iff_getElem?.mp hmem
  cases item with
  | transition x => rfl
  | card c | cast c => simp [Item.isClip, Item.kind?, hitem]

theorem length_clipItems (t : Timeline) : t.clipItems.length = t.clips.length := by
  simpa using (congrArg List.length t.clipItems_eq).symm

variable {t : Timeline} {lengths : List Nat} {s : Schedule} {k : Nat}

/-- Each clip of a schedule has an item, and it is the one whose turn it is. -/
theorem source_of_layout (h : t.layout lengths = .ok s) {p : Placement}
    (hp : s.clips[k]? = some p) :
    ∃ item, t.items[p.slot.index]? = some item ∧ t.clipItems[k]? = some item ∧
      item.kind? = some p.slot.kind := by
  have hclip : t.clips[k]? = some (p.slot.index, p.slot.kind) := by
    rw [← clips_of_layout h, List.getElem?_map, hp]
    rfl
  obtain ⟨item, hitem, hkind⟩ := getElem?_of_clip hclip
  refine ⟨item, hitem, ?_, hkind⟩
  have hsame := congrArg (·[k]?) t.clipItems_eq
  simpa [hclip, hitem] using hsame.symm

/-- Each item that is a clip is placed. -/
theorem placed_of_layout (h : t.layout lengths = .ok s) {item : Item}
    (hitem : t.clipItems[k]? = some item) :
    ∃ p, s.clips[k]? = some p ∧ t.items[p.slot.index]? = some item := by
  have hk : k < s.clips.length := by
    rw [length_clips h, ← length_clipItems]
    exact (List.getElem?_eq_some_iff.mp hitem).1
  have hp : s.clips[k]? = some s.clips[k] := List.getElem?_eq_getElem hk
  obtain ⟨other, hother, hsame, _⟩ := source_of_layout h hp
  obtain rfl : item = other := Option.some.inj (hitem.symm.trans hsame)
  exact ⟨_, hp, hother⟩

end Timeline

end Storyboard
