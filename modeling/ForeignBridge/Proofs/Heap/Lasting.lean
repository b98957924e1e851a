import Mathlib.Algebra.Order.BigOperators.Group.List
import Mathlib.Data.Multiset.OrderedMonoid
import ForeignBridge.Proofs.Heap.Conservation

/-!
# Lasting contents

Where nothing is written to objects, they keep their contents for as long as they live.
-/

namespace ForeignBridge
namespace Heap

variable {α : Type}

theorem id_lt_size {h : Heap α} {ref : Ref} {content : α} (hget : h.get? ref = some content) :
    ref.id < h.slots.size := by
  by_contra hge
  unfold get? slot? at hget
  rw [Array.getElem?_eq_none (Nat.le_of_not_lt hge)] at hget
  cases hget

/-- What lives after and was there before has the content that it had. -/
structure Older (h h' : Heap α) : Prop where
  grows : h.slots.size ≤ h'.slots.size
  lasts : ∀ ref content, ref.id < h.slots.size → h'.get? ref = some content →
    h.get? ref = some content

namespace Older

variable {h h' h'' : Heap α}

theorem refl (h : Heap α) : h.Older h := ⟨Nat.le_refl _, fun _ _ _ hget => hget⟩

theorem trans (hfirst : h.Older h') (hsecond : h'.Older h'') : h.Older h'' := by
  constructor
  · exact Nat.le_trans hfirst.grows hsecond.grows
  · intro ref content hid hget
    exact hfirst.lasts ref content hid
      (hsecond.lasts ref content (Nat.lt_of_lt_of_le hid hfirst.grows) hget)

theorem get? (hold : h.Older h') {ref : Ref} {content : α} (hget : h.get? ref = some content)
    {slot : Slot α} (hslot : h'.slot? ref = some slot) : h'.get? ref = some content := by
  have hafter : h'.get? ref = some slot.content := by
    unfold Heap.get?
    rw [hslot]
    rfl
  have hbefore := hold.lasts ref slot.content (id_lt_size hget) hafter
  rw [hget] at hbefore
  rw [hafter, hbefore]

theorem get?_of_live (hold : h.Older h') {ref : Ref} {content : α} (hget : h.get? ref = some content)
    (hlive : ∃ found, h'.get? ref = some found) : h'.get? ref = some content := by
  rcases hlive with ⟨found, hfound⟩
  rcases Option.map_eq_some_iff.1 hfound with ⟨slot, hslot, -⟩
  exact hold.get? hget hslot

theorem setSlot {ref : Ref} {slot : Slot α} (hslot : h.slot? ref = some slot)
    {new : Option (Slot α)} (hnew : ∀ s, new = some s → s.content = slot.content) :
    h.Older (h.setSlot ref new) := by
  constructor
  · unfold Heap.setSlot
    rw [Array.size_setIfInBounds]
  · intro other content _ hget
    by_cases hother : other = ref
    · unfold Heap.get? at hget ⊢
      rw [hother, slot?_setSlot_self hslot] at hget
      rcases Option.map_eq_some_iff.1 hget with ⟨s, hs, hcontent⟩
      rw [hother, hslot, Option.map_some, ← hnew s hs, hcontent]
    · unfold Heap.get? at hget ⊢
      rw [slot?_setSlot_of_ne hother] at hget
      exact hget

theorem retain {ref : Ref} (hretain : h.retain? ref = some h') : h.Older h' := by
  rcases Option.map_eq_some_iff.1 hretain with ⟨slot, hslot, hnew⟩
  rw [← hnew]
  apply setSlot hslot
  intro s hs
  cases hs
  rfl

theorem allocate (h : Heap α) (content : α) : h.Older (h.allocate content).2 := by
  constructor
  · show h.slots.size ≤ (h.slots.push _).size
    rw [Array.size_push]
    exact Nat.le_succ _
  · intro other found hid hget
    have hother : other ≠ (h.allocate content).1 := by
      intro heq
      rw [heq] at hid
      exact Nat.lt_irrefl _ hid
    unfold Heap.get? at hget ⊢
    rw [slot?_allocate_of_ne hother] at hget
    exact hget

theorem releaseAll [Linked α] (h : Heap α) (work : List Ref) :
    h.Older (h.releaseAll work).heap := by
  fun_induction h.releaseAll work with
  | case1 h => exact refl h
  | case2 h ref work hslot => exact refl h
  | case3 h ref work slot hslot hlast rest ih =>
      refine trans (setSlot hslot ?_) ih
      intro s hs
      cases hs
  | case4 h ref work slot hslot hlast ih =>
      refine trans (setSlot hslot ?_) ih
      intro s hs
      cases hs
      rfl

end Older

theorem get?_allocate (h : Heap α) (content : α) :
    (h.allocate content).2.get? (h.allocate content).1 = some content := by
  unfold get?
  rw [slot?_allocate_self]
  rfl

theorem size_setContent (h : Heap α) (ref : Ref) (content : α) :
    (h.setContent ref content).slots.size = h.slots.size := by
  unfold setContent
  cases h.slot? ref with
  | none => rfl
  | some slot => exact Array.size_setIfInBounds

theorem get?_setContent {h : Heap α} {ref : Ref} {old : α} (hget : h.get? ref = some old)
    (content : α) (other : Ref) :
    (h.setContent ref content).get? other = if other = ref then some content else h.get? other := by
  rcases Option.map_eq_some_iff.1 hget with ⟨slot, hslot, -⟩
  unfold setContent
  rw [hslot]
  unfold get?
  by_cases hother : other = ref
  · rw [if_pos hother, hother, slot?_setSlot_self hslot]
    rfl
  · rw [if_neg hother, slot?_setSlot_of_ne hother]

/-- What is live when something new is made is there afterwards. -/
theorem get?_allocate_of_get? {h : Heap α} {ref : Ref} {found : α} (hget : h.get? ref = some found)
    (content : α) : (h.allocate content).2.get? ref = some found := by
  have hother : ref ≠ (h.allocate content).1 := by
    intro heq
    have hid := id_lt_size hget
    rw [heq] at hid
    exact Nat.lt_irrefl _ hid
  unfold Heap.get? at hget ⊢
  rw [slot?_allocate_of_ne hother]
  exact hget

variable [Linked α]

theorem mem_references {h : Heap α} {ref child : Ref} {content : α}
    (hget : h.get? ref = some content) (hchild : child ∈ Linked.children content) :
    child ∈ h.references := by
  rcases Option.map_eq_some_iff.1 hget with ⟨slot, hslot, hcontent⟩
  have hmem : some slot ∈ h.slots.toList := by
    have hat := Option.join_eq_some_iff.1 hslot
    rw [← Array.getElem?_toList] at hat
    exact List.mem_of_getElem? hat
  have hreferences : slotReferences (some slot) ≤ h.references :=
    List.le_sum_of_mem (List.mem_map_of_mem hmem)
  apply Multiset.mem_of_le hreferences
  show child ∈ ((Linked.children slot.content : List Ref) : Multiset Ref)
  rw [hcontent]
  exact hchild

end Heap
end ForeignBridge
