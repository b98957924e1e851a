import Mathlib.Algebra.Order.Group.Multiset
import Mathlib.Tactic.Abel
import ForeignBridge.Heap.Release

/-!
# Conservation of references

A heap is balanced if every object counts exactly the references on it: those inside live objects,
and those that are held from outside.  The operations of a heap move references between these, and
keep the balance.
-/

namespace ForeignBridge
namespace Heap

variable {α : Type}

/-!
# Slots
-/

theorem slot?_setSlot_self {h : Heap α} {ref : Ref} {slot : Slot α} (hslot : h.slot? ref = some slot)
    (new : Option (Slot α)) : (h.setSlot ref new).slot? ref = new := by
  have hsize : ref.id < h.slots.size := by
    unfold slot? at hslot
    by_contra hge
    rw [Array.getElem?_eq_none (Nat.le_of_not_lt hge)] at hslot
    cases hslot
  unfold slot? setSlot
  rw [Array.getElem?_setIfInBounds_self_of_lt hsize]
  rfl

theorem slot?_setSlot_of_ne {h : Heap α} {ref other : Ref} (hne : other ≠ ref)
    (new : Option (Slot α)) : (h.setSlot ref new).slot? other = h.slot? other := by
  have hid : ref.id ≠ other.id := by
    intro hid
    apply hne
    cases other
    cases ref
    cases hid
    rfl
  unfold slot? setSlot
  rw [Array.getElem?_setIfInBounds_ne hid]

theorem slot?_allocate_self (h : Heap α) (content : α) :
    (h.allocate content).2.slot? (h.allocate content).1 = some ⟨1, content, Nat.one_pos⟩ := by
  unfold allocate slot?
  rw [Array.getElem?_push_size]
  rfl

theorem slot?_allocate_of_ne {h : Heap α} {content : α} {other : Ref}
    (hne : other ≠ (h.allocate content).1) :
    (h.allocate content).2.slot? other = h.slot? other := by
  have hid : other.id ≠ h.slots.size := by
    intro hid
    apply hne
    cases other
    cases hid
    rfl
  unfold allocate slot?
  rw [Array.getElem?_push, if_neg hid]

theorem owners_eq_of_slot? {h : Heap α} {ref : Ref} {slot : Slot α}
    (hslot : h.slot? ref = some slot) : h.owners ref = slot.owners := by
  unfold owners
  rw [hslot]
  rfl

theorem owners_eq_zero {h : Heap α} {ref : Ref} : h.owners ref = 0 ↔ h.slot? ref = none := by
  unfold owners
  cases hslot : h.slot? ref with
  | none => simp
  | some slot =>
      have := slot.owners_pos
      simp
      omega

theorem get?_retain {h h' : Heap α} {ref : Ref} (hretain : h.retain? ref = some h') (other : Ref) :
    h'.get? other = h.get? other := by
  rcases Option.map_eq_some_iff.1 hretain with ⟨slot, hslot, hnew⟩
  rw [← hnew]
  unfold get?
  by_cases hother : other = ref
  · rw [hother, slot?_setSlot_self hslot, hslot]
    rfl
  · rw [slot?_setSlot_of_ne hother]

theorem isLive_iff_exists_slot {h : Heap α} {ref : Ref} :
    h.isLive ref = true ↔ ∃ slot, h.slot? ref = some slot := Option.isSome_iff_exists

/-- What has contents is live. -/
theorem isLive_of_get? {h : Heap α} {ref : Ref} {content : α} (hget : h.get? ref = some content) :
    h.isLive ref = true := by
  rcases Option.map_eq_some_iff.1 hget with ⟨slot, hslot, -⟩
  exact isLive_iff_exists_slot.2 ⟨slot, hslot⟩

theorem fresh_dead (h : Heap α) (content : α) : h.slot? (h.allocate content).1 = none := by
  unfold allocate slot?
  rw [Array.getElem?_eq_none (Nat.le_refl _)]
  rfl

theorem slot?_singleton (content : α) (ref : Ref) :
    (singleton content).slot? ref =
      if ref = ⟨1⟩ then some ⟨1, content, Nat.one_pos⟩ else none := by
  rcases ref with ⟨id⟩
  rcases id with _ | _ | id
  · rfl
  · rfl
  · have hid : (⟨id + 1 + 1⟩ : Ref) ≠ ⟨1⟩ := by
      intro h
      cases h
    rw [if_neg hid]
    rfl

/-!
# Contents

What holds of the contents of all live objects is kept by the operations that put no other content
into the heap.
-/

/-- A property of all live objects with their contents. -/
def Every (h : Heap α) (p : Ref → α → Prop) : Prop :=
  ∀ ref content, h.get? ref = some content → p ref content

namespace Every

variable {h : Heap α} {p : Ref → α → Prop}

theorem singleton {content : α} (hcontent : p ⟨1⟩ content) :
    (Heap.singleton content).Every p := by
  intro ref found hget
  rcases Option.map_eq_some_iff.1 hget with ⟨slot, hslot, hfound⟩
  rw [slot?_singleton] at hslot
  split at hslot
  · rename_i href
    cases hslot
    rw [← hfound, href]
    exact hcontent
  · cases hslot

theorem setSlot (he : h.Every p) {ref : Ref} {slot : Slot α} (hslot : h.slot? ref = some slot)
    {new : Option (Slot α)} (hnew : ∀ s, new = some s → p ref s.content) :
    (h.setSlot ref new).Every p := by
  intro other content hget
  rcases Option.map_eq_some_iff.1 hget with ⟨s, hs, hcontent⟩
  by_cases hother : other = ref
  · rw [hother, slot?_setSlot_self hslot] at hs
    rw [← hcontent, hother]
    exact hnew s hs
  · rw [slot?_setSlot_of_ne hother] at hs
    apply he other content
    unfold Heap.get?
    rw [hs, Option.map_some, hcontent]

theorem retain (he : h.Every p) {ref : Ref} {h' : Heap α} (hretain : h.retain? ref = some h') :
    h'.Every p := by
  unfold retain? at hretain
  rcases Option.map_eq_some_iff.1 hretain with ⟨slot, hslot, hnew⟩
  rw [← hnew]
  apply he.setSlot hslot
  intro s hs
  cases hs
  exact he ref slot.content (by rw [get?, hslot]; rfl)

theorem allocate (he : h.Every p) {content : α} (hcontent : p (h.allocate content).1 content) :
    (h.allocate content).2.Every p := by
  intro other found hget
  by_cases hother : other = (h.allocate content).1
  · rw [get?, hother, slot?_allocate_self] at hget
    cases hget
    rw [hother]
    exact hcontent
  · rw [get?, slot?_allocate_of_ne hother] at hget
    exact he other found hget

theorem setContent (he : h.Every p) {ref : Ref} {content : α} (hcontent : p ref content) :
    (h.setContent ref content).Every p := by
  unfold Heap.setContent
  cases hslot : h.slot? ref with
  | none => exact he
  | some slot =>
      apply he.setSlot hslot
      intro s hs
      cases hs
      exact hcontent

theorem releaseAll [Linked α] (he : h.Every p) (work : List Ref) :
    (h.releaseAll work).heap.Every p := by
  fun_induction h.releaseAll work with
  | case1 h => exact he
  | case2 h ref work hslot => exact he
  | case3 h ref work slot hslot hlast rest ih =>
      apply ih
      apply he.setSlot hslot
      intro s hs
      cases hs
  | case4 h ref work slot hslot hlast ih =>
      apply ih
      apply he.setSlot hslot
      intro s hs
      cases hs
      exact he ref slot.content (by rw [get?, hslot]; rfl)

end Every

/-!
# References inside objects
-/

variable [Linked α]

/-- The references inside a live object. -/
def slotReferences (slot : Option (Slot α)) : Multiset Ref :=
  ((slot.map fun s => Linked.children s.content).getD [] : List Ref)

/-- The references inside all live objects. -/
def references (h : Heap α) : Multiset Ref := (h.slots.toList.map slotReferences).sum

theorem sum_map_set {β γ : Type} [AddCommMonoid γ] (f : β → γ) {xs : List β} {i : Nat} {old : β}
    (hold : xs[i]? = some old) (new : β) :
    ((xs.set i new).map f).sum + f old = (xs.map f).sum + f new := by
  induction xs generalizing i with
  | nil => cases hold
  | cons x xs ih =>
      cases i with
      | zero =>
          cases hold
          rw [List.set_cons_zero, List.map_cons, List.map_cons, List.sum_cons, List.sum_cons]
          abel
      | succ i =>
          have hrest := ih (i := i) hold
          rw [List.set_cons_succ, List.map_cons, List.map_cons, List.sum_cons, List.sum_cons,
            add_assoc, hrest, add_assoc]

theorem references_setSlot {h : Heap α} {ref : Ref} {slot : Slot α}
    (hslot : h.slot? ref = some slot) (new : Option (Slot α)) :
    (h.setSlot ref new).references + (Linked.children slot.content : List Ref) =
      h.references + slotReferences new := by
  have hold : h.slots.toList[ref.id]? = some (some slot) := by
    unfold slot? at hslot
    rw [Array.getElem?_toList]
    exact Option.join_eq_some_iff.1 hslot
  unfold references setSlot
  rw [Array.toList_setIfInBounds]
  exact sum_map_set slotReferences hold new

theorem references_allocate (h : Heap α) (content : α) :
    (h.allocate content).2.references = h.references + (Linked.children content : List Ref) := by
  unfold references allocate
  rw [Array.toList_push, List.map_append, List.sum_append, List.map_singleton, List.sum_singleton]
  rfl

/-!
# Balance
-/

/-- Every object counts the references inside live objects and those held from outside. -/
def Balanced (h : Heap α) (held : Multiset Ref) : Prop :=
  ∀ ref, h.owners ref = (h.references + held).count ref

namespace Balanced

variable {h : Heap α} {held : Multiset Ref}

theorem singleton (content : α) (hchildren : Linked.children content = []) :
    (Heap.singleton content).Balanced {⟨1⟩} := by
  have hreferences : (Heap.singleton content).references = 0 := by
    show (0 : Multiset Ref) + ((Linked.children content : List Ref) + 0) = 0
    rw [hchildren, zero_add, add_zero, Multiset.coe_nil]
  intro ref
  rw [hreferences, zero_add, Multiset.count_singleton]
  unfold owners
  rw [slot?_singleton]
  split
  · rfl
  · rfl

/-- Nothing refers to a dead object. -/
theorem live (hb : h.Balanced held) {ref : Ref} (href : ref ∈ h.references + held) :
    ∃ slot, h.slot? ref = some slot := by
  cases hslot : h.slot? ref with
  | some slot => exact ⟨slot, rfl⟩
  | none =>
      have hzero := hb ref
      rw [owners_eq_zero.2 hslot] at hzero
      have hpos := Multiset.count_pos.2 href
      omega

theorem retain (hb : h.Balanced held) {ref : Ref} {h' : Heap α} (hretain : h.retain? ref = some h') :
    h'.Balanced ({ref} + held) := by
  unfold retain? at hretain
  rcases Option.map_eq_some_iff.1 hretain with ⟨slot, hslot, hnew⟩
  rw [← hnew]
  have hsame := references_setSlot hslot (some ⟨slot.owners + 1, slot.content, Nat.succ_pos _⟩)
  have hreferences := add_right_cancel hsame
  intro other
  rw [hreferences]
  by_cases hother : other = ref
  · rw [hother, owners_eq_of_slot? (slot?_setSlot_self hslot _), add_left_comm,
      Multiset.count_add, ← hb ref, owners_eq_of_slot? hslot, Multiset.count_singleton_self]
    exact Nat.add_comm _ _
  · have howners : (h.setSlot ref (some ⟨slot.owners + 1, slot.content, Nat.succ_pos _⟩)).owners
        other = h.owners other := by
      unfold owners
      rw [slot?_setSlot_of_ne hother]
    have hcount : ({ref} + (h.references + held)).count other =
        (h.references + held).count other := by
      rw [Multiset.count_add, Multiset.count_singleton, if_neg hother, zero_add]
    rw [howners, hb other, add_left_comm h.references {ref} held, hcount]

/-- A new object takes over the references inside it. -/
theorem allocate (content : α) (hb : h.Balanced ((Linked.children content : List Ref) + held)) :
    (h.allocate content).2.Balanced ({(h.allocate content).1} + held) := by
  intro other
  rw [references_allocate, add_left_comm, add_assoc, Multiset.count_add, ← hb other,
    Multiset.count_singleton]
  by_cases hother : other = (h.allocate content).1
  · rw [if_pos hother, hother, owners_eq_of_slot? (slot?_allocate_self h content),
      owners_eq_zero.2 (fresh_dead h content)]
  · rw [if_neg hother, zero_add]
    unfold owners
    rw [slot?_allocate_of_ne hother]

/-- New content takes over the references that are new in it, and leaves those that are gone. -/
theorem setContent {ref : Ref} {old new : α} {given taken : Multiset Ref}
    (hold : h.get? ref = some old)
    (hmoved : (Linked.children new : Multiset Ref) + taken =
      (Linked.children old : Multiset Ref) + given)
    (hb : h.Balanced (given + held)) : (h.setContent ref new).Balanced (taken + held) := by
  rcases Option.map_eq_some_iff.1 hold with ⟨slot, hslot, hcontent⟩
  have hset : h.setContent ref new = h.setSlot ref (some { slot with content := new }) := by
    unfold Heap.setContent
    rw [hslot]
  have hreferences := references_setSlot hslot (some { slot with content := new })
  rw [hcontent] at hreferences
  have hparts : (h.setContent ref new).references + taken = h.references + given := by
    apply add_right_cancel (b := (Linked.children old : Multiset Ref))
    calc (h.setContent ref new).references + taken + (Linked.children old : Multiset Ref)
        = h.references + (Linked.children new : Multiset Ref) + taken := by
          rw [add_right_comm, hset, hreferences]
          rfl
      _ = h.references + given + (Linked.children old : Multiset Ref) := by
          rw [add_assoc, hmoved, add_assoc, add_comm given]
  intro other
  have howners : (h.setContent ref new).owners other = h.owners other := by
    rw [hset]
    by_cases hother : other = ref
    · rw [hother, owners_eq_of_slot? (slot?_setSlot_self hslot _), owners_eq_of_slot? hslot]
    · unfold owners
      rw [slot?_setSlot_of_ne hother]
  rw [howners, hb other, ← add_assoc, ← add_assoc, hparts]

/-!
# The cascade
-/

/-- One owner less, of several. -/
theorem release_one {ref : Ref} {slot : Slot α} (hslot : h.slot? ref = some slot)
    (hpos : 0 < slot.owners - 1) (hb : h.Balanced ({ref} + held)) :
    (h.setSlot ref (some ⟨slot.owners - 1, slot.content, hpos⟩)).Balanced held := by
  have hreferences := add_right_cancel
    (references_setSlot hslot (some ⟨slot.owners - 1, slot.content, hpos⟩))
  intro other
  have hbefore := hb other
  rw [add_left_comm, Multiset.count_add, Multiset.count_singleton] at hbefore
  rw [hreferences]
  by_cases hother : other = ref
  · rw [if_pos hother, hother, owners_eq_of_slot? hslot] at hbefore
    rw [hother, owners_eq_of_slot? (slot?_setSlot_self hslot _)]
    show slot.owners - 1 = _
    omega
  · rw [if_neg hother, zero_add] at hbefore
    rw [← hbefore]
    unfold owners
    rw [slot?_setSlot_of_ne hother]

/-- The last owner gone, the references inside the object are left over. -/
theorem release_last {ref : Ref} {slot : Slot α} (hslot : h.slot? ref = some slot)
    (hlast : slot.owners = 1) (hb : h.Balanced ({ref} + held)) :
    (h.setSlot ref none).Balanced ((Linked.children slot.content : List Ref) + held) := by
  have hreferences := references_setSlot hslot none
  intro other
  have hbefore := hb other
  rw [add_left_comm, Multiset.count_add, Multiset.count_singleton] at hbefore
  rw [← add_assoc, hreferences]
  have hnone : h.references + slotReferences (none : Option (Slot α)) = h.references :=
    add_zero _
  rw [hnone]
  by_cases hother : other = ref
  · rw [if_pos hother, hother, owners_eq_of_slot? hslot, hlast] at hbefore
    rw [hother, owners_eq_zero.2 (slot?_setSlot_self hslot none)]
    omega
  · rw [if_neg hother, zero_add] at hbefore
    rw [← hbefore]
    unfold owners
    rw [slot?_setSlot_of_ne hother]

/-- References that are held can all be given back, and what is left is balanced without them. -/
theorem releaseAll {work : List Ref} (hb : h.Balanced ((work : Multiset Ref) + held)) :
    (h.releaseAll work).dead = none ∧ (h.releaseAll work).heap.Balanced held := by
  fun_induction h.releaseAll work with
  | case1 h =>
      rw [Multiset.coe_nil, zero_add] at hb
      exact ⟨rfl, hb⟩
  | case2 h ref work hslot =>
      have href : ref ∈ h.references + (((ref :: work : List Ref) : Multiset Ref) + held) :=
        Multiset.mem_add.2 (.inr (Multiset.mem_add.2 (.inl List.mem_cons_self)))
      rcases hb.live href with ⟨slot, hlive⟩
      rw [hslot] at hlive
      cases hlive
  | case3 h ref work slot hslot hlast rest ih =>
      apply ih
      rw [← Multiset.cons_coe, ← Multiset.singleton_add, add_assoc] at hb
      have hleft := release_last hslot hlast hb
      have hwork : (((Linked.children slot.content).reverse ++ work : List Ref) : Multiset Ref) =
          (Linked.children slot.content : List Ref) + (work : Multiset Ref) := by
        rw [← Multiset.coe_add, Multiset.coe_reverse]
      rw [hwork, add_assoc]
      exact hleft
  | case4 h ref work slot hslot hlast ih =>
      apply ih
      rw [← Multiset.cons_coe, ← Multiset.singleton_add, add_assoc] at hb
      exact release_one hslot _ hb

end Balanced
end Heap
end ForeignBridge
