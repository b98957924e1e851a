import ForeignBridge.Proofs.Heap.Conservation

/-!
# Lending

A heap lends references to its live objects: each object counts one owner more for every reference
that is lent, and nothing else is different.  To acquire a reference to a live object lends one
more, and to give a lent one back lends one less, and no object dies of it, because the owners that
it had before are still there.
-/

namespace ForeignBridge

/-- A live object with more owners. -/
def Slot.lent {α : Type} (slot : Slot α) (count : Nat) : Slot α where
  owners := slot.owners + count
  content := slot.content
  owners_pos := Nat.add_pos_left slot.owners_pos count

namespace Heap

variable {α : Type}

/-- A heap with more references held on its objects. -/
def lent (h : Heap α) (held : Multiset Ref) : Heap α :=
  ⟨h.slots.mapIdx fun id slot => slot.map fun live => live.lent (held.count ⟨id⟩)⟩

variable {h : Heap α} {held : Multiset Ref} {ref : Ref}

theorem slot?_lent (h : Heap α) (held : Multiset Ref) (ref : Ref) :
    (h.lent held).slot? ref = (h.slot? ref).map fun live => live.lent (held.count ref) := by
  unfold slot? lent
  rw [Array.getElem?_mapIdx]
  cases h.slots[ref.id]? with
  | none => rfl
  | some slot => rfl

@[simp]
theorem get?_lent (h : Heap α) (held : Multiset Ref) (ref : Ref) :
    (h.lent held).get? ref = h.get? ref := by
  unfold get?
  rw [slot?_lent, Option.map_map]
  rfl

@[simp]
theorem lent_zero (h : Heap α) : h.lent 0 = h := by
  have hslots : (h.lent 0).slots = h.slots := by
    apply Array.ext_getElem?
    intro id
    unfold lent
    rw [Array.getElem?_mapIdx]
    cases h.slots[id]? with
    | none => rfl
    | some slot =>
        cases slot with
        | none => rfl
        | some live => rfl
  exact congrArg Heap.mk hslots

/-- Where references to one object more or less are lent, one slot is different. -/
theorem setSlot_lent {slot : Slot α} {held held' : Multiset Ref} (hslot : h.slot? ref = some slot)
    (hsame : ∀ other, other ≠ ref → held'.count other = held.count other) :
    (h.lent held).setSlot ref (some (slot.lent (held'.count ref))) = h.lent held' := by
  have hslots : ((h.lent held).setSlot ref (some (slot.lent (held'.count ref)))).slots =
      (h.lent held').slots := by
    apply Array.ext_getElem?
    intro id
    unfold setSlot lent
    rw [Array.getElem?_setIfInBounds, Array.size_mapIdx, Array.getElem?_mapIdx,
      Array.getElem?_mapIdx]
    by_cases hid : ref.id = id
    · have hsome : h.slots[id]? = some (some slot) := by
        rw [← hid]
        exact Option.join_eq_some_iff.1 hslot
      have hlt : ref.id < h.slots.size := by
        rw [hid]
        exact (Array.getElem?_eq_some_iff.1 hsome).1
      have href : (⟨id⟩ : Ref) = ref := by rw [← hid]
      rw [if_pos hid, if_pos hlt, hsome, href]
      rfl
    · have href : (⟨id⟩ : Ref) ≠ ref := fun heq => hid (congrArg Ref.id heq.symm)
      rw [if_neg hid, hsame _ href]
  exact congrArg Heap.mk hslots

/-- A reference to a live object can be lent. -/
theorem retain?_lent {content : α} (hget : h.get? ref = some content) (held : Multiset Ref) :
    (h.lent held).retain? ref = some (h.lent (ref ::ₘ held)) := by
  rcases Option.map_eq_some_iff.1 hget with ⟨slot, hslot, -⟩
  unfold retain?
  rw [slot?_lent, hslot, ← setSlot_lent hslot fun other hne => Multiset.count_cons_of_ne hne held,
    Multiset.count_cons_self]
  rfl

/-- A reference that was lent can be given back. -/
theorem release_lent [Linked α] {content : α} (hget : h.get? ref = some content)
    (held : Multiset Ref) : (h.lent (ref ::ₘ held)).release ref = ⟨h.lent held, [], none⟩ := by
  rcases Option.map_eq_some_iff.1 hget with ⟨slot, hslot, -⟩
  have hlent : (h.lent (ref ::ₘ held)).slot? ref = some (slot.lent (held.count ref + 1)) := by
    rw [slot?_lent, hslot, Multiset.count_cons_self]
    rfl
  have hpos := slot.owners_pos
  unfold release
  rw [releaseAll]
  split
  · rename_i hnone
    rw [hlent] at hnone
    cases hnone
  · rename_i found hfound
    rw [hlent] at hfound
    cases hfound
    split
    · rename_i hlast
      unfold Slot.lent at hlast
      dsimp only at hlast
      omega
    · have hsame : ∀ other, other ≠ ref → held.count other = (ref ::ₘ held).count other :=
        fun other hne => (Multiset.count_cons_of_ne hne held).symm
      rw [releaseAll, ← setSlot_lent hslot hsame]
      rfl

/-- A reference that others hold too is lent by a heap in which it was given back. -/
theorem lent_release [Linked α] {slot : Slot α} (hslot : h.slot? ref = some slot)
    (hshared : slot.owners ≠ 1) : (h.release ref).heap.lent {ref} = h := by
  have hpos := slot.owners_pos
  have hfewer : 0 < slot.owners - 1 := by omega
  have hreleased : (h.release ref).heap =
      h.setSlot ref (some ⟨slot.owners - 1, slot.content, hfewer⟩) := by
    unfold release
    rw [releaseAll]
    split
    · rename_i hnone
      rw [hslot] at hnone
      cases hnone
    · rename_i found hfound
      rw [hslot] at hfound
      cases hfound
      rw [dif_neg hshared, releaseAll]
  have hold := Option.join_eq_some_iff.1 hslot
  have hslots : ((h.release ref).heap.lent {ref}).slots = h.slots := by
    apply Array.ext_getElem?
    intro id
    rw [hreleased]
    unfold lent setSlot
    rw [Array.getElem?_mapIdx, Array.getElem?_setIfInBounds]
    by_cases hid : ref.id = id
    · have href : (⟨id⟩ : Ref) = ref := by rw [← hid]
      rw [if_pos hid, if_pos (Array.getElem?_eq_some_iff.1 hold).1, href,
        Multiset.count_singleton_self, ← hid, hold]
      refine congrArg (fun live => some (some live)) ?_
      unfold Slot.lent
      cases slot
      rw [Slot.mk.injEq]
      exact ⟨Nat.sub_add_cancel hpos, rfl⟩
    · have href : (⟨id⟩ : Ref) ≠ ref := fun heq => hid (congrArg Ref.id heq.symm)
      rw [if_neg hid, Multiset.count_eq_zero_of_notMem fun hmem => href (Multiset.mem_singleton.1 hmem)]
      cases h.slots[id]? with
      | none => rfl
      | some found =>
          cases found with
          | none => rfl
          | some live => rfl
  exact congrArg Heap.mk hslots

end Heap
end ForeignBridge
