import ForeignBridge.Heap.Basic

/-!
# Giving references back

When the last owner of an object gives its reference back, the object dies, and the references that
it owned are given back in turn.  The cascade ends because every step takes one owner away from the
heap.
-/

namespace ForeignBridge

structure Released (α : Type) where
  heap : Heap α
  /-- The contents of the objects that died, the first one first. -/
  freed : List α
  /-- The reference at which the cascade broke off, because its object was dead already. -/
  dead : Option Ref

namespace Heap

variable {α : Type}

theorem sum_map_set_lt {β : Type} (weight : β → Nat) {xs : List β} {i : Nat} {old new : β}
    (hold : xs[i]? = some old) (hlt : weight new < weight old) :
    ((xs.set i new).map weight).foldr (· + ·) 0 < (xs.map weight).foldr (· + ·) 0 := by
  induction xs generalizing i with
  | nil => simp at hold
  | cons x xs ih =>
    cases i with
    | zero =>
      simp only [List.getElem?_cons_zero, Option.some.injEq] at hold
      subst hold
      simp only [List.set_cons_zero, List.map_cons, List.foldr_cons]
      omega
    | succ i =>
      simp only [List.getElem?_cons_succ] at hold
      have := ih hold
      simp only [List.set_cons_succ, List.map_cons, List.foldr_cons]
      omega

theorem totalOwners_setSlot_lt {h : Heap α} {ref : Ref} {slot : Slot α} {new : Option (Slot α)}
    (hslot : h.slot? ref = some slot) (hlt : (new.map Slot.owners).getD 0 < slot.owners) :
    (h.setSlot ref new).totalOwners < h.totalOwners := by
  have hold : h.slots.toList[ref.id]? = some (some slot) := by
    unfold slot? at hslot
    rw [Array.getElem?_toList]
    exact Option.join_eq_some_iff.1 hslot
  unfold totalOwners setSlot
  rw [Array.toList_setIfInBounds]
  exact sum_map_set_lt _ hold (by simpa using hlt)

variable [Linked α]

/-- Gives back a list of references, and all that the objects which die thereby owned. -/
def releaseAll (h : Heap α) : List Ref → Released α
  | [] => ⟨h, [], none⟩
  | ref :: work =>
    match hslot : h.slot? ref with
    | none => ⟨h, [], some ref⟩
    | some slot =>
      if hlast : slot.owners = 1 then
        let rest := releaseAll (h.setSlot ref none)
          ((Linked.children slot.content).reverse ++ work)
        { rest with freed := slot.content :: rest.freed }
      else
        releaseAll
          (h.setSlot ref (some ⟨slot.owners - 1, slot.content, by have := slot.owners_pos; omega⟩))
          work
termination_by h.totalOwners
decreasing_by
  · exact totalOwners_setSlot_lt hslot (by simpa using slot.owners_pos)
  · exact totalOwners_setSlot_lt hslot (by
        have := slot.owners_pos
        simp only [Option.map_some, Option.getD_some]
        omega)

def release (h : Heap α) (ref : Ref) : Released α := h.releaseAll [ref]

end Heap
end ForeignBridge
