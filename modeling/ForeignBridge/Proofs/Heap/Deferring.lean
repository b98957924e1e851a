import ForeignBridge.Proofs.Heap.Acquiring
import ForeignBridge.Proofs.Heap.Lasting

/-!
# References given back later

A reference may be given back at once or some time later.  As long as it is owed its object lives, with
everything that the object refers to, so a heap in which something is owed holds all that the heap holds
in which it was given back.  Whatever is done meanwhile to objects of the smaller heap can be done in the
larger one, and giving back what is owed afterwards leads to the same heap.  The order in which references
are given back does not matter.
-/

namespace ForeignBridge

variable {α : Type}

namespace Slot

theorem owners_sub_one_pos (slot : Slot α) (hshared : slot.owners ≠ 1) : 0 < slot.owners - 1 := by
  have := slot.owners_pos
  omega

/-- The slot with one owner less, empty if that was the last one. -/
def lessened (slot : Slot α) : Option (Slot α) :=
  if hlast : slot.owners = 1 then none
  else some ⟨slot.owners - 1, slot.content, slot.owners_sub_one_pos hlast⟩

/-- What the object owned, if it dies of losing one owner. -/
def orphaned [Linked α] (slot : Slot α) : List Ref :=
  if slot.owners = 1 then (Linked.children slot.content).reverse else []

theorem lessened_of_last {slot : Slot α} (hlast : slot.owners = 1) : slot.lessened = none := by
  unfold lessened
  rw [dif_pos hlast]

theorem lessened_of_shared {slot : Slot α} (hshared : slot.owners ≠ 1) :
    slot.lessened = some ⟨slot.owners - 1, slot.content, slot.owners_sub_one_pos hshared⟩ := by
  unfold lessened
  rw [dif_neg hshared]

theorem owners_lessened_lt (slot : Slot α) :
    (slot.lessened.map Slot.owners).getD 0 < slot.owners := by
  have hpos := slot.owners_pos
  by_cases hlast : slot.owners = 1
  · rw [lessened_of_last hlast]
    exact hpos
  · rw [lessened_of_shared hlast]
    exact Nat.sub_lt hpos Nat.one_pos

variable [Linked α]

theorem orphaned_of_last {slot : Slot α} (hlast : slot.owners = 1) :
    slot.orphaned = (Linked.children slot.content).reverse := by
  unfold orphaned
  rw [if_pos hlast]

theorem orphaned_of_shared {slot : Slot α} (hshared : slot.owners ≠ 1) : slot.orphaned = [] := by
  unfold orphaned
  rw [if_neg hshared]

end Slot

namespace Heap

/-!
# Slots that are written again
-/

theorem setSlot_setSlot (h : Heap α) (ref : Ref) (old new : Option (Slot α)) :
    (h.setSlot ref old).setSlot ref new = h.setSlot ref new := by
  unfold setSlot
  congr 1
  apply Array.ext_getElem?
  intro i
  simp only [Array.getElem?_setIfInBounds, Array.size_setIfInBounds]
  split <;> rfl

theorem setSlot_comm (h : Heap α) {ref other : Ref} (hne : other ≠ ref) (a b : Option (Slot α)) :
    (h.setSlot ref a).setSlot other b = (h.setSlot other b).setSlot ref a := by
  have hid : other.id ≠ ref.id := fun hid => hne (by cases other; cases ref; exact congrArg Ref.mk hid)
  unfold setSlot
  congr 1
  exact (Array.setIfInBounds_comm a b hid.symm)

theorem setSlot_self {h : Heap α} {ref : Ref} {slot : Slot α} (hslot : h.slot? ref = some slot) :
    h.setSlot ref (some slot) = h := by
  have hat : h.slots[ref.id]? = some (some slot) := Option.join_eq_some_iff.1 hslot
  unfold setSlot
  congr 1
  apply Array.ext_getElem?
  intro i
  rw [Array.getElem?_setIfInBounds]
  split
  · rename_i hi
    rw [if_pos (Array.getElem?_eq_some_iff.1 hat).1, ← hi, hat]
  · rfl

theorem allocate_setSlot {h : Heap α} {ref : Ref} {slot : Slot α} (hslot : h.slot? ref = some slot)
    (new : Option (Slot α)) (content : α) :
    ((h.setSlot ref new).allocate content).2 = (h.allocate content).2.setSlot ref new := by
  have hget : h.get? ref = some slot.content := congrArg (Option.map Slot.content) hslot
  have hsize := id_lt_size hget
  unfold allocate setSlot
  dsimp only
  congr 1
  apply Array.ext_getElem?
  intro i
  simp only [Array.getElem?_push, Array.getElem?_setIfInBounds, Array.size_setIfInBounds,
    Array.size_push]
  grind

/-!
# Giving back
-/

variable [Linked α]

/-- Giving back references, and all that is owned by the objects which die thereby, leads from one heap
to another. -/
inductive Pays : Heap α → List Ref → Heap α → Prop where
  | nil (h : Heap α) : Pays h [] h
  | cons {h h' : Heap α} {ref : Ref} {work : List Ref} {slot : Slot α}
      (hslot : h.slot? ref = some slot)
      (hrest : Pays (h.setSlot ref slot.lessened) (slot.orphaned ++ work) h') :
      Pays h (ref :: work) h'

variable {h h' h'' : Heap α} {ref : Ref} {work rest : List Ref}

theorem releaseAll_of_pays (hpays : h.Pays work h') :
    (h.releaseAll work).heap = h' ∧ (h.releaseAll work).dead = none := by
  induction hpays with
  | nil h =>
      unfold releaseAll
      exact ⟨rfl, rfl⟩
  | @cons h h' ref work slot hslot _ ih =>
      unfold releaseAll
      split
      · rename_i hnone
        rw [hslot] at hnone
        cases hnone
      · rename_i found hfound
        rw [hslot] at hfound
        cases hfound
        by_cases hlast : slot.owners = 1
        · rw [dif_pos hlast]
          rw [Slot.lessened_of_last hlast, Slot.orphaned_of_last hlast] at ih
          exact ih
        · rw [dif_neg hlast]
          rw [Slot.lessened_of_shared hlast, Slot.orphaned_of_shared hlast] at ih
          exact ih

theorem pays_of_dead (hdead : (h.releaseAll work).dead = none) :
    h.Pays work (h.releaseAll work).heap := by
  fun_induction h.releaseAll work with
  | case1 h => exact .nil h
  | case2 h ref work hslot => cases hdead
  | case3 h ref work slot hslot hlast rest ih =>
      refine .cons hslot ?_
      rw [Slot.lessened_of_last hlast, Slot.orphaned_of_last hlast]
      exact ih hdead
  | case4 h ref work slot hslot hshared ih =>
      refine .cons hslot ?_
      rw [Slot.lessened_of_shared hshared, Slot.orphaned_of_shared hshared]
      exact ih hdead

theorem pays_iff : h.Pays work h' ↔ (h.releaseAll work).heap = h' ∧ (h.releaseAll work).dead = none := by
  constructor
  · exact releaseAll_of_pays
  · rintro ⟨rfl, hdead⟩
    exact pays_of_dead hdead

namespace Pays

theorem unique (hpays : h.Pays work h') (hpays' : h.Pays work h'') : h' = h'' :=
  (pays_iff.1 hpays).1.symm.trans (pays_iff.1 hpays').1

theorem append (hpays : h.Pays work h') (hrest : h'.Pays rest h'') : h.Pays (work ++ rest) h'' := by
  induction hpays with
  | nil h => exact hrest
  | cons hslot _ ih =>
      refine .cons hslot ?_
      have hboth := ih hrest
      rw [List.append_assoc] at hboth
      exact hboth

theorem of_append (hpays : h.Pays (work ++ rest) h'') :
    ∃ h', h.Pays work h' ∧ h'.Pays rest h'' := by
  generalize hall : work ++ rest = all at hpays
  induction hpays generalizing work with
  | nil h =>
      rcases List.append_eq_nil_iff.1 hall with ⟨rfl, rfl⟩
      exact ⟨h, .nil h, .nil h⟩
  | @cons h h'' ref others slot hslot hrest ih =>
      cases work with
      | nil =>
          cases hall
          exact ⟨h, .nil h, .cons hslot hrest⟩
      | cons first work =>
          cases hall
          rcases ih (List.append_assoc slot.orphaned work rest) with ⟨h', hwork, hafter⟩
          exact ⟨h', .cons hslot hwork, hafter⟩

/-- References can be given back in any order.  The heap loses owners with every one, so all that comes
after the first may be taken to be reordered already. -/
theorem perm {work' : List Ref} (hpays : h.Pays work h') (hperm : work.Perm work') :
    h.Pays work' h' := by
  induction hn : h.totalOwners using Nat.strong_induction_on generalizing h work work' with
  | _ n ih =>
      subst hn
      have hless : ∀ {ref : Ref} {slot : Slot α} {work work' : List Ref}, h.slot? ref = some slot →
          (h.setSlot ref slot.lessened).Pays work h' → work.Perm work' →
          (h.setSlot ref slot.lessened).Pays work' h' := fun hslot hrest hsame =>
        ih _ (totalOwners_setSlot_lt hslot (Slot.owners_lessened_lt _)) hrest hsame rfl
      induction hperm with
      | nil => exact hpays
      | cons ref hsame _ =>
          cases hpays with
          | cons hslot hrest => exact .cons hslot (hless hslot hrest (hsame.append_left _))
      | swap x y work =>
          by_cases hxy : x = y
          · rw [hxy] at hpays ⊢
            exact hpays
          cases hpays with
          | @cons _ _ _ _ slotY hy hrest =>
              cases hless hy hrest List.perm_middle with
              | @cons _ _ _ _ slotX hx hrest =>
                  rw [slot?_setSlot_of_ne hxy] at hx
                  rw [setSlot_comm h hxy] at hrest
                  have hy' : (h.setSlot x slotX.lessened).slot? y = some slotY := by
                    rw [slot?_setSlot_of_ne (Ne.symm hxy)]
                    exact hy
                  have hlt := (totalOwners_setSlot_lt hy' (Slot.owners_lessened_lt slotY)).trans
                    (totalOwners_setSlot_lt hx (Slot.owners_lessened_lt slotX))
                  have hboth := ih _ hlt hrest (List.perm_append_comm_assoc _ _ _) rfl
                  exact .cons hx (hless hx (.cons hy' hboth) List.perm_middle.symm)
      | trans _ _ ihfirst ihsecond => exact ihsecond (ihfirst hpays)

/-!
# What can be done meanwhile
-/

theorem size_eq (hpays : h.Pays work h') : h'.slots.size = h.slots.size := by
  rw [← (pays_iff.1 hpays).1]
  exact size_releaseAll h work

theorem get? (hpays : h.Pays work h') {content : α} (hget : h'.get? ref = some content) :
    h.get? ref = some content := by
  rw [← (pays_iff.1 hpays).1] at hget
  exact get?_of_releaseAll hget

theorem allocate (hpays : h.Pays work h') (content : α) :
    (h.allocate content).2.Pays work (h'.allocate content).2 := by
  induction hpays with
  | nil h => exact .nil _
  | @cons h h' ref work slot hslot _ ih =>
      have hne : ref ≠ (h.allocate content).1 := by
        intro heq
        rw [heq, fresh_dead] at hslot
        cases hslot
      refine .cons ((slot?_allocate_of_ne hne).trans hslot) ?_
      rw [allocate_setSlot hslot] at ih
      exact ih

/-- An object that lives on may be given owners and another content. -/
theorem revise (hpays : h.Pays work h') {last : Slot α} (hlast : h'.slot? ref = some last) :
    ∃ slot : Slot α, h.slot? ref = some slot ∧ slot.content = last.content ∧
      ∀ (extra : Nat) (content : α),
        (h.setSlot ref (some ⟨slot.owners + extra, content, Nat.add_pos_left slot.owners_pos _⟩)).Pays
          work (h'.setSlot ref
            (some ⟨last.owners + extra, content, Nat.add_pos_left last.owners_pos _⟩)) := by
  induction hpays with
  | nil h => exact ⟨last, hlast, rfl, fun _ _ => .nil _⟩
  | @cons h h' other work found hfound _ ih =>
      rcases ih hlast with ⟨slot, hslot, hcontent, hrevised⟩
      by_cases hother : ref = other
      · subst hother
        rw [slot?_setSlot_self hfound] at hslot
        have hshared : found.owners ≠ 1 := by
          intro hone
          rw [Slot.lessened_of_last hone] at hslot
          cases hslot
        rw [Slot.lessened_of_shared hshared] at hslot hrevised
        rw [Slot.orphaned_of_shared hshared] at hrevised
        cases hslot
        refine ⟨found, hfound, hcontent, fun extra content => ?_⟩
        have hpos := found.owners_pos
        refine .cons (slot?_setSlot_self hfound _) ?_
        rw [Slot.lessened_of_shared (by dsimp only; omega),
          Slot.orphaned_of_shared (by dsimp only; omega), setSlot_setSlot]
        have hrest := hrevised extra content
        rw [setSlot_setSlot] at hrest
        have hcount : found.owners - 1 + extra = found.owners + extra - 1 := by omega
        simp only [hcount] at hrest
        exact hrest
      · rw [slot?_setSlot_of_ne hother] at hslot
        refine ⟨slot, hslot, hcontent, fun extra content => ?_⟩
        refine .cons ((slot?_setSlot_of_ne (Ne.symm hother) _).trans hfound) ?_
        rw [setSlot_comm h (Ne.symm hother)]
        exact hrevised extra content

theorem retain (hpays : h.Pays work h') {after : Heap α} (hretain : h'.retain? ref = some after) :
    ∃ before, h.retain? ref = some before ∧ before.Pays work after := by
  rcases Option.map_eq_some_iff.1 hretain with ⟨last, hlast, rfl⟩
  rcases hpays.revise hlast with ⟨slot, hslot, hcontent, hrevised⟩
  have hmore := hrevised 1 last.content
  refine ⟨_, ?_, hmore⟩
  unfold retain?
  rw [hslot, ← hcontent]
  rfl

theorem setContent (hpays : h.Pays work h') {old : α} (hget : h'.get? ref = some old) (content : α) :
    (h.setContent ref content).Pays work (h'.setContent ref content) := by
  rcases Option.map_eq_some_iff.1 hget with ⟨last, hlast, -⟩
  rcases hpays.revise hlast with ⟨slot, hslot, -, hrevised⟩
  unfold Heap.setContent
  rw [hslot, hlast]
  exact hrevised 0 content

/-- What is given back meanwhile is given back before what is owed. -/
theorem before (hpays : h.Pays work h') (hrest : h'.Pays rest h'') :
    ∃ middle, h.Pays rest middle ∧ middle.Pays work h'' :=
  of_append ((hpays.append hrest).perm List.perm_append_comm)

/-- What was acquired can be given back. -/
theorem of_retain (hretain : h.retain? ref = some h') : h'.Pays [ref] h := by
  rcases Option.map_eq_some_iff.1 hretain with ⟨slot, hslot, rfl⟩
  have hpos := slot.owners_pos
  refine .cons (slot?_setSlot_self hslot _) ?_
  rw [Slot.lessened_of_shared (by dsimp only; omega), Slot.orphaned_of_shared (by dsimp only; omega),
    setSlot_setSlot]
  dsimp only
  simp only [Nat.add_sub_cancel]
  rw [setSlot_self hslot]
  exact .nil h

end Pays
end Heap
end ForeignBridge
