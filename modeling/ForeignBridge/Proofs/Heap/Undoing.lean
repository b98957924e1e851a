import Mathlib.Data.Multiset.OrderedMonoid
import ForeignBridge.Proofs.Heap.Lasting
import ForeignBridge.Proofs.Heap.Reclamation

/-!
# Undoing

A heap goes on from another one if it has the objects of that one, with the same contents, and beside
them only new objects that refer to older ones.  Acquiring references and making objects goes on from
a heap.  So does giving back references that are held beyond those of the first heap, because then
only new objects can die.

When nothing is held any more beyond what was held at first, both heaps are the same.  The newest
object could only be referred to by an object that is still newer, so there is no new object left,
and without new objects the owners are counted alike.
-/

namespace ForeignBridge
namespace Heap

variable {α : Type}

/-- Two slots are alike if they have the same content and as many owners. -/
theorem slot?_eq {h h' : Heap α} {ref : Ref} (hget : h'.get? ref = h.get? ref)
    (howners : h'.owners ref = h.owners ref) : h'.slot? ref = h.slot? ref := by
  unfold get? at hget
  unfold owners at howners
  cases hold : h.slot? ref with
  | none =>
      rw [hold, Option.map_none, Option.map_eq_none_iff] at hget
      exact hget
  | some slot =>
      rw [hold, Option.map_some, Option.map_eq_some_iff] at hget
      rcases hget with ⟨slot', hnew, hcontent⟩
      rw [hold, hnew] at howners
      rw [hnew]
      cases slot
      cases slot'
      cases hcontent
      cases howners
      rfl

theorem get?_setSlot_none {h : Heap α} {ref : Ref} {slot : Slot α}
    (hslot : h.slot? ref = some slot) : (h.setSlot ref none).get? ref = none := by
  unfold get?
  rw [slot?_setSlot_self hslot]
  rfl

theorem get?_setSlot_of_ne {h : Heap α} {ref other : Ref} (hne : other ≠ ref)
    (new : Option (Slot α)) : (h.setSlot ref new).get? other = h.get? other := by
  unfold get?
  rw [slot?_setSlot_of_ne hne]

/-- Another number of owners leaves all contents as they are. -/
theorem get?_setSlot_content {h : Heap α} {ref : Ref} {slot new : Slot α}
    (hslot : h.slot? ref = some slot) (hnew : new.content = slot.content) (other : Ref) :
    (h.setSlot ref (some new)).get? other = h.get? other := by
  by_cases hother : other = ref
  · unfold get?
    rw [hother, slot?_setSlot_self hslot, hslot, Option.map_some, Option.map_some, hnew]
  · exact get?_setSlot_of_ne hother _

variable [Linked α] {first h h' : Heap α} {base held : Multiset Ref}

/-- A heap has the objects of another one, and new ones that refer to older objects only. -/
structure GoesOn (first h : Heap α) : Prop where
  grows : first.slots.size ≤ h.slots.size
  same : ∀ ref, ref.id < first.slots.size → h.get? ref = first.get? ref
  descends : ∀ ref child, first.slots.size ≤ ref.id → h.Points ref child → child.id < ref.id

namespace GoesOn

theorem refl (h : Heap α) : h.GoesOn h := by
  constructor
  · exact Nat.le_refl _
  · exact fun _ _ => rfl
  · rintro ref child hid ⟨content, hget, -⟩
    exact absurd (id_lt_size hget) (Nat.not_lt.2 hid)

/-- Only the contents matter. -/
theorem of_contents (hon : first.GoesOn h) (hsize : h'.slots.size = h.slots.size)
    (hcontents : ∀ ref, h'.get? ref = h.get? ref) : first.GoesOn h' := by
  constructor
  · rw [hsize]
    exact hon.grows
  · intro ref hid
    rw [hcontents]
    exact hon.same ref hid
  · rintro ref child hid ⟨content, hget, hchild⟩
    rw [hcontents] at hget
    exact hon.descends ref child hid ⟨content, hget, hchild⟩

theorem retain (hon : first.GoesOn h) {ref : Ref} (hretain : h.retain? ref = some h') :
    first.GoesOn h' := by
  apply hon.of_contents _ (get?_retain hretain)
  rcases Option.map_eq_some_iff.1 hretain with ⟨slot, -, hnew⟩
  rw [← hnew]
  exact Array.size_setIfInBounds

theorem allocate (hon : first.GoesOn h) {content : α}
    (hchildren : ∀ child ∈ Linked.children content, child.id < h.slots.size) :
    first.GoesOn (h.allocate content).2 := by
  have hother : ∀ ref, ref ≠ (h.allocate content).1 →
      (h.allocate content).2.get? ref = h.get? ref := by
    intro ref hne
    unfold get?
    rw [slot?_allocate_of_ne hne]
  constructor
  · exact Nat.le_trans hon.grows (Older.allocate h content).grows
  · intro ref hid
    rw [hother ref]
    · exact hon.same ref hid
    · intro hnew
      rw [hnew] at hid
      exact Nat.lt_irrefl _ (Nat.lt_of_lt_of_le hid hon.grows)
  · rintro ref child hid ⟨found, hget, hchild⟩
    by_cases hnew : ref = (h.allocate content).1
    · rw [hnew, get?_allocate] at hget
      cases hget
      rw [hnew]
      exact hchildren child hchild
    · rw [hother ref hnew] at hget
      exact hon.descends ref child hid ⟨found, hget, hchild⟩

/-- An object that was not there at first may die. -/
theorem setSlot_none (hon : first.GoesOn h) {ref : Ref} {slot : Slot α}
    (hslot : h.slot? ref = some slot) (hnew : first.slots.size ≤ ref.id) :
    first.GoesOn (h.setSlot ref none) := by
  constructor
  · show first.slots.size ≤ (h.slots.setIfInBounds ref.id none).size
    rw [Array.size_setIfInBounds]
    exact hon.grows
  · intro other hid
    rw [get?_setSlot_of_ne]
    · exact hon.same other hid
    · intro hother
      rw [hother] at hid
      exact absurd hid (Nat.not_lt.2 hnew)
  · rintro other child hid ⟨content, hget, hchild⟩
    by_cases hother : other = ref
    · rw [hother, get?_setSlot_none hslot] at hget
      cases hget
    · rw [get?_setSlot_of_ne hother] at hget
      exact hon.descends other child hid ⟨content, hget, hchild⟩

/-- The references inside the objects that were there at first are still there. -/
theorem exists_references (hon : first.GoesOn h) : ∃ added,
    h.references = first.references + added ∧
      ((∀ ref, first.slots.size ≤ ref.id → h.get? ref = none) → added = 0) := by
  have hentry : ∀ (h : Heap α) (id : Nat),
      slotReferences (h.slots[id]?).join =
        ((h.get? ⟨id⟩).map fun content => (Linked.children content : Multiset Ref)).getD 0 := by
    intro h id
    unfold get? slot?
    cases (h.slots[id]?).join with
    | none => rfl
    | some slot => rfl
  have hold : (h.slots.toList.take first.slots.size).map slotReferences =
      first.slots.toList.map slotReferences := by
    apply List.ext_getElem
    · simpa using hon.grows
    · intro id hid hid'
      have hlt : id < first.slots.size := by simpa using hid'
      have hlt' : id < h.slots.size := Nat.lt_of_lt_of_le hlt hon.grows
      have hsame := hon.same ⟨id⟩ hlt
      have hleft := hentry h id
      have hright := hentry first id
      rw [hsame, ← hright] at hleft
      rw [Array.getElem?_eq_getElem hlt, Array.getElem?_eq_getElem hlt'] at hleft
      simpa using hleft
  refine ⟨((h.slots.toList.drop first.slots.size).map slotReferences).sum, ?_, ?_⟩
  · unfold references
    rw [← hold, ← List.sum_append, ← List.map_append, List.take_append_drop]
  · intro hnone
    apply List.sum_eq_zero
    intro part hpart
    rcases List.mem_map.1 hpart with ⟨entry, hmem, hslot⟩
    rcases List.mem_iff_getElem?.1 hmem with ⟨id, hid⟩
    rw [List.getElem?_drop, Array.getElem?_toList] at hid
    have hdead := hnone ⟨first.slots.size + id⟩ (Nat.le_add_right _ _)
    have hzero := hentry h (first.slots.size + id)
    rw [hdead, hid] at hzero
    rw [← hslot]
    exact hzero

/-- An object that was there at first has owners beside those who hold more than at first. -/
theorem le_of_last (hon : first.GoesOn h) (hfirst : first.Balanced base) {ref : Ref}
    (hb : h.Balanced ({ref} + (held + base))) {slot : Slot α} (hslot : h.slot? ref = some slot)
    (hlast : slot.owners = 1) : first.slots.size ≤ ref.id := by
  by_contra hlt
  have hget : first.get? ref = some slot.content := by
    rw [← hon.same ref (Nat.lt_of_not_le hlt)]
    unfold get?
    rw [hslot]
    rfl
  rcases Option.map_eq_some_iff.1 hget with ⟨old, hold, -⟩
  rcases hon.exists_references with ⟨added, hreferences, -⟩
  have hbefore := hfirst ref
  have hafter := hb ref
  rw [owners_eq_of_slot? hold] at hbefore
  rw [owners_eq_of_slot? hslot, hlast, hreferences] at hafter
  simp only [Multiset.count_add, Multiset.count_singleton_self] at hbefore hafter
  have hpos := old.owners_pos
  omega

/-- References that are held beyond those of the first heap can be given back. -/
theorem releaseAll (hon : first.GoesOn h) (hfirst : first.Balanced base) {work : List Ref}
    (hb : h.Balanced ((work : Multiset Ref) + (held + base))) :
    first.GoesOn (h.releaseAll work).heap := by
  fun_induction h.releaseAll work with
  | case1 h => exact hon
  | case2 h ref work hslot => exact hon
  | case3 h ref work slot hslot hlast rest ih =>
      rw [← Multiset.cons_coe, ← Multiset.singleton_add, add_assoc] at hb
      have hheld : h.Balanced ({ref} + (((work : Multiset Ref) + held) + base)) := by
        rw [add_assoc]
        exact hb
      have hnew := hon.le_of_last hfirst hheld hslot hlast
      apply ih (hon.setSlot_none hslot hnew)
      have hleft := Balanced.release_last hslot hlast hb
      have hwork : (((Linked.children slot.content).reverse ++ work : List Ref) : Multiset Ref) =
          (Linked.children slot.content : List Ref) + (work : Multiset Ref) := by
        rw [← Multiset.coe_add, Multiset.coe_reverse]
      rw [hwork, add_assoc]
      exact hleft
  | case4 h ref work slot hslot hlast ih =>
      rw [← Multiset.cons_coe, ← Multiset.singleton_add, add_assoc] at hb
      apply ih _ (Balanced.release_one hslot _ hb)
      apply hon.of_contents
      · exact Array.size_setIfInBounds
      · exact get?_setSlot_content hslot rfl

/-- Without more references than at first, nothing new is left: only a newer object could refer to
the newest one. -/
theorem get?_eq_none (hon : first.GoesOn h) (hfirst : first.Balanced held) (hb : h.Balanced held)
    (ref : Ref) (hid : first.slots.size ≤ ref.id) : h.get? ref = none := by
  have hdead : first.slot? ref = none := by
    unfold slot?
    rw [Array.getElem?_eq_none hid]
    rfl
  have hcount := hfirst ref
  rw [owners_eq_zero.2 hdead, eq_comm, Multiset.count_eq_zero] at hcount
  cases hget : h.get? ref with
  | none => rfl
  | some content =>
      rcases Option.map_eq_some_iff.1 hget with ⟨slot, hslot, -⟩
      have hcounted : ref ∈ h.references + held := by
        rw [← Multiset.count_pos, ← hb ref, owners_eq_of_slot? hslot]
        exact slot.owners_pos
      rcases Multiset.mem_add.1 hcounted with hinside | hheld
      · rcases exists_points_of_mem_references hinside with ⟨parent, hparent⟩
        by_cases hnew : first.slots.size ≤ parent.id
        · have hlt := hon.descends parent ref hnew hparent
          rcases hparent with ⟨found, hfound, -⟩
          have hlive := id_lt_size hfound
          rw [hon.get?_eq_none hfirst hb parent hnew] at hfound
          cases hfound
        · rcases hparent with ⟨found, hfound, hchild⟩
          rw [hon.same parent (Nat.lt_of_not_le hnew)] at hfound
          exact absurd (Multiset.mem_add.2 (.inl (mem_references hfound hchild))) hcount
      · exact absurd (Multiset.mem_add.2 (.inr hheld)) hcount
termination_by h.slots.size - ref.id

/-- Without more references than at first, everything is as it was. -/
theorem undone (hon : first.GoesOn h) (hfirst : first.Balanced held) (hb : h.Balanced held)
    (ref : Ref) : h.slot? ref = first.slot? ref := by
  have hnew := hon.get?_eq_none hfirst hb
  rcases hon.exists_references with ⟨added, hreferences, hnone⟩
  rw [hnone hnew, add_zero] at hreferences
  apply slot?_eq
  · by_cases hid : first.slots.size ≤ ref.id
    · rw [hnew ref hid]
      unfold get? slot?
      rw [Array.getElem?_eq_none hid]
      rfl
    · exact hon.same ref (Nat.lt_of_not_le hid)
  · rw [hb ref, hfirst ref, hreferences]

end GoesOn
end Heap
end ForeignBridge
