import ForeignBridge.Proofs.Heap.Entries
import ForeignBridge.Proofs.Heap.Undoing
import ForeignBridge.Proofs.Simulation.Deferring

/-!
# Containers that take over references

Bags, classes and modules are made of entries, and take over the references in them.  Whenever a
container dies, each reference in it is given back once.  But of the entries of one name only the last
one gets into the container, and the references in the others belong to nobody.  So a container that was
made and freed again leaves nothing behind exactly if its entries have different names.
-/

namespace ForeignBridge

namespace Heap

/-- Slots that are empty do not count. -/
theorem liveCount_eq_of_slot? {α : Type} {first h : Heap α}
    (hsize : first.slots.size ≤ h.slots.size) (hsame : ∀ ref, h.slot? ref = first.slot? ref) :
    h.liveCount = first.liveCount := by
  have hold : h.slots.toList.take first.slots.size = first.slots.toList := by
    apply List.ext_getElem
    · simpa using hsize
    · intro id hid hid'
      have hlt : id < first.slots.size := by simpa using hid'
      have hslot := hsame ⟨id⟩
      unfold slot? at hslot
      rw [Array.getElem?_eq_getElem hlt,
        Array.getElem?_eq_getElem (Nat.lt_of_lt_of_le hlt hsize)] at hslot
      simpa using hslot
  have hnew : (h.slots.toList.drop first.slots.size).countP Option.isSome = 0 := by
    rw [List.countP_eq_zero]
    intro slot hslot
    rcases List.mem_iff_getElem?.1 hslot with ⟨id, hid⟩
    rw [List.getElem?_drop, Array.getElem?_toList] at hid
    have hdead := hsame ⟨first.slots.size + id⟩
    unfold slot? at hdead
    rw [hid, Array.getElem?_eq_none (Nat.le_add_right _ _)] at hdead
    simpa using hdead
  unfold liveCount
  rw [← Array.countP_toList, ← Array.countP_toList,
    ← List.take_append_drop first.slots.size h.slots.toList, List.countP_append, hold, hnew,
    Nat.add_zero]

end Heap

namespace Simulation

open Attempt

/-- A kind of object that is made of entries. -/
inductive Container where
  | bag
  | classOf (name : String)
  | moduleOf (name : String)

namespace Container

variable {runScript : Script → Attempt Simulation (Option Ref)} {s : Simulation}

/-- The object that is made. -/
def object (entries : List (String × Ref)) : Container → Object
  | bag => .bag (.ofList entries)
  | classOf name => .classOf name (.ofList entries)
  | moduleOf name => .moduleOf name (.ofList entries)

/-- The operation that makes the object. -/
def build (runScript : Script → Attempt Simulation (Option Ref)) (entries : List (String × Ref)) :
    Container → Attempt Simulation Ref
  | bag => perform runScript (.newBag entries)
  | classOf name => perform runScript (.newClass name entries)
  | moduleOf name => perform runScript (.registerModule name entries)

/-- The module in whose place the registry puts a new one, if there was one of its name. -/
def replaced (s : Simulation) : Container → List Ref
  | moduleOf name => (s.modules.find? name).toList
  | _ => []

theorem replaced_le {base : Multiset Ref} (container : Container)
    (h : ∀ ref ∈ container.replaced s, ref ∈ base) : (container.replaced s : Multiset Ref) ≤ base := by
  cases container with
  | bag | classOf _ => exact Multiset.zero_le base
  | moduleOf name =>
      have hmember : ∀ ref ∈ (s.modules.find? name).toList, ref ∈ base := h
      show ((s.modules.find? name).toList : Multiset Ref) ≤ base
      cases hfound : s.modules.find? name with
      | none => exact Multiset.zero_le base
      | some previous =>
          rw [hfound] at hmember
          exact Multiset.singleton_le.2 (hmember previous List.mem_cons_self)

theorem children_object (container : Container) (entries : List (String × Ref)) :
    (container.object entries).children = (Table.ofList entries).values := by
  cases container <;> rfl

/-- A new object is put into the heap, and only then the replaced one is given back. -/
theorem outcome_build (container : Container) {entries : List (String × Ref)} {h : Heap Object}
    (hpays : (s.heap.allocate (container.object entries)).2.Pays (container.replaced s) h) :
    ∃ s', (container.build runScript entries).outcome s =
      (.ok (s.heap.allocate (container.object entries)).1, s') ∧ s'.heap = h := by
  cases container with
  | bag =>
      cases hpays
      exact ⟨_, rfl, rfl⟩
  | classOf name =>
      cases hpays
      exact ⟨_, rfl, rfl⟩
  | moduleOf name =>
      let ref := (s.heap.allocate (.moduleOf name (.ofList entries))).1
      let made : Simulation := { s with
        heap := (s.heap.allocate (.moduleOf name (.ofList entries))).2
        modules := s.modules.insert name ref }
      have hregister : (registerModule name entries).outcome s =
          (releaseOld (s.modules.find? name) >>= fun _ => pure ref).outcome made := rfl
      show ∃ s' : Simulation, (registerModule name entries).outcome s = _ ∧ s'.heap = h
      rw [hregister]
      replace hpays : made.heap.Pays (s.modules.find? name).toList h := hpays
      cases hfound : s.modules.find? name with
      | none =>
          rw [hfound] at hpays
          cases hpays
          exact ⟨made, rfl, rfl⟩
      | some previous =>
          rw [hfound] at hpays
          refine ⟨made.withHeap h, ?_, rfl⟩
          show (release previous >>= fun _ => pure ref).outcome made = _
          rw [outcome_bind, outcome_release_of_pays hpays]
          rfl

/-- What is left in a heap of a container that was made of entries and freed, beside what was there
before the entries. -/
structure LeavesBehind (entries : List (String × Ref)) (first left : Heap Object)
    (base : Multiset Ref) : Prop where
  balanced : left.Balanced ((Table.overridden entries : List Ref) + base)
  live : ∀ ref ∈ Table.overridden entries, left.isLive ref = true
  nothing_iff : (∀ ref, left.slot? ref = first.slot? ref) ↔ (entries.map Prod.fst).Nodup
  count : (entries.map Prod.fst).Nodup → left.liveCount = first.liveCount

/-- What becomes of the references that a container takes over. -/
structure Owns (container : Container) (entries : List (String × Ref)) : Prop where
  /-- Every reference is in the container, or is overridden. -/
  kept : ((container.object entries).children : Multiset Ref) + Table.overridden entries =
    (entries.map Prod.snd : List Ref)
  kept_iff : Table.overridden entries = [] ↔ (entries.map Prod.fst).Nodup
  /-- When the last owner gives the container back, each reference in it is given back once. -/
  freed : ∀ {h h' : Heap Object} {ref : Ref} {slot : Slot Object} {work : List Ref},
    h.slot? ref = some slot → slot.owners = 1 → slot.content = container.object entries →
      (h.Pays (ref :: work) h' ↔
        (h.setSlot ref none).Pays ((container.object entries).children ++ work) h')
  /-- A container made of references that are held beyond those of an earlier heap can be freed, and what
  is left then beside the earlier heap is what was overridden.  A module that was replaced is given
  back, too. -/
  undone : ∀ {runScript : Script → Attempt Simulation (Option Ref)} {s : Simulation}
    {first : Heap Object} {base : Multiset Ref}, first.Balanced base → first.GoesOn s.heap →
      s.heap.Balanced ((entries.map Prod.snd : List Ref) + base) →
      (∀ ref ∈ container.replaced s, ref ∈ base) →
      ∃ (left : Heap Object) (s' : Simulation), (container.build runScript entries >>= fun ref =>
          perform runScript (.release ref)).outcome s = (.ok (), s') ∧
        left.Pays (container.replaced s) s'.heap ∧ LeavesBehind entries first left base

theorem leavesBehind {entries : List (String × Ref)} {first left : Heap Object} {base : Multiset Ref}
    (hfirst : first.Balanced base) (hon : first.GoesOn left)
    (hb : left.Balanced ((Table.overridden entries : List Ref) + base)) :
    LeavesBehind entries first left base := by
  have hsame : (entries.map Prod.fst).Nodup → ∀ ref, left.slot? ref = first.slot? ref := by
    intro hnodup
    rw [Table.overridden_eq_nil_iff.2 hnodup, Multiset.coe_nil, zero_add] at hb
    exact hon.undone hfirst hb
  refine ⟨hb, fun ref href => ?_, ⟨fun hslots => ?_, hsame⟩, fun hnodup => ?_⟩
  · rw [Heap.isLive_iff_exists_slot]
    exact hb.live (Multiset.mem_add.2 (.inr (Multiset.mem_add.2 (.inl href))))
  · -- Alike heaps have the same references inside, and so the same ones are held.
    have hnew : ∀ ref, first.slots.size ≤ ref.id → left.get? ref = none := by
      intro ref hid
      unfold Heap.get?
      rw [hslots ref]
      unfold Heap.slot?
      rw [Array.getElem?_eq_none hid]
      rfl
    rcases hon.exists_references with ⟨added, hreferences, hnone⟩
    rw [hnone hnew, add_zero] at hreferences
    have hheld : first.references + ((Table.overridden entries : List Ref) + base) =
        first.references + base := by
      ext ref
      have howners : left.owners ref = first.owners ref := by
        unfold Heap.owners
        rw [hslots ref]
      rw [← hreferences, ← hb ref, howners, hfirst ref, hreferences]
    have hzero : ((Table.overridden entries : List Ref) : Multiset Ref) = 0 := by
      have hcancel := add_left_cancel hheld
      exact add_right_cancel (hcancel.trans (zero_add base).symm)
    exact Table.overridden_eq_nil_iff.1 ((Multiset.coe_eq_zero _).1 hzero)
  · exact Heap.liveCount_eq_of_slot? hon.grows (hsame hnodup)

/-- The references in the entries are those in the container and the overridden ones. -/
theorem children_add_overridden (container : Container) (entries : List (String × Ref)) :
    ((container.object entries).children : Multiset Ref) + Table.overridden entries =
      (entries.map Prod.snd : List Ref) := by
  rw [children_object]
  exact Table.values_ofList_add_overridden entries

/-- Giving back the last reference to an object is giving back what is in it. -/
theorem pays_iff_of_last {h h' : Heap Object} {ref : Ref} {slot : Slot Object} {work : List Ref}
    (hslot : h.slot? ref = some slot) (hlast : slot.owners = 1) :
    h.Pays (ref :: work) h' ↔ (h.setSlot ref none).Pays (slot.content.children ++ work) h' := by
  have hreversed : (slot.content.children.reverse ++ work).Perm (slot.content.children ++ work) :=
    (List.reverse_perm _).append_right work
  constructor
  · intro hpays
    cases hpays with
    | cons hfound hrest =>
        cases hslot.symm.trans hfound
        rw [Slot.lessened_of_last hlast, Slot.orphaned_of_last hlast] at hrest
        exact hrest.perm hreversed
  · intro hrest
    refine .cons hslot ?_
    rw [Slot.lessened_of_last hlast, Slot.orphaned_of_last hlast]
    exact hrest.perm hreversed.symm

/-- Whatever the entries are, all references in them are accounted for, and none of them is lost exactly
if their names are different. -/
theorem owns_entries (container : Container) (entries : List (String × Ref)) :
    container.Owns entries where
  kept := container.children_add_overridden entries
  kept_iff := Table.overridden_eq_nil_iff
  freed := by
    intro h h' ref slot work hslot hlast hcontent
    rw [← hcontent]
    exact pays_iff_of_last hslot hlast
  undone := by
    intro runScript s first base hfirst hon hb hreplaced
    rw [← container.children_add_overridden entries, add_assoc] at hb
    have hchildren : ∀ child ∈ Linked.children (container.object entries),
        child.id < s.heap.slots.size := by
      intro child hchild
      rcases hb.live (Multiset.mem_add.2 (.inr (Multiset.mem_add.2 (.inl hchild)))) with ⟨slot, hslot⟩
      exact Heap.id_lt_size (congrArg (Option.map Slot.content) hslot)
    have hmade := Heap.Balanced.allocate (container.object entries) hb
    have honmade := hon.allocate hchildren
    -- The container alone can be freed, which leaves the heap that is compared with the first one.
    let made := s.heap.allocate (container.object entries)
    have hfreed : (made.2.releaseAll [made.1]).dead = none ∧
        (made.2.releaseAll [made.1]).heap.Balanced ((Table.overridden entries : List Ref) + base) :=
      hmade.releaseAll
    have honleft : first.GoesOn (made.2.releaseAll [made.1]).heap := honmade.releaseAll hfirst hmade
    have hpaid := Heap.pays_of_dead hfreed.1
    obtain ⟨rest, hrest⟩ := Multiset.le_iff_exists_add.1 (container.replaced_le hreplaced)
    have hleft := hfreed.2
    rw [hrest, add_left_comm] at hleft
    have hgone := Heap.pays_of_dead hleft.releaseAll.1
    -- The replaced module is given back before, which makes no difference.
    rcases ((hpaid.append hgone).perm List.perm_append_comm).of_append with ⟨h, hbefore, hafter⟩
    obtain ⟨s', houtcome, rfl⟩ : ∃ s', (container.build runScript entries).outcome s =
        (.ok made.1, s') ∧ s'.heap = h := container.outcome_build hbefore
    refine ⟨_, s'.withHeap _, ?_, hgone, leavesBehind hfirst honleft hfreed.2⟩
    rw [outcome_bind, houtcome]
    exact outcome_release_of_pays hafter

/-!
Of two entries of one name only the second one is in a bag, and the object in the first one is never
freed.
-/

theorem leaks_of_repeated :
    ((do
      let one ← perform (run 0) (.newInt 1)
      let two ← perform (run 0) (.newInt 2)
      let bag ← perform (run 0) (.newBag [("a", one), ("a", two)])
      perform (run 0) (.release bag) : Attempt Simulation Unit).outcome fresh).2.heap.liveCount = 2 ∧
      fresh.heap.liveCount = 1 := by
  let made : Attempt Simulation Ref := do
    let one ← perform (run 0) (.newInt 1)
    let two ← perform (run 0) (.newInt 2)
    perform (run 0) (.newBag [("a", one), ("a", two)])
  have hmade : made.outcome fresh = (.ok ⟨4⟩, (made.outcome fresh).2) := rfl
  let full : Heap Object := (made.outcome fresh).2.heap
  have hfreed : full.Pays [⟨4⟩] ((full.setSlot ⟨4⟩ none).setSlot ⟨3⟩ none) :=
    .cons rfl (.cons rfl (.nil _))
  have hall : (made >>= fun bag => perform (run 0) (.release bag)).outcome fresh =
      (.ok (), (made.outcome fresh).2.withHeap ((full.setSlot ⟨4⟩ none).setSlot ⟨3⟩ none)) := by
    rw [outcome_bind, hmade]
    exact outcome_release_of_pays hfreed
  refine ⟨?_, rfl⟩
  show ((made >>= fun bag => perform (run 0) (.release bag)).outcome fresh).2.heap.liveCount = 2
  rw [hall]
  rfl

end Container
end Simulation
end ForeignBridge
