import Mathlib.Algebra.BigOperators.Group.Finset.Piecewise
import Mathlib.Algebra.Order.BigOperators.Group.Finset
import Mathlib.Order.Bounds.Basic
import ForeignBridge.Proofs.Simulation.Deferring

/-!
# What dies together

When a reference is given back, the objects that die are the least set in which there is every object
that has no owner but the one who gives the reference back and the members of the set.  In which order the
references of dying objects are given back makes no difference to that, nor to what is left.

An object dies when as many references to it were given back as it has owners.  All of these were
inside objects that died before, but for the one that was given back at first, and so any such set has
the object among its members.  Objects that refer to each other in a circle are in the least set only if
nothing outside owns one of them.
-/

namespace ForeignBridge
namespace Heap

variable {α : Type}

/-!
# Sets of objects
-/

/-- All numbers that were given out. -/
def refs (h : Heap α) : Finset Ref :=
  (Finset.range h.slots.size).map ⟨Ref.mk, fun _ _ heq => congrArg Ref.id heq⟩

/-- The objects of one heap that are not in another. -/
def died (first h : Heap α) : Finset Ref :=
  first.refs.filter fun ref => first.isLive ref = true ∧ h.isLive ref = false

theorem id_lt_of_slot? {h : Heap α} {ref : Ref} {slot : Slot α} (hslot : h.slot? ref = some slot) :
    ref.id < h.slots.size :=
  id_lt_size (congrArg (Option.map Slot.content) hslot)

theorem mem_refs {h : Heap α} {ref : Ref} : ref ∈ h.refs ↔ ref.id < h.slots.size := by
  unfold refs
  rw [Finset.mem_map]
  constructor
  · rintro ⟨id, hid, rfl⟩
    exact Finset.mem_range.1 hid
  · exact fun hid => ⟨ref.id, Finset.mem_range.2 hid, rfl⟩

theorem mem_died {first h : Heap α} {ref : Ref} :
    ref ∈ first.died h ↔ first.isLive ref = true ∧ h.isLive ref = false := by
  unfold died
  rw [Finset.mem_filter, mem_refs]
  constructor
  · exact And.right
  · rintro ⟨hlive, hdead⟩
    rcases isLive_iff_exists_slot.1 hlive with ⟨slot, hslot⟩
    exact ⟨id_lt_of_slot? hslot, hlive, hdead⟩

theorem isLive_eq_false {h : Heap α} {ref : Ref} : h.isLive ref = false ↔ h.slot? ref = none := by
  unfold isLive
  rw [Option.isSome_eq_false_iff, Option.isNone_iff_eq_none]

variable [Linked α]

/-- The references inside the objects of a set. -/
def referencesOf (h : Heap α) (objects : Finset Ref) : Multiset Ref :=
  ∑ ref ∈ objects, slotReferences (h.slot? ref)

theorem referencesOf_refs (h : Heap α) : h.referencesOf h.refs = h.references := by
  have hslots : h.slots.toList.map slotReferences =
      (List.range h.slots.size).map fun id => slotReferences (h.slot? ⟨id⟩) := by
    apply List.ext_getElem
    · rw [List.length_map, List.length_map, List.length_range, Array.length_toList]
    · intro id hid _
      have hlt : id < h.slots.size := by simpa using hid
      rw [List.getElem_map, List.getElem_map, List.getElem_range, Array.getElem_toList]
      unfold slot?
      rw [Array.getElem?_eq_getElem hlt]
      rfl
  unfold referencesOf refs references
  rw [Finset.sum_map, hslots]
  rfl

theorem referencesOf_mono (h : Heap α) {objects others : Finset Ref} (hsub : objects ⊆ others) :
    h.referencesOf objects ≤ h.referencesOf others :=
  Finset.sum_le_sum_of_subset hsub

/-- Dead objects refer to nothing. -/
theorem referencesOf_le (h : Heap α) (objects : Finset Ref) :
    h.referencesOf objects ≤ h.references := by
  have hlive : h.referencesOf (objects.filter (· ∈ h.refs)) = h.referencesOf objects := by
    apply Finset.sum_subset (Finset.filter_subset _ _)
    intro ref href hnot
    have hout : ¬ ref.id < h.slots.size := fun hid =>
      hnot (Finset.mem_filter.2 ⟨href, mem_refs.2 hid⟩)
    unfold slot?
    rw [Array.getElem?_eq_none (Nat.le_of_not_lt hout)]
    rfl
  rw [← hlive, ← referencesOf_refs]
  exact h.referencesOf_mono fun _ href => (Finset.mem_filter.1 href).2

/-- A heap that lost objects, and nothing else. -/
structure Shrinks (first h : Heap α) : Prop where
  size : h.slots.size = first.slots.size
  lasts : ∀ ref content, h.get? ref = some content → first.get? ref = some content

namespace Shrinks

variable {first h h' : Heap α}

omit [Linked α] in
theorem refl (h : Heap α) : h.Shrinks h := ⟨rfl, fun _ _ hget => hget⟩

omit [Linked α] in
theorem setSlot (hs : first.Shrinks h) {ref : Ref} {slot : Slot α} (hslot : h.slot? ref = some slot)
    {new : Option (Slot α)} (hnew : ∀ s, new = some s → s.content = slot.content) :
    first.Shrinks (h.setSlot ref new) := by
  have hold := Older.setSlot hslot hnew
  have hsize : (h.setSlot ref new).slots.size = h.slots.size := Array.size_setIfInBounds
  refine ⟨hsize.trans hs.size, fun other content hget => hs.lasts other content ?_⟩
  exact hold.lasts other content (hsize ▸ id_lt_size hget) hget

omit [Linked α] in
theorem get?_eq (hs : first.Shrinks h) {ref : Ref} (hnot : ref ∉ first.died h) :
    h.get? ref = first.get? ref := by
  cases hget : h.get? ref with
  | some content => exact (hs.lasts ref content hget).symm
  | none =>
      cases hfirst : first.get? ref with
      | none => rfl
      | some content =>
          refine absurd (mem_died.2 ⟨isLive_of_get? hfirst, isLive_eq_false.2 ?_⟩) hnot
          exact Option.map_eq_none_iff.1 hget

/-- The references inside the first heap are those inside what is left and those inside what died. -/
theorem references_eq (hs : first.Shrinks h) :
    first.references = h.references + first.referencesOf (first.died h) := by
  have hchildren : ∀ (heap : Heap α) ref, slotReferences (heap.slot? ref) =
      (((heap.get? ref).map Linked.children).getD [] : List Ref) := by
    intro heap ref
    unfold slotReferences Heap.get?
    rw [Option.map_map]
    rfl
  have hsplit : ∀ ref ∈ first.refs, slotReferences (first.slot? ref) =
      slotReferences (h.slot? ref) +
        if ref ∈ first.died h then slotReferences (first.slot? ref) else 0 := by
    intro ref _
    split
    · rename_i hdied
      rw [isLive_eq_false.1 (mem_died.1 hdied).2]
      exact (zero_add _).symm
    · rename_i hnot
      rw [hchildren h, hchildren first, hs.get?_eq hnot, add_zero]
  have hrefs : h.refs = first.refs := by
    unfold refs
    rw [hs.size]
  have hsub : first.died h ⊆ first.refs := Finset.filter_subset _ _
  calc first.references = ∑ ref ∈ first.refs, slotReferences (first.slot? ref) :=
        (referencesOf_refs first).symm
    _ = ∑ ref ∈ first.refs, slotReferences (h.slot? ref) +
          ∑ ref ∈ first.refs, (if ref ∈ first.died h then slotReferences (first.slot? ref) else 0) := by
        rw [← Finset.sum_add_distrib]
        exact Finset.sum_congr rfl hsplit
    _ = h.references + first.referencesOf (first.died h) := by
        rw [Finset.sum_ite_mem, Finset.inter_eq_right.2 hsub, ← hrefs]
        exact congrArg (· + _) (referencesOf_refs h)

end Shrinks

/-!
# The least closed set
-/

variable {first h h' : Heap α} {root ref : Ref} {held : Multiset Ref} {work : List Ref}

/-- The objects all of whose owners are members of a set, but for one who gives a reference to the root
back, are members of the set. -/
def Closed (h : Heap α) (root : Ref) (objects : Finset Ref) : Prop :=
  ∀ ref, h.isLive ref = true → h.owners ref = ({root} + h.referencesOf objects).count ref →
    ref ∈ objects

namespace Shrinks

/-- Each reference that was given back is one owner less, and these are the first one and those inside
what died, but for those that are still to be given back. -/
theorem owners_eq (hs : first.Shrinks h) (hfirst : first.Balanced ({root} + held))
    (hb : h.Balanced (work + held)) (ref : Ref) :
    h.owners ref + ({root} + first.referencesOf (first.died h)).count ref =
      first.owners ref + work.count ref := by
  rw [hfirst ref, hb ref, hs.references_eq]
  simp only [Multiset.count_add, Multiset.coe_count]
  omega

end Shrinks

/-- The references that members of a set give back are not more than the owners. -/
theorem Balanced.count_le (hb : h.Balanced ({root} + held)) (objects : Finset Ref) (ref : Ref) :
    ({root} + h.referencesOf objects).count ref ≤ h.owners ref := by
  have hinside := Multiset.count_le_of_le ref (h.referencesOf_le objects)
  rw [hb ref]
  simp only [Multiset.count_add]
  omega

omit [Linked α] in
theorem mem_died_setSlot_of_ne {other : Ref} (hne : other ≠ ref) (new : Option (Slot α)) :
    other ∈ first.died (h.setSlot ref new) ↔ other ∈ first.died h := by
  rw [mem_died, mem_died, isLive_eq_false, isLive_eq_false, slot?_setSlot_of_ne hne]

/-- What dies is in every closed set, if all that died before is. -/
theorem Pays.died_subset {objects : Finset Ref} (hpays : h.Pays work h')
    (hfirst : first.Balanced ({root} + held)) (hclosed : first.Closed root objects)
    (hs : first.Shrinks h) (hb : h.Balanced (work + held)) (hdied : first.died h ⊆ objects) :
    first.died h' ⊆ objects := by
  -- The cascade is followed with what is pending, from which the owners of a dying object are known.
  induction hpays with
  | nil h => exact hdied
  | @cons h h' ref work slot hslot _ ih =>
      have howners := hs.owners_eq hfirst hb ref
      rw [owners_eq_of_slot? hslot, List.count_cons_self] at howners
      rw [← Multiset.cons_coe, ← Multiset.singleton_add, add_assoc] at hb
      by_cases hlast : slot.owners = 1
      · rw [Slot.lessened_of_last hlast, Slot.orphaned_of_last hlast] at ih
        refine ih (hs.setSlot hslot nofun) ?_ fun other hother => ?_
        · rw [← Multiset.coe_add, Multiset.coe_reverse, add_assoc]
          exact Balanced.release_last hslot hlast hb
        by_cases hsame : other = ref
        · have hmembers := Multiset.count_le_of_le ref
            (add_le_add_right (first.referencesOf_mono hdied) {root})
          have hall := hfirst.count_le objects ref
          rw [hsame] at hother ⊢
          exact hclosed ref (mem_died.1 hother).1 (by omega)
        · exact hdied ((mem_died_setSlot_of_ne hsame _).1 hother)
      · rw [Slot.lessened_of_shared hlast, Slot.orphaned_of_shared hlast] at ih
        refine ih (hs.setSlot hslot ?_) (Balanced.release_one hslot _ hb) fun other hother => ?_
        · rintro s ⟨⟩
          rfl
        · refine hdied ((mem_died_setSlot_of_ne ?_ _).1 hother)
          rintro rfl
          have hdead := isLive_eq_false.1 (mem_died.1 hother).2
          rw [slot?_setSlot_self hslot] at hdead
          cases hdead

/-- What becomes of a heap when one who owns an object gives a reference to it back: the objects of a set
die. -/
structure Collects (h : Heap α) (root : Ref) (objects : Finset Ref) (h' : Heap α) : Prop where
  least : IsLeast {closed | h.Closed root closed} objects
  dead : ∀ ref ∈ objects, h.isLive ref = true ∧ h'.isLive ref = false
  contents : ∀ ref ∉ objects, h'.get? ref = h.get? ref
  /-- An object that is left lost as many owners as references to it were given back. -/
  owners : ∀ ref ∉ objects, h'.owners ref + ({root} + h.referencesOf objects).count ref = h.owners ref

/-- An object dies if objects that die, and the one who gave the first reference back, are all of its
owners. -/
theorem Collects.mem {objects members : Finset Ref} (hcollects : h.Collects root objects h')
    (hmembers : members ⊆ objects) (hlive : h.isLive ref = true)
    (hall : h.owners ref ≤ ({root} + h.referencesOf members).count ref) : ref ∈ objects := by
  by_contra hnot
  have hcount := Multiset.count_le_of_le ref (add_le_add_right (h.referencesOf_mono hmembers) {root})
  have howners := hcollects.owners ref hnot
  rcases isLive_iff_exists_slot.1 hlive with ⟨slot, hslot⟩
  have hsame := hcollects.contents ref hnot
  unfold get? at hsame
  rw [owners_eq_zero.1 (show h'.owners ref = 0 by omega), hslot] at hsame
  cases hsame

theorem Pays.collects (hpays : h.Pays [root] h') (hb : h.Balanced ({root} + held)) :
    h.Collects root (h.died h') h' := by
  have hwork : h.Balanced ((([root] : List Ref) : Multiset Ref) + held) := hb
  have hleft : h'.Balanced ((([] : List Ref) : Multiset Ref) + held) := by
    rw [← (pays_iff.1 hpays).1, Multiset.coe_nil, zero_add]
    exact hwork.releaseAll.2
  have hs : h.Shrinks h' := ⟨hpays.size_eq, fun _ _ hget => hpays.get? hget⟩
  have howners := hs.owners_eq hb hleft
  constructor
  · constructor
    · intro ref hlive hall
      refine mem_died.2 ⟨hlive, isLive_eq_false.2 (owners_eq_zero.1 ?_)⟩
      have := howners ref
      rw [List.count_nil] at this
      omega
    · intro closed hclosed
      refine hpays.died_subset hb hclosed (.refl h) hb fun ref href => ?_
      rcases mem_died.1 href with ⟨hlive, hdead⟩
      rw [hlive] at hdead
      cases hdead
  · exact fun ref href => mem_died.1 href
  · exact fun ref href => hs.get?_eq href
  · exact fun ref _ => howners ref

/-!
# Any order
-/

/-- One of the references that are still to be given back is, whichever it is. -/
inductive GivesBack : Heap α × Multiset Ref → Heap α × Multiset Ref → Prop where
  | one {h : Heap α} {ref : Ref} {slot : Slot α} {pending : Multiset Ref}
      (hslot : h.slot? ref = some slot) :
      GivesBack (h, ref ::ₘ pending) (h.setSlot ref slot.lessened, slot.orphaned + pending)

/-- Whichever references are chosen, giving them back comes to an end, no object is found dead on the
way, and the end is always the same. -/
structure EndsIn (h : Heap α) (root : Ref) (h' : Heap α) : Prop where
  reached : Relation.ReflTransGen GivesBack (h, {root}) (h', 0)
  terminates : Acc (fun later earlier => GivesBack earlier later) (h, {root})
  live : ∀ left pending, Relation.ReflTransGen GivesBack (h, {root}) (left, pending) →
    ∀ ref ∈ pending, left.isLive ref = true
  unique : ∀ left, Relation.ReflTransGen GivesBack (h, {root}) (left, 0) → left = h'

theorem wellFounded_givesBack :
    WellFounded fun later earlier : Heap α × Multiset Ref => GivesBack earlier later := by
  have hless : WellFounded fun later earlier : Heap α × Multiset Ref =>
      later.1.totalOwners < earlier.1.totalOwners := InvImage.wf _ Nat.lt_wfRel.wf
  refine Subrelation.wf ?_ hless
  rintro _ _ ⟨hslot⟩
  exact totalOwners_setSlot_lt hslot (Slot.owners_lessened_lt _)

namespace Pays

/-- The choice does not change the end. -/
theorem exists_of_givesBack {left : Heap α} {pending : Multiset Ref} (hpays : h.Pays work h')
    (hgives : GivesBack (h, (work : Multiset Ref)) (left, pending)) :
    ∃ rest : List Ref, (rest : Multiset Ref) = pending ∧ left.Pays rest h' := by
  generalize hchosen : (work : Multiset Ref) = all at hgives
  cases hgives with
  | @one _ ref slot others hslot =>
      rcases Quotient.exists_rep others with ⟨list, rfl⟩
      have hperm : work.Perm (ref :: list) := Multiset.coe_eq_coe.1 hchosen
      cases hpays.perm hperm with
      | cons hfound hrest =>
          cases hslot.symm.trans hfound
          exact ⟨slot.orphaned ++ list, (Multiset.coe_add _ _).symm, hrest⟩

theorem exists_of_run {left : Heap α} {pending : Multiset Ref} (hpays : h.Pays work h')
    (hrun : Relation.ReflTransGen GivesBack (h, (work : Multiset Ref)) (left, pending)) :
    ∃ rest : List Ref, (rest : Multiset Ref) = pending ∧ left.Pays rest h' := by
  generalize hstate : (left, pending) = state at hrun
  induction hrun generalizing left pending with
  | refl =>
      cases hstate
      exact ⟨work, rfl, hpays⟩
  | @tail middle last _ hlast ih =>
      cases hstate
      rcases middle with ⟨middle, others⟩
      rcases ih rfl with ⟨rest, rfl, hmiddle⟩
      exact hmiddle.exists_of_givesBack hlast

/-- The cascade itself makes one of the choices. -/
theorem run (hpays : h.Pays work h') :
    Relation.ReflTransGen GivesBack (h, (work : Multiset Ref)) (h', 0) := by
  induction hpays with
  | nil h => exact .refl
  | cons hslot _ ih =>
      rw [← Multiset.coe_add] at ih
      rw [← Multiset.cons_coe]
      exact .head (.one hslot) ih

theorem endsIn (hpays : h.Pays [root] h') : h.EndsIn root h' where
  reached := hpays.run
  terminates := wellFounded_givesBack.apply _
  live := by
    intro left pending hrun ref href
    rcases hpays.exists_of_run hrun with ⟨rest, rfl, hrest⟩
    rcases List.append_of_mem (Multiset.mem_coe.1 href) with ⟨before, after, rfl⟩
    cases hrest.perm List.perm_middle with
    | cons hslot _ => exact isLive_iff_exists_slot.2 ⟨_, hslot⟩
  unique := by
    intro left hrun
    rcases hpays.exists_of_run hrun with ⟨rest, hrest, hleft⟩
    rw [(Multiset.coe_eq_zero rest).1 hrest] at hleft
    cases hleft
    rfl

end Pays
end Heap

namespace Simulation

variable {s : Simulation} {root : Ref} {held : Multiset Ref}

/-- Whoever owns an object of a balanced runtime can give a reference to it back.  What dies of that is
the least closed set, and in which order the references of dying objects are given back makes no
difference. -/
theorem release_collects (hb : s.heap.Balanced held) (hroot : root ∈ held) :
    ∃ (objects : Finset Ref) (h' : Heap Object),
      (release root).outcome s = (.ok (), s.withHeap h') ∧ s.heap.Collects root objects h' ∧
        s.heap.EndsIn root h' := by
  rcases Multiset.exists_cons_of_mem hroot with ⟨rest, rfl⟩
  rw [← Multiset.singleton_add] at hb
  have hwork : s.heap.Balanced ((([root] : List Ref) : Multiset Ref) + rest) := hb
  have hpays : s.heap.Pays [root] (s.heap.releaseAll [root]).heap :=
    Heap.pays_of_dead hwork.releaseAll.1
  exact ⟨_, _, outcome_release_of_pays hpays, hpays.collects hb, hpays.endsIn⟩

/-!
A list owns two references to a number, one to a text that is held elsewhere, too, and one to another
list, which is in a circle with a third one.
-/

def sampleCircle : Simulation :=
  { fresh with
    heap := ⟨#[none, some ⟨1, .null, by decide⟩, some ⟨2, .int 7 none, by decide⟩,
      some ⟨2, .text "held", by decide⟩, some ⟨2, .list [⟨5⟩], by decide⟩,
      some ⟨1, .list [⟨4⟩], by decide⟩, some ⟨1, .list [⟨2⟩, ⟨3⟩, ⟨2⟩, ⟨4⟩], by decide⟩]⟩ }

theorem balanced_sampleCircle : sampleCircle.heap.Balanced {⟨1⟩, ⟨3⟩, ⟨6⟩} := by
  rintro ⟨id⟩
  rcases id with _ | _ | _ | _ | _ | _ | _ | id
  · decide
  · decide
  · decide
  · decide
  · decide
  · decide
  · decide
  · rfl

/-- The list and the number die; the text, and the lists in the circle, do not. -/
theorem collects_of_sampleCircle :
    sampleCircle.heap.Balanced {⟨1⟩, ⟨3⟩, ⟨6⟩} ∧
    ∃ h', (release ⟨6⟩).outcome sampleCircle = (.ok (), sampleCircle.withHeap h') ∧
      sampleCircle.heap.Collects ⟨6⟩ {⟨2⟩, ⟨6⟩} h' ∧ sampleCircle.heap.EndsIn ⟨6⟩ h' := by
  have hroot : (⟨6⟩ : Ref) ∈ ({⟨1⟩, ⟨3⟩, ⟨6⟩} : Multiset Ref) := by decide
  rcases release_collects balanced_sampleCircle hroot with ⟨objects, h', houtcome, hcollects, hends⟩
  have hobjects : objects = {⟨2⟩, ⟨6⟩} := by
    apply Finset.Subset.antisymm
    · apply hcollects.least.2
      rintro ⟨id⟩
      rcases id with _ | _ | _ | _ | _ | _ | _ | id
      · decide
      · decide
      · decide
      · decide
      · decide
      · decide
      · decide
      · exact fun hlive => by cases hlive
    · have hlist : (⟨6⟩ : Ref) ∈ objects := hcollects.mem (Finset.empty_subset objects) rfl (by decide)
      have hnumber : (⟨2⟩ : Ref) ∈ objects :=
        hcollects.mem (Finset.singleton_subset_iff.2 hlist) rfl (by decide)
      exact Finset.insert_subset hnumber (Finset.singleton_subset_iff.2 hlist)
  rw [hobjects] at hcollects
  exact ⟨balanced_sampleCircle, h', houtcome, hcollects, hends⟩

end Simulation
end ForeignBridge
