import Mathlib.Data.Fintype.EquivFin
import Mathlib.Data.Multiset.Bind
import Mathlib.Logic.Relation
import ForeignBridge.Proofs.Heap.Lasting

/-!
# Reclamation

An object that is held, or that some live object refers to, is live.  Going back along references
from a live object ends somewhere if objects do not refer to themselves in a circle, and it can end
only at an object that is held.  So in a balanced heap without circles exactly those objects live
that can be reached from what is held.
-/

namespace ForeignBridge
namespace Heap

variable {α : Type} {h : Heap α} {held : Multiset Ref} {ref other : Ref}

variable [Linked α]

/-- One live object refers to another. -/
def Points (h : Heap α) (ref child : Ref) : Prop :=
  ∃ content, h.get? ref = some content ∧ child ∈ Linked.children content

/-- An object can be reached from another one, or is the same. -/
def Leads (h : Heap α) : Ref → Ref → Prop := Relation.ReflTransGen h.Points

/-- No object can be reached from itself by one reference or more. -/
def Acyclic (h : Heap α) : Prop := ∀ ref, ¬ Relation.TransGen h.Points ref ref

theorem isLive_of_points (hpoints : h.Points ref other) : h.isLive ref = true := by
  rcases hpoints with ⟨content, hget, -⟩
  exact isLive_of_get? hget

theorem exists_points_of_mem_references (href : ref ∈ h.references) :
    ∃ parent, h.Points parent ref := by
  unfold references at href
  rw [← Multiset.sum_coe] at href
  rcases Multiset.mem_join.1 href with ⟨part, hpart, hmem⟩
  rcases List.mem_map.1 (Multiset.mem_coe.1 hpart) with ⟨entry, hentry, hslot⟩
  rw [← hslot] at hmem
  cases entry with
  | none => cases hmem
  | some slot =>
      rcases List.mem_iff_getElem?.1 hentry with ⟨id, hid⟩
      rw [Array.getElem?_toList] at hid
      refine ⟨⟨id⟩, slot.content, ?_, hmem⟩
      unfold get? slot?
      rw [hid]
      rfl

/-- Where nothing refers to itself in a circle, what holds of an object if it holds of all objects
that refer to it holds of every object. -/
theorem Acyclic.induction {p : Ref → Prop} (hacyclic : h.Acyclic)
    (hp : ∀ ref, (∀ parent, h.Points parent ref → p parent) → p ref) (ref : Ref) : p ref := by
  let before (i j : Fin h.slots.size) : Prop := Relation.TransGen h.Points ⟨i⟩ ⟨j⟩
  have htrans : IsTrans _ before := ⟨fun _ _ _ hij hjk => hij.trans hjk⟩
  have hirrefl : Std.Irrefl before := ⟨fun i => hacyclic ⟨i⟩⟩
  have hwf : WellFounded before := Finite.wellFounded_of_trans_of_irrefl before
  have hlt : ∀ {parent child}, h.Points parent child → parent.id < h.slots.size :=
    fun ⟨_, hget, _⟩ => id_lt_size hget
  have hinside : ∀ i : Fin h.slots.size, p ⟨i⟩ := by
    intro i
    induction i using hwf.induction with
    | _ i ih => exact hp ⟨i⟩ fun parent hparent => ih ⟨parent.id, hlt hparent⟩ (.single hparent)
  exact hp ref fun parent hparent => hinside ⟨parent.id, hlt hparent⟩

/-- Whether all references are to objects that are older than those that they are in. -/
def descends (h : Heap α) : Bool :=
  h.slots.toList.zipIdx.all fun (entry, id) =>
    ((entry.map fun slot => Linked.children slot.content).getD []).all fun child => child.id < id

theorem lt_of_descends (hdescends : h.descends = true) (hpoints : h.Points ref other) :
    other.id < ref.id := by
  rcases hpoints with ⟨content, hget, hchild⟩
  rcases Option.map_eq_some_iff.1 hget with ⟨slot, hslot, hcontent⟩
  have hentry : h.slots.toList[ref.id]? = some (some slot) := by
    rw [Array.getElem?_toList]
    exact Option.join_eq_some_iff.1 hslot
  have hmem : (some slot, ref.id) ∈ h.slots.toList.zipIdx := List.mem_zipIdx_iff_getElem?.2 hentry
  have hall := List.all_eq_true.1 (List.all_eq_true.1 hdescends _ hmem) other
  rw [← hcontent] at hchild
  exact of_decide_eq_true (hall hchild)

theorem acyclic_of_descends (hdescends : h.descends = true) : h.Acyclic := by
  have hlt : ∀ {a b}, Relation.TransGen h.Points a b → b.id < a.id := by
    intro a b hpath
    induction hpath with
    | single hpoints => exact lt_of_descends hdescends hpoints
    | tail _ hpoints ih => exact Nat.lt_trans (lt_of_descends hdescends hpoints) ih
  intro ref hcircle
  exact Nat.lt_irrefl _ (hlt hcircle)

namespace Balanced

/-- What can be reached from what is held is live. -/
theorem isLive_of_leads (hb : h.Balanced held) {root : Ref} (hroot : root ∈ held)
    (hleads : h.Leads root ref) : h.isLive ref = true := by
  rw [isLive_iff_exists_slot]
  cases hleads with
  | refl => exact hb.live (Multiset.mem_add.2 (.inr hroot))
  | tail _ hlast =>
      rcases hlast with ⟨content, hget, hchild⟩
      exact hb.live (Multiset.mem_add.2 (.inl (mem_references hget hchild)))

/-- What is live can be reached from what is held. -/
theorem exists_leads (hb : h.Balanced held) (hacyclic : h.Acyclic) (ref : Ref)
    (hlive : h.isLive ref = true) : ∃ root ∈ held, h.Leads root ref := by
  induction ref using hacyclic.induction with
  | _ ref ih =>
      have hcounted : ref ∈ h.references + held := by
        rcases isLive_iff_exists_slot.1 hlive with ⟨slot, hslot⟩
        rw [← Multiset.count_pos, ← hb ref, owners_eq_of_slot? hslot]
        exact slot.owners_pos
      rcases Multiset.mem_add.1 hcounted with hinside | hheld
      · rcases exists_points_of_mem_references hinside with ⟨parent, hparent⟩
        rcases ih parent hparent (isLive_of_points hparent) with ⟨root, hroot, hleads⟩
        exact ⟨root, hroot, hleads.tail hparent⟩
      · exact ⟨ref, hheld, .refl⟩

theorem isLive_iff (hb : h.Balanced held) (hacyclic : h.Acyclic) (ref : Ref) :
    h.isLive ref = true ↔ ∃ root ∈ held, h.Leads root ref := by
  constructor
  · exact hb.exists_leads hacyclic ref
  · rintro ⟨root, hroot, hleads⟩
    exact hb.isLive_of_leads hroot hleads

end Balanced
end Heap
end ForeignBridge
