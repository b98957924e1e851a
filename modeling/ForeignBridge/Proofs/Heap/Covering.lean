import ForeignBridge.Proofs.Heap.Acquiring

/-!
# Owners enough

Whoever knows only some of the references to objects may rely on them as long as the objects have
owners enough for those.  An object of which one owner is to stay has one more, so that it outlives
all references that are known.
-/

namespace ForeignBridge
namespace Heap

variable {α : Type}

theorem exists_retain? {h : Heap α} {ref : Ref} {content : α} (hget : h.get? ref = some content) :
    ∃ h', h.retain? ref = some h' := by
  obtain ⟨slot, hslot, -⟩ := Option.map_eq_some_iff.1 hget
  exact ⟨_, by rw [retain?, hslot]; rfl⟩

/-- Objects have owners for some references, and those that are to last have one more. -/
structure Covers (h : Heap α) (lasting : Ref → Prop) (refs : Multiset Ref) : Prop where
  enough : ∀ ref, refs.count ref ≤ h.owners ref
  spare : ∀ ref, lasting ref → refs.count ref < h.owners ref

namespace Covers

variable {h h' : Heap α} {lasting : Ref → Prop} {refs : Multiset Ref} {ref : Ref}

theorem exists_get?_of_pos (hpos : 0 < h.owners ref) : ∃ content, h.get? ref = some content := by
  cases hslot : h.slot? ref with
  | none =>
      rw [owners_eq_zero.2 hslot] at hpos
      exact absurd hpos (Nat.lt_irrefl 0)
  | some slot => exact ⟨slot.content, by rw [Heap.get?, hslot, Option.map_some]⟩

theorem exists_get? (hc : h.Covers lasting refs) (href : ref ∈ refs) :
    ∃ content, h.get? ref = some content :=
  exists_get?_of_pos (Nat.lt_of_lt_of_le (Multiset.count_pos.2 href) (hc.enough ref))

theorem exists_get?_of_lasting (hc : h.Covers lasting refs) (hlasting : lasting ref) :
    ∃ content, h.get? ref = some content :=
  exists_get?_of_pos (Nat.lt_of_le_of_lt (Nat.zero_le _) (hc.spare ref hlasting))

/-- Nothing is known of an object but that it is there. -/
theorem zero (hlasting : ∀ ref, lasting ref → ∃ content, h.get? ref = some content) :
    h.Covers lasting 0 := by
  refine ⟨fun ref => Nat.zero_le _, fun ref href => ?_⟩
  obtain ⟨content, hget⟩ := hlasting ref href
  obtain ⟨slot, hslot, -⟩ := Option.map_eq_some_iff.1 hget
  rw [Multiset.count_zero, owners_eq_of_slot? hslot]
  exact slot.owners_pos

theorem mono {refs' : Multiset Ref} (hc : h.Covers lasting refs) (hle : refs' ≤ refs) :
    h.Covers lasting refs' :=
  ⟨fun ref => (Multiset.count_le_of_le ref hle).trans (hc.enough ref),
    fun ref hlasting => (Multiset.count_le_of_le ref hle).trans_lt (hc.spare ref hlasting)⟩

/-- What is counted follows the owners. -/
theorem of_owners {refs' : Multiset Ref} (hc : h.Covers lasting refs)
    (howners : ∀ other, h.owners other + refs'.count other ≤ h'.owners other + refs.count other) :
    h'.Covers lasting refs' := by
  constructor
  · intro other
    have henough := hc.enough other
    have hmoved := howners other
    omega
  · intro other hlasting
    have hspare := hc.spare other hlasting
    have hmoved := howners other
    omega

theorem retain (hc : h.Covers lasting refs) (hretain : h.retain? ref = some h') :
    h'.Covers lasting (ref ::ₘ refs) :=
  hc.of_owners fun other => by
    rw [owners_retain hretain, ← Multiset.coe_count, Multiset.coe_singleton,
      ← Multiset.singleton_add, Multiset.count_add]
    omega

theorem allocate (hc : h.Covers lasting refs) (content : α) :
    (h.allocate content).2.Covers lasting ((h.allocate content).1 ::ₘ refs) :=
  hc.of_owners fun other => by
    rw [owners_allocate, ← Multiset.coe_count, Multiset.coe_singleton, ← Multiset.singleton_add,
      Multiset.count_add]
    omega

/-- Contents do not matter. -/
theorem setContent (hc : h.Covers lasting refs) (content : α) :
    (h.setContent ref content).Covers lasting refs := by
  refine hc.of_owners fun other => Nat.add_le_add_right ?_ _
  unfold Heap.setContent
  cases hslot : h.slot? ref with
  | none => exact Nat.le_refl _
  | some slot =>
      dsimp only
      rw [owners_setSlot hslot]
      split
      · rename_i hother
        rw [hother, owners_eq_of_slot? hslot]
        exact Nat.le_refl _
      · exact Nat.le_refl _

end Covers

/-!
# Giving back
-/

variable [Linked α] {h : Heap α} {ref : Ref}

/-- An object that refers to nothing, or has other owners, takes nothing with it. -/
theorem release_alone {content : α} (hget : h.get? ref = some content)
    (halone : h.owners ref = 1 → Linked.children content = []) :
    (h.release ref).dead = none ∧ (∀ object ∈ (h.release ref).freed, object = content) ∧
      ∀ other, (h.release ref).heap.owners other + [ref].count other = h.owners other := by
  obtain ⟨slot, hslot, rfl⟩ := Option.map_eq_some_iff.1 hget
  have hpos := slot.owners_pos
  have hcounted : ∀ new : Option (Slot α), (new.map Slot.owners).getD 0 + 1 = slot.owners →
      ∀ other, (h.setSlot ref new).owners other + [ref].count other = h.owners other := by
    intro new hnew other
    rw [owners_setSlot hslot, List.count_singleton]
    by_cases hother : other = ref
    · rw [if_pos hother, hother, beq_self_eq_true, if_pos rfl, hnew, owners_eq_of_slot? hslot]
    · rw [if_neg hother, beq_false_of_ne (Ne.symm hother), if_neg Bool.false_ne_true, Nat.add_zero]
  rw [owners_eq_of_slot? hslot] at halone
  unfold release
  rw [releaseAll]
  split
  · rename_i hnone
    rw [hslot] at hnone
    cases hnone
  · rename_i found hfound
    rw [hslot] at hfound
    cases hfound
    split
    · rename_i hlast
      rw [halone hlast, List.reverse_nil, List.nil_append, releaseAll]
      exact ⟨rfl, fun object hobject => List.mem_singleton.1 hobject, hcounted none hlast.symm⟩
    · rw [releaseAll]
      exact ⟨rfl, fun _ hobject => absurd hobject List.not_mem_nil,
        hcounted _ (Nat.sub_add_cancel hpos)⟩

/-- A reference is given back, and what is left is still covered. -/
theorem Covers.release {content : α} {lasting : Ref → Prop} {refs : Multiset Ref}
    (hc : h.Covers lasting (ref ::ₘ refs)) (hget : h.get? ref = some content)
    (halone : h.owners ref = 1 → Linked.children content = []) :
    (h.release ref).heap.Covers lasting refs :=
  hc.of_owners fun other => by
    rw [← (release_alone hget halone).2.2 other, ← Multiset.coe_count, Multiset.coe_singleton,
      ← Multiset.singleton_add, Multiset.count_add]
    omega

/-!
# Keeping
-/

/-- What is said of some objects, as long as they live: of those that are to last and of those to
which references are kept. -/
structure Keeping (α : Type) where
  lasting : Ref → Prop
  kept : Multiset Ref
  describes : Heap α → Prop
  steady : ∀ {h h' : Heap α}, describes h → h.Older h' →
    (∀ ref, lasting ref → ∃ content, h'.get? ref = some content) →
    (∀ ref ∈ kept, ∃ content, h'.get? ref = some content) → describes h'

namespace Keeping

variable {α : Type}

/-- What is said is true, and the objects have owners enough besides those that are held. -/
structure Holds (K : Keeping α) (held : Multiset Ref) (h : Heap α) : Prop where
  said : K.describes h
  covers : h.Covers K.lasting (K.kept + held)

namespace Holds

variable {K : Keeping α} {held : Multiset Ref} {h h' : Heap α} {ref : Ref}

theorem older {held' : Multiset Ref} (hk : K.Holds held h) (hold : h.Older h')
    (hc : h'.Covers K.lasting (K.kept + held')) : K.Holds held' h' where
  said := K.steady hk.said hold (fun _ hlasting => hc.exists_get?_of_lasting hlasting)
    fun _ hkept => hc.exists_get? (Multiset.mem_add.2 (.inl hkept))
  covers := hc

theorem retain (hk : K.Holds held h) (hretain : h.retain? ref = some h') :
    K.Holds (ref ::ₘ held) h' := by
  have hc := hk.covers.retain hretain
  rw [← Multiset.add_cons] at hc
  exact hk.older (.retain hretain) hc

theorem allocate (hk : K.Holds held h) (content : α) :
    K.Holds ((h.allocate content).1 ::ₘ held) (h.allocate content).2 := by
  have hc := hk.covers.allocate content
  rw [← Multiset.add_cons] at hc
  exact hk.older (.allocate h content) hc

theorem forget (hk : K.Holds (ref ::ₘ held) h) : K.Holds held h :=
  ⟨hk.said, hk.covers.mono (add_le_add le_rfl (Multiset.le_cons_self held ref))⟩

theorem release [Linked α] {content : α} (hk : K.Holds (ref ::ₘ held) h)
    (hget : h.get? ref = some content)
    (halone : h.owners ref = 1 → Linked.children content = []) :
    K.Holds held (h.release ref).heap := by
  have hc := hk.covers
  rw [Multiset.add_cons] at hc
  exact hk.older (.releaseAll h [ref]) (hc.release hget halone)

/-- What lasts has an owner more, whoever gives a reference to it back. -/
theorem owners_ne_one (hk : K.Holds (ref ::ₘ held) h) (hlasting : K.lasting ref) :
    h.owners ref ≠ 1 := by
  have hspare := hk.covers.spare ref hlasting
  rw [Multiset.add_cons, Multiset.count_cons_self] at hspare
  omega

/-- What is held stays as it is. -/
theorem get?_of_held {content : α} (hk : K.Holds held h') (hold : h.Older h') (href : ref ∈ held)
    (hget : h.get? ref = some content) : h'.get? ref = some content :=
  hold.get?_of_live hget (hk.covers.exists_get? (Multiset.mem_add.2 (.inr href)))

end Holds
end Keeping

end Heap
end ForeignBridge
