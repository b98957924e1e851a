import ForeignBridge.Proofs.Heap.Undoing

/-!
# Acquiring

Whatever the owners of the objects in a heap count, acquiring references and making objects adds to
them: beyond its first owners an object counts one for each reference inside a new object, and one
for each reference that is held.  References that are held can be given back, and when none is held
any more, all objects are as they were at first.

In contrast to balance this says nothing about the first heap, in which a count may well be wrong.
-/

namespace ForeignBridge
namespace Heap

variable {α : Type}

/-!
# New objects
-/

/-- The objects that have a number from the given one on. -/
def since (h : Heap α) (n : Nat) : Heap α :=
  ⟨h.slots.mapIdx fun id slot => if n ≤ id then slot else none⟩

theorem slot?_since (h : Heap α) (n : Nat) (ref : Ref) :
    (h.since n).slot? ref = if n ≤ ref.id then h.slot? ref else none := by
  unfold slot? since
  rw [Array.getElem?_mapIdx]
  cases h.slots[ref.id]? with
  | none => simp
  | some slot => split <;> simp

theorem since_setSlot (h : Heap α) (n : Nat) (ref : Ref) (new : Option (Slot α)) :
    (h.setSlot ref new).since n =
      if n ≤ ref.id then (h.since n).setSlot ref new else h.since n := by
  have hslots : ((h.setSlot ref new).since n).slots =
      (if n ≤ ref.id then (h.since n).setSlot ref new else h.since n).slots := by
    apply Array.ext_getElem?
    intro id
    by_cases hid : ref.id = id
    · subst hid
      by_cases hlt : ref.id < h.slots.size
      · split <;> simp [since, setSlot, *]
      · split <;> simp [since, setSlot, hlt]
    · split <;> simp [since, setSlot, hid]
  exact congrArg Heap.mk hslots

theorem since_allocate {h : Heap α} {n : Nat} (hn : n ≤ h.slots.size) (content : α) :
    (h.allocate content).2.since n = ((h.since n).allocate content).2 := by
  simp [since, allocate, Array.mapIdx_push, hn]

theorem owners_setSlot {h : Heap α} {ref : Ref} {slot : Slot α} (hslot : h.slot? ref = some slot)
    (new : Option (Slot α)) (other : Ref) :
    (h.setSlot ref new).owners other =
      if other = ref then (new.map Slot.owners).getD 0 else h.owners other := by
  unfold owners
  split
  · rename_i hother
    rw [hother, slot?_setSlot_self hslot]
  · rename_i hother
    rw [slot?_setSlot_of_ne hother]

/-!
# Owners
-/

theorem owners_retain {h h' : Heap α} {ref : Ref} (hretain : h.retain? ref = some h')
    (other : Ref) : h'.owners other = h.owners other + [ref].count other := by
  rcases Option.map_eq_some_iff.1 hretain with ⟨slot, hslot, rfl⟩
  rw [owners_setSlot hslot, List.count_singleton]
  by_cases hother : other = ref
  · simp [hother, owners_eq_of_slot? hslot]
  · simp [hother, Ne.symm hother]

theorem owners_allocate (h : Heap α) (content : α) (other : Ref) :
    (h.allocate content).2.owners other =
      h.owners other + [(h.allocate content).1].count other := by
  rw [List.count_singleton]
  by_cases hother : other = (h.allocate content).1
  · rw [hother, owners_eq_of_slot? (slot?_allocate_self h content),
      owners_eq_zero.2 (fresh_dead h content)]
    simp
  · unfold owners
    rw [slot?_allocate_of_ne hother]
    simp [Ne.symm hother]

variable [Linked α]

/-- Each reference that is given back is one owner less. -/
theorem owners_releaseAll {h : Heap α} {work : List Ref}
    (hdead : (h.releaseAll work).dead = none) (other : Ref) :
    (h.releaseAll work).heap.owners other + work.count other ≤ h.owners other := by
  fun_induction h.releaseAll work with
  | case1 h => simp
  | case2 h ref work hslot => cases hdead
  | case3 h ref work slot hslot hlast rest ih =>
      have hrest := ih hdead
      rw [owners_setSlot hslot, List.count_append, List.count_reverse] at hrest
      rw [List.count_cons]
      by_cases hother : other = ref
      · subst hother
        simp only [if_pos, Option.map_none, Option.getD_none] at hrest
        simp only [beq_self_eq_true, if_pos, owners_eq_of_slot? hslot, hlast, rest]
        omega
      · simp only [if_neg hother] at hrest
        simp only [beq_iff_eq, Ne.symm hother, if_false, rest]
        omega
  | case4 h ref work slot hslot hlast ih =>
      have hrest := ih hdead
      rw [owners_setSlot hslot] at hrest
      rw [List.count_cons]
      have hpos := slot.owners_pos
      by_cases hother : other = ref
      · subst hother
        simp only [if_pos, Option.map_some, Option.getD_some] at hrest
        simp only [beq_self_eq_true, if_pos, owners_eq_of_slot? hslot]
        omega
      · simp only [if_neg hother] at hrest
        simp only [beq_iff_eq, Ne.symm hother, if_false]
        omega

theorem size_releaseAll (h : Heap α) (work : List Ref) :
    (h.releaseAll work).heap.slots.size = h.slots.size := by
  fun_induction h.releaseAll work with
  | case1 h | case2 h ref work hslot => rfl
  | case3 h ref work slot hslot hlast rest ih => exact ih.trans Array.size_setIfInBounds
  | case4 h ref work slot hslot hlast ih => exact ih.trans Array.size_setIfInBounds

/-- What is there after references were given back was there before. -/
theorem get?_of_releaseAll {h : Heap α} {work : List Ref} {ref : Ref} {content : α}
    (hget : (h.releaseAll work).heap.get? ref = some content) : h.get? ref = some content := by
  apply (Older.releaseAll h work).lasts ref content _ hget
  rw [← size_releaseAll h work]
  exact id_lt_size hget

/-!
# References inside new objects
-/

theorem references_since_size (h : Heap α) : (h.since h.slots.size).references = 0 := by
  apply List.sum_eq_zero
  intro part hpart
  rcases List.mem_map.1 hpart with ⟨slot, hslot, rfl⟩
  rcases List.mem_iff_getElem?.1 hslot with ⟨id, hid⟩
  have hlt : id < h.slots.size := by
    have := (List.getElem?_eq_some_iff.1 hid).1
    simpa [since] using this
  simp [since, Array.getElem?_eq_getElem hlt, Nat.not_le.2 hlt] at hid
  subst hid
  rfl

/-- Other owners leave the references inside new objects as they are. -/
theorem references_since_setSlot {h : Heap α} {ref : Ref} {slot : Slot α}
    (hslot : h.slot? ref = some slot) {count : Nat} (hpos : 0 < count) (n : Nat) :
    ((h.setSlot ref (some ⟨count, slot.content, hpos⟩)).since n).references =
      (h.since n).references := by
  rw [since_setSlot]
  split
  · rename_i hn
    have hold : (h.since n).slot? ref = some slot := by simp [slot?_since, hn, hslot]
    exact add_right_cancel (references_setSlot hold (some ⟨count, slot.content, hpos⟩))
  · rfl

/-!
# Acquired references
-/

/-- What becomes of a heap in which references were acquired, of which some are still held. -/
structure Acquired (first h : Heap α) (held : Multiset Ref) : Prop where
  goesOn : first.GoesOn h
  counts : ∀ ref, h.owners ref =
    first.owners ref + ((h.since first.slots.size).references + held).count ref

namespace Acquired

variable {first h h' : Heap α} {held : Multiset Ref} {ref : Ref}

theorem refl (h : Heap α) : h.Acquired h 0 := by
  refine ⟨GoesOn.refl h, fun ref => ?_⟩
  simp [references_since_size]

theorem get? (ha : first.Acquired h held) {content : α} (hget : first.get? ref = some content) :
    h.get? ref = some content := by
  rw [ha.goesOn.same ref (id_lt_size hget), hget]

/-- What is counted is there. -/
theorem live (ha : first.Acquired h held)
    (href : ref ∈ (h.since first.slots.size).references + held) :
    ∃ slot, h.slot? ref = some slot := by
  cases hslot : h.slot? ref with
  | some slot => exact ⟨slot, rfl⟩
  | none =>
      have hcounts := ha.counts ref
      have hpos := Multiset.count_pos.2 href
      rw [owners_eq_zero.2 hslot] at hcounts
      omega

theorem live_held (ha : first.Acquired h held) (href : ref ∈ held) :
    ∃ content, h.get? ref = some content := by
  rcases ha.live (Multiset.mem_add.2 (.inr href)) with ⟨slot, hslot⟩
  exact ⟨slot.content, by simp [Heap.get?, hslot]⟩

theorem retain (ha : first.Acquired h held) (hretain : h.retain? ref = some h') :
    first.Acquired h' ({ref} + held) := by
  refine ⟨ha.goesOn.retain hretain, fun other => ?_⟩
  rcases Option.map_eq_some_iff.1 hretain with ⟨slot, hslot, rfl⟩
  have hcounts := ha.counts other
  rw [references_since_setSlot hslot, owners_setSlot hslot]
  by_cases hother : other = ref
  · subst hother
    rw [owners_eq_of_slot? hslot] at hcounts
    simp only [if_pos, Multiset.count_add, Multiset.count_singleton_self] at hcounts ⊢
    simp only [Option.map_some, Option.getD_some]
    omega
  · simp only [Multiset.count_add, Multiset.count_singleton, if_neg hother] at hcounts ⊢
    omega

theorem exists_retain (ha : first.Acquired h held) (hlive : ∃ content, h.get? ref = some content) :
    ∃ h', h.retain? ref = some h' ∧ first.Acquired h' ({ref} + held) := by
  obtain ⟨content, hget⟩ := hlive
  obtain ⟨slot, hslot, -⟩ := Option.map_eq_some_iff.1 hget
  have hretain : h.retain? ref =
      some (h.setSlot ref (some ⟨slot.owners + 1, slot.content, Nat.succ_pos _⟩)) := by
    rw [retain?, hslot, Option.map_some]
  exact ⟨_, hretain, ha.retain hretain⟩

/-- A new object takes over the references inside it. -/
theorem allocate {content : α}
    (ha : first.Acquired h ((Linked.children content : Multiset Ref) + held)) :
    first.Acquired (h.allocate content).2 ({(h.allocate content).1} + held) := by
  constructor
  · apply ha.goesOn.allocate
    intro child hchild
    rcases ha.live_held (Multiset.mem_add.2 (.inl hchild)) with ⟨found, hfound⟩
    exact id_lt_size hfound
  · intro other
    have hcounts := ha.counts other
    rw [since_allocate ha.goesOn.grows, references_allocate]
    by_cases hother : other = (h.allocate content).1
    · rw [hother, owners_eq_zero.2 (fresh_dead h content)] at hcounts
      rw [hother, owners_eq_of_slot? (slot?_allocate_self h content)]
      simp only [Multiset.count_add, Multiset.count_singleton_self] at hcounts ⊢
      omega
    · have hsame : (h.allocate content).2.owners other = h.owners other := by
        unfold owners
        rw [slot?_allocate_of_ne hother]
      rw [hsame]
      simp only [Multiset.count_add, Multiset.count_singleton, if_neg hother] at hcounts ⊢
      omega

/-!
# Giving back
-/

/-- An object that was there at first has owners beside those who acquired it. -/
theorem le_of_last (ha : first.Acquired h ({ref} + held)) {slot : Slot α}
    (hslot : h.slot? ref = some slot) (hlast : slot.owners = 1) : first.slots.size ≤ ref.id := by
  by_contra hlt
  have hget : first.get? ref = some slot.content := by
    rw [← ha.goesOn.same ref (Nat.lt_of_not_le hlt)]
    simp [Heap.get?, hslot]
  rcases Option.map_eq_some_iff.1 hget with ⟨old, hold, -⟩
  have hcounts := ha.counts ref
  rw [owners_eq_of_slot? hslot, owners_eq_of_slot? hold, hlast] at hcounts
  simp only [Multiset.count_add, Multiset.count_singleton_self] at hcounts
  have hpos := old.owners_pos
  omega

/-- One owner less, of several. -/
theorem release_one (ha : first.Acquired h ({ref} + held)) {slot : Slot α}
    (hslot : h.slot? ref = some slot) (hpos : 0 < slot.owners - 1) :
    first.Acquired (h.setSlot ref (some ⟨slot.owners - 1, slot.content, hpos⟩)) held := by
  constructor
  · exact ha.goesOn.of_contents Array.size_setIfInBounds (get?_setSlot_content hslot rfl)
  · intro other
    have hcounts := ha.counts other
    rw [references_since_setSlot hslot, owners_setSlot hslot]
    by_cases hother : other = ref
    · subst hother
      rw [owners_eq_of_slot? hslot] at hcounts
      simp only [if_pos, Multiset.count_add, Multiset.count_singleton_self] at hcounts ⊢
      simp only [Option.map_some, Option.getD_some]
      omega
    · simp only [Multiset.count_add, Multiset.count_singleton, if_neg hother] at hcounts ⊢
      omega

/-- A new object that nobody owns any more dies, and the references inside it are left over. -/
theorem release_last (ha : first.Acquired h ({ref} + held)) {slot : Slot α}
    (hslot : h.slot? ref = some slot) (hlast : slot.owners = 1) :
    first.Acquired (h.setSlot ref none) ((Linked.children slot.content : Multiset Ref) + held) := by
  have hnew := ha.le_of_last hslot hlast
  refine ⟨ha.goesOn.setSlot_none hslot hnew, fun other => ?_⟩
  have hold : (h.since first.slots.size).slot? ref = some slot := by
    rw [slot?_since, if_pos hnew, hslot]
  have hreferences := references_setSlot hold none
  have hcounts := ha.counts other
  have hcounted := congrArg (Multiset.count other) hreferences
  rw [since_setSlot, if_pos hnew, owners_setSlot hslot]
  by_cases hother : other = ref
  · subst hother
    rw [owners_eq_of_slot? hslot, hlast] at hcounts
    simp only [if_pos, Multiset.count_add, Multiset.count_singleton_self, slotReferences,
      Option.map_none, Option.getD_none, Multiset.coe_nil, Multiset.count_zero] at hcounts hcounted ⊢
    omega
  · simp only [Multiset.count_add, Multiset.count_singleton, if_neg hother, slotReferences,
      Option.map_none, Option.getD_none, Multiset.coe_nil, Multiset.count_zero] at hcounts hcounted ⊢
    omega

/-- References that are held can all be given back. -/
theorem releaseAll {work : List Ref} (ha : first.Acquired h ((work : Multiset Ref) + held)) :
    (h.releaseAll work).dead = none ∧ first.Acquired (h.releaseAll work).heap held := by
  fun_induction h.releaseAll work with
  | case1 h =>
      rw [Multiset.coe_nil, zero_add] at ha
      exact ⟨rfl, ha⟩
  | case2 h ref work hslot =>
      rcases ha.live_held (Multiset.mem_add.2 (.inl List.mem_cons_self)) with ⟨content, hcontent⟩
      simp [Heap.get?, hslot] at hcontent
  | case3 h ref work slot hslot hlast rest ih =>
      apply ih
      rw [← Multiset.cons_coe, ← Multiset.singleton_add, add_assoc] at ha
      rw [← Multiset.coe_add, Multiset.coe_reverse, add_assoc]
      exact ha.release_last hslot hlast
  | case4 h ref work slot hslot hlast ih =>
      apply ih
      rw [← Multiset.cons_coe, ← Multiset.singleton_add, add_assoc] at ha
      exact ha.release_one hslot _

theorem release (ha : first.Acquired h ({ref} + held)) :
    (h.release ref).dead = none ∧ first.Acquired (h.release ref).heap held := by
  rw [← Multiset.coe_singleton] at ha
  exact ha.releaseAll

/-- Only new objects die. -/
theorem freed {work : List Ref} (ha : first.Acquired h ((work : Multiset Ref) + held)) :
    ∀ content ∈ (h.releaseAll work).freed,
      ∃ ref, first.slots.size ≤ ref.id ∧ h.get? ref = some content := by
  fun_induction h.releaseAll work with
  | case1 h | case2 h ref work hslot => simp
  | case3 h ref work slot hslot hlast rest ih =>
      rw [← Multiset.cons_coe, ← Multiset.singleton_add, add_assoc] at ha
      have hnew := ha.le_of_last hslot hlast
      have hrest : first.Acquired (h.setSlot ref none)
          ((((Linked.children slot.content).reverse ++ work : List Ref) : Multiset Ref) + held) := by
        rw [← Multiset.coe_add, Multiset.coe_reverse, add_assoc]
        exact ha.release_last hslot hlast
      intro content hcontent
      rcases List.mem_cons.1 hcontent with rfl | hlater
      · exact ⟨ref, hnew, by simp [Heap.get?, hslot]⟩
      · obtain ⟨other, hother, hget⟩ := ih hrest content hlater
        refine ⟨other, hother, ?_⟩
        by_cases hsame : other = ref
        · rw [hsame, Heap.get?, slot?_setSlot_self hslot] at hget
          cases hget
        · rwa [Heap.get?, slot?_setSlot_of_ne hsame] at hget
  | case4 h ref work slot hslot hlast ih =>
      rw [← Multiset.cons_coe, ← Multiset.singleton_add, add_assoc] at ha
      intro content hcontent
      obtain ⟨other, hother, hget⟩ := ih (ha.release_one hslot _) content hcontent
      refine ⟨other, hother, (Older.setSlot hslot fun s hs => ?_).lasts other content ?_ hget⟩
      · cases hs
        rfl
      · rw [← Array.size_setIfInBounds]
        exact id_lt_size hget

/-!
# Nothing held
-/

/-- Nothing new is left: only a newer object could refer to the newest one. -/
theorem get?_eq_none (ha : first.Acquired h 0) (ref : Ref) (hid : first.slots.size ≤ ref.id) :
    h.get? ref = none := by
  have hdead : first.slot? ref = none := by
    simp [slot?, Array.getElem?_eq_none hid]
  cases hget : h.get? ref with
  | none => rfl
  | some content =>
      rcases Option.map_eq_some_iff.1 hget with ⟨slot, hslot, -⟩
      have hcounts := ha.counts ref
      rw [owners_eq_of_slot? hslot, owners_eq_zero.2 hdead, Nat.zero_add, add_zero] at hcounts
      have hpos := slot.owners_pos
      rw [hcounts, Multiset.count_pos] at hpos
      rcases exists_points_of_mem_references hpos with ⟨parent, found, hfound, hchild⟩
      rcases Option.map_eq_some_iff.1 hfound with ⟨live, hlive, hcontent⟩
      rw [slot?_since] at hlive
      split at hlive
      · rename_i hparent
        have hthere : h.get? parent = some found := by simp [Heap.get?, hlive, hcontent]
        have hlt := ha.goesOn.descends parent ref hparent ⟨found, hthere, hchild⟩
        have hsize := id_lt_size hthere
        rw [ha.get?_eq_none parent hparent] at hthere
        cases hthere
      · cases hlive
termination_by h.slots.size - ref.id

/-- When nothing is held any more, every object is as it was. -/
theorem undone (ha : first.Acquired h 0) (ref : Ref) : h.slot? ref = first.slot? ref := by
  have hreferences : (h.since first.slots.size).references = 0 := by
    rw [Multiset.eq_zero_iff_forall_notMem]
    intro child hchild
    rcases exists_points_of_mem_references hchild with ⟨parent, found, hfound, -⟩
    rcases Option.map_eq_some_iff.1 hfound with ⟨live, hlive, -⟩
    rw [slot?_since] at hlive
    split at hlive
    · rename_i hparent
      have hnone := ha.get?_eq_none parent hparent
      simp [Heap.get?, hlive] at hnone
    · cases hlive
  apply slot?_eq
  · by_cases hid : first.slots.size ≤ ref.id
    · rw [ha.get?_eq_none ref hid]
      simp [Heap.get?, slot?, Array.getElem?_eq_none hid]
    · exact ha.goesOn.same ref (Nat.lt_of_not_le hid)
  · rw [ha.counts ref, hreferences, add_zero, Multiset.count_zero, Nat.add_zero]

end Acquired
end Heap
end ForeignBridge
