import ForeignBridge.Proofs.Building.Making

/-!
# Counterparts in a simulated runtime

A running runtime without a pending error gets every value that has a counterpart, and what it gets
is structurally the value.  Nothing that was there changes but the number of its owners, and after a
failure not even that.
-/

namespace ForeignBridge
namespace Simulation

/-- Numbers keep their kinds, and there is one null object. -/
def encoding : Encoding Object where
  null := .null
  scalar := .ofScalar
  text := .text
  tuple := .tuple
  unique?
    | .null => some nullRef
    | _ => none
  children_null := rfl
  children_scalar s := by cases s <;> rfl
  children_text _ := rfl
  children_tuple _ := rfl
  unique_tuple _ := by simp

/-- A runtime that makes objects. -/
def maker (depth : Nat) (base : Simulation) : Maker Simulation Object where
  code := encoding
  answer := answer (run depth)
  place := base.withHeap
  first := base.heap
  plain _ := True

section Making

variable {depth : Nat} {base : Simulation} {h : Heap Object} {held : Multiset Ref}

theorem within_iff : (maker depth base).Within h held ↔ base.heap.Acquired h held :=
  ⟨Maker.Within.acquired, fun ha => ⟨ha, fun _ _ _ _ => trivial⟩⟩

/-- A new object without references. -/
theorem hands_allocate (hready : base.Ready) (hh : (maker depth base).Within h held) {r : Request}
    {object : Object} {given : Ref → r.Answer}
    (hserve : serve (run depth) r = allocate object >>= fun ref => pure (given ref))
    (hchildren : Linked.children object = []) (hunique : encoding.unique? object = none) :
    (maker depth base).Hands h held r given object := by
  have ha := within_iff.1 hh
  have hstart : base.heap.Acquired h ((Linked.children object : Multiset Ref) + held) := by
    rwa [hchildren, Multiset.coe_nil, zero_add]
  refine ⟨(h.allocate object).1, (h.allocate object).2, ?_, ?_⟩
  · rw [maker, outcome_answer hready, hserve, Attempt.outcome_bind, outcome_allocate]
    rfl
  · constructor
    · exact within_iff.2 hstart.allocate
    · exact .allocate h object
    · exact ⟨Heap.get?_allocate h object, .inr ⟨hunique, ha.goesOn.grows⟩⟩
    · exact fun _ => Heap.owners_eq_zero.2 (Heap.fresh_dead h object)
    · intro other
      rw [Heap.owners_allocate, hchildren, List.count_nil, Nat.zero_add]

theorem exists_retainAll_acquired {refs : List Ref} (ha : base.heap.Acquired h held)
    (hrefs : ∀ ref ∈ refs, ref ∈ held) :
    ∃ h', (refs.forM retain).outcome (base.withHeap h) = (.ok ⟨⟩, base.withHeap h') ∧
      base.heap.Acquired h' ((refs : Multiset Ref) + held) ∧ h.Older h' ∧
        ∀ other, h'.owners other = h.owners other + refs.count other := by
  induction refs generalizing h held with
  | nil =>
      refine ⟨h, rfl, ?_, .refl h, fun _ => rfl⟩
      rwa [Multiset.coe_nil, zero_add]
  | cons ref rest ih =>
      rw [List.forall_mem_cons] at hrefs
      obtain ⟨h', hretain, ha'⟩ := ha.exists_retain (ha.live_held hrefs.1)
      obtain ⟨h'', houtcome, ha'', hold, howners⟩ := ih ha' fun other hother =>
        Multiset.mem_add.2 (.inr (hrefs.2 other hother))
      refine ⟨h'', ?_, ?_, (Heap.Older.retain hretain).trans hold, fun other => ?_⟩
      · show (retain ref >>= fun _ => rest.forM retain).outcome (base.withHeap h) = _
        rw [Attempt.outcome_bind, outcome_retain hretain]
        exact houtcome
      · rwa [add_left_comm, ← add_assoc, Multiset.singleton_add, Multiset.cons_coe] at ha''
      · rw [howners, Heap.owners_retain hretain, Nat.add_assoc, ← List.count_append]
        rfl

theorem hands_newTuple (hready : base.Ready) {refs : List Ref}
    (hh : (maker depth base).Within h ((refs : Multiset Ref) + held)) :
    (maker depth base).Hands h ((refs : Multiset Ref) + held) (.newTuple refs) some
      (.tuple refs) := by
  have ha := within_iff.1 hh
  obtain ⟨h', houtcome, ha', hold, howners⟩ := exists_retainAll_acquired ha fun ref href =>
    Multiset.mem_add.2 (.inl href)
  have hafter : base.heap.Acquired h'
      ((Linked.children (Object.tuple refs) : Multiset Ref) + (refs + held)) := ha'
  refine ⟨(h'.allocate (.tuple refs)).1, (h'.allocate (.tuple refs)).2, ?_, ?_⟩
  · rw [maker, outcome_answer hready]
    show (refs.forM retain >>= fun _ => allocate (.tuple refs) >>= fun ref =>
      pure (some ref)).outcome (base.withHeap h) = _
    rw [Attempt.outcome_bind, houtcome]
    rfl
  · constructor
    · exact within_iff.2 hafter.allocate
    · exact hold.trans (.allocate h' _)
    · exact ⟨Heap.get?_allocate h' _, .inr ⟨rfl, ha'.goesOn.grows⟩⟩
    · intro _
      have hdead := Heap.owners_eq_zero.2 (Heap.fresh_dead h' (Object.tuple refs))
      rw [howners] at hdead
      omega
    · intro other
      rw [Heap.owners_allocate, howners, Nat.add_assoc]
      exact Nat.le_refl _

theorem serves_maker (hready : base.Ready) (hnull : base.heap.get? nullRef = some .null) :
    (maker depth base).Serves := by
  constructor
  · intro h
    have hnone : (base.withHeap h).pending.isSome = false := by
      simp [withHeap, hready.quiet]
    rw [maker, outcome_answer hready]
    show (Except.ok (base.withHeap h).pending.isSome, base.withHeap h) = _
    rw [hnone]
  · intro h held ref hh hlive
    obtain ⟨h', hretain, ha'⟩ := (within_iff.1 hh).exists_retain hlive
    refine ⟨h', ?_, within_iff.2 ha', .retain hretain, Heap.owners_retain hretain⟩
    rw [maker, outcome_answer hready]
    exact outcome_retain hretain
  · intro h held ref hh
    obtain ⟨hdead, ha'⟩ := (within_iff.1 hh).release
    refine ⟨(h.release ref).heap, ?_, within_iff.2 ha', .releaseAll h [ref],
      Heap.owners_releaseAll hdead⟩
    rw [maker, outcome_answer hready]
    have hdead' : ((base.withHeap h).heap.release ref).dead = none := hdead
    exact outcome_release_of_dead hdead'
  · intro h held hh
    have ha := within_iff.1 hh
    have hthere := ha.get? hnull
    obtain ⟨h', hretain, ha'⟩ := ha.exists_retain ⟨_, hthere⟩
    have hold := Heap.Older.retain hretain
    have hlive := ha'.live_held (Multiset.mem_add.2 (.inl (List.mem_singleton.2 rfl)))
    refine ⟨nullRef, h', ?_, within_iff.2 ha', hold, ⟨hold.get?_of_live hthere hlive, .inl rfl⟩,
      fun hnew => ?_, fun other => ?_⟩
    · rw [maker, outcome_answer hready]
      show (retain nullRef >>= fun _ => pure nullRef).outcome (base.withHeap h) = _
      rw [Attempt.outcome_bind, outcome_retain hretain]
      rfl
    · exact absurd (Heap.id_lt_size hnull) (Nat.not_lt.2 hnew)
    · rw [Heap.owners_retain hretain]
      omega
  · intro h held s hh
    refine hands_allocate hready hh rfl (encoding.children_scalar s) ?_
    cases s <;> rfl
  · exact fun h held t hh => hands_allocate hready hh rfl rfl rfl
  · exact fun h held refs hh => hands_newTuple hready hh

/-!
# Counterparts
-/

/-- A run of a program that writes nothing down. -/
theorem outcome_silent {α : Type} {p : Program α} {a : α} {s s' : Simulation}
    (hp : p.Succeeds (answer (run depth)) s a s') :
    (p.run (answer (run depth)) fun _ => pure ()).outcome s = (.ok a, s') := by
  have hran : ∃ t, (p.run (answer (run depth)) fun _ => pure ()).outcome s = (.ok a, t) ∧
      t = s' := by
    refine hp.run (fun r given s s' t ht hanswer => ⟨s', ht ▸ hanswer, rfl⟩) ?_ rfl
    exact fun _ _ _ ht => ht
  obtain ⟨_, houtcome, rfl⟩ := hran
  exact houtcome

/-- What taking a value to the runtime makes of the heap. -/
structure Counterpart (first h : Heap Object) (v : Value) (ref : Ref) : Prop where
  /-- The object is structurally the value. -/
  builds : encoding.Builds first h v ref
  /-- One reference to it is handed over, and every other one that is new is inside a new object. -/
  acquired : first.Acquired h {ref}
  /-- No part of the value that was made for it is shared. -/
  sole : ∀ other object, first.slots.size ≤ other.id → h.get? other = some object →
    h.owners other = 1

end Making

/-!
A cell of a class, null, a list of strings and a truth value, in a runtime that has the class.
-/

/-- A running runtime with a class, to which the host has a handle. -/
def sampleRunning : Simulation where
  heap := ⟨#[none, some ⟨1, .null, Nat.one_pos⟩, some ⟨1, .classOf "Point" .empty, Nat.one_pos⟩]⟩
  modules := .empty
  phase := .running
  startCount := 1
  refusesStart := false
  searchPaths := []
  pending := none
  called := []
  names := .empty

def sampleItems : List Value :=
  [.foreign ⟨0, ⟨2⟩, "Point"⟩, .undefined, .cell [.text "a", .text "b"], .scalar (.bool true)]

end Simulation
end ForeignBridge
