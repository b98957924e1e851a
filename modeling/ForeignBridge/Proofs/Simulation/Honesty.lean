import Mathlib.Algebra.Order.Group.Multiset
import ForeignBridge.Proofs.Heap.Conservation
import ForeignBridge.Proofs.Simulation.Returns
import ForeignBridge.Simulation.Runtime

/-!
# Honest scripts and sound runtimes

Operations of the simulated runtime take references over and hand new ones out.  A script is honest
if it takes part in this correctly: it passes on only references that it owns, and when it is done
it owns its result and nothing else.  What it does may depend on everything that it is answered.
The body of a function is honest if it is, for all arguments, in every state of the runtime.

A runtime is sound if its heap is balanced with the null object, the registered modules and the
references held from outside, the null object is in its place, and the bodies of all functions are
honest.
-/

namespace ForeignBridge
namespace Simulation

namespace Op

/-- The references that an operation takes over. -/
def consumed : Op → List Ref
  | request r => r.returned.toList
  | newTuple refs | newList refs => refs
  | newBag entries | newClass _ entries | registerModule _ entries => entries.map Prod.snd
  | release ref => [ref]
  | _ => []

/-- The references that whoever performs an operation owns after it and did not own before.  A
registered module belongs to the registry. -/
def acquired : (op : Op) → op.Answer → List Ref
  | request r, answer => r.acquired answer
  | newInt _, ref | newFloat _, ref | newBool _, ref | newBytes _, ref | newText _, ref
  | newUnits _, ref | newTuple _, ref | newList _, ref | newBag _, ref | newClass _ _, ref => [ref]
  | retain ref, _ => [ref]
  | _, _ => []

/-- The entries of a new attribute table have different names. -/
def WellNamed : Op → Prop
  | newBag entries | newClass _ entries | registerModule _ entries => (entries.map Prod.fst).Nodup
  | _ => True

end Op

/-- A script that owns some references passes on only such as it owns, and owns its result alone
in the end.  Calls that it makes are nested up to a depth. -/
def Script.Honest : Script → Nat → Simulation → Multiset Ref → Prop
  | .done result, _, _, owned => owned = (result.toList : List Ref)
  | .perform op next, depth, s, owned =>
    (op.consumed : Multiset Ref) ≤ owned ∧ op.WellNamed ∧
      (Simulation.perform (run depth) op).Returns s fun answer s' =>
        (next answer).Honest depth s' ((op.acquired answer : Multiset Ref) + (owned - op.consumed))
  | .newFunction name body next, depth, s, owned =>
    (∀ depth calls arguments s, (body calls arguments).Honest depth s 0) ∧
      (allocate (.function name body)).Returns s fun ref s' =>
        (next ref).Honest depth s' ({ref} + owned)

/-- The body of a function is honest for all arguments. -/
def HonestBody (body : Nat → List Ref → Script) : Prop :=
  ∀ depth calls arguments s, (body calls arguments).Honest depth s 0

/-- The object is no function with a dishonest body. -/
def Object.Honest : Object → Prop
  | function _ body => HonestBody body
  | _ => True

/-- The object is honest, and the null object in its place. -/
def Proper (ref : Ref) (object : Object) : Prop :=
  object.Honest ∧ (ref = nullRef → object = .null)

/-- The references that a runtime holds itself, on the null object and on its modules. -/
def roots (s : Simulation) : Multiset Ref := {nullRef} + (s.modules.values : Multiset Ref)

theorem nullRef_mem_roots (s : Simulation) : nullRef ∈ s.roots :=
  Multiset.mem_add.2 (.inl (Multiset.mem_singleton_self nullRef))

/-- The books of a runtime, of which some references are held from outside. -/
structure Sound (s : Simulation) (held : Multiset Ref) : Prop where
  balanced : s.heap.Balanced (s.roots + held)
  proper : s.heap.Every Proper

theorem sound_fresh : fresh.Sound 0 :=
  ⟨Heap.Balanced.singleton Object.null rfl, Heap.Every.singleton ⟨trivial, fun _ => rfl⟩⟩

/-!
# Computations that keep a runtime sound
-/

variable {α β : Type}

/-- A computation takes over references `before`, hands over those of its result, and leaves all
others alone. -/
def Keeps (before : Multiset Ref) (act : Attempt Simulation α) (after : α → Multiset Ref) : Prop :=
  ∀ s held, s.Sound (before + held) → act.Returns s fun a s' => s'.Sound (after a + held)

namespace Keeps

variable {before : Multiset Ref} {middle after : α → Multiset Ref}

theorem of_eq {before' : Multiset Ref} {after' : α → Multiset Ref} {act : Attempt Simulation α}
    (h : Keeps before act after) (hbefore : before' = before) (hafter : ∀ a, after a = after' a) :
    Keeps before' act after' := by
  intro s held hs
  rw [hbefore] at hs
  refine Attempt.returns_mono (fun a s' hs' => ?_) (h s held hs)
  rw [← hafter a]
  exact hs'

theorem pure {a : α} (h : before = after a) : Keeps before (pure a) after := by
  intro s held hs
  rw [Attempt.returns_pure, ← h]
  exact hs

theorem throw {panic : Panic} : Keeps before (throw panic) after :=
  fun _ _ _ => Attempt.returns_throw

theorem bind {after : β → Multiset Ref} {act : Attempt Simulation α}
    {f : α → Attempt Simulation β} (hact : Keeps before act middle)
    (hf : ∀ a, Keeps (middle a) (f a) after) : Keeps before (act >>= f) after := by
  intro s held hs
  rw [Attempt.returns_bind]
  refine Attempt.returns_mono (fun a s' hs' => ?_) (hact s held hs)
  exact hf a s' held hs'

/-- Other references may be held meanwhile. -/
theorem frame {act : Attempt Simulation α} (h : Keeps before act after) (others : Multiset Ref) :
    Keeps (before + others) act fun a => after a + others := by
  intro s held hs
  rw [add_assoc] at hs
  refine Attempt.returns_mono (fun a s' hs' => ?_) (h s (others + held) hs)
  rw [add_assoc]
  exact hs'

/-- A computation that needs no reference leaves those that are held alone. -/
theorem quiet {act : Attempt Simulation α} {after : α → Multiset Ref} (h : Keeps 0 act after)
    (held : Multiset Ref) : Keeps held act fun a => after a + held :=
  (h.frame held).of_eq (zero_add held).symm fun _ => rfl

theorem forM {f : β → Attempt Simulation PUnit} {taken : β → Multiset Ref}
    (hf : ∀ x, Keeps 0 (f x) fun _ => taken x) (xs : List β) :
    Keeps 0 (xs.forM f) fun _ => (xs.map taken).sum := by
  induction xs with
  | nil => exact pure rfl
  | cons x xs ih =>
      show Keeps 0 (f x >>= fun _ => xs.forM f) _
      apply bind (hf x)
      intro _
      refine (ih.quiet (taken x)).of_eq rfl fun _ => ?_
      rw [List.map_cons, List.sum_cons, add_comm]

end Keeps
end Simulation
end ForeignBridge
