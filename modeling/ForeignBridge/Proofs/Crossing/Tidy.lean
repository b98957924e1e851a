import Mathlib.Algebra.Order.Group.Multiset
import ForeignBridge.Crossing.Entry
import ForeignBridge.Proofs.Crossing.Failure

/-!
# Tidy crossings

The crossings of the bridge are put together from few parts.  A request that cannot fail is asked
as it is.  Any other one is asked together with the check of its answer, or inside one of a handful
of conversions that treat its failure in a way of their own.  Combinators look after the references
that are held meanwhile.

A tidy crossing is one that is put together like this.  The references that it takes over when it
begins and those that come with its result are written down beside it, and so is whether it may
write into objects; when it fails it holds no reference.  What holds of the parts and is kept by the
combinators therefore holds of every request of the host, and has to be shown for the parts only.
-/

namespace ForeignBridge

/-- The requests that change what an object contains. -/
def Request.writes : Request → Bool
  | setAttr _ _ _ | setItem _ _ _ => true
  | _ => false

/-- The requests that only look and cannot fail. -/
def Request.looks : Request → Bool
  | kindOf _ | isCallable _ | supportsIndexing _ | boolValue _ => true
  | _ => false

theorem ofNumeric_ne_foreignRuntime (fault : NumericFault) (operation : Operation)
    (message : String) : BridgeError.ofNumeric fault ≠ .foreignRuntime operation message := by
  intro h
  cases fault with
  | overflow value target => cases h
  | _ => cases h

namespace Crossing

/-- A crossing put together from checked requests, which takes over some references and hands over
those of its result. -/
inductive Tidy (ctx : Context) (writes : Bool) (prefixes : List String) :
    {α : Type} → Multiset Ref → Crossing α → (α → Multiset Ref) → Prop
  | pure {α : Type} {before : Multiset Ref} {a : α} {after : α → Multiset Ref} :
      before = after a → Tidy ctx writes prefixes before (pure a) after
  | throw {α : Type} {e : BridgeError} {after : α → Multiset Ref} :
      (∀ operation message, e ≠ .foreignRuntime operation message) →
      Tidy ctx writes prefixes 0 (throw e) after
  | abort {α : Type} {before : Multiset Ref} {after : α → Multiset Ref} :
      Tidy ctx writes prefixes before (abort .nestedTooDeep) after
  | note {event : Event} {before : Multiset Ref} :
      (event.severity != .error) = true →
      Tidy ctx writes prefixes before (note event) fun _ => before
  | look {r : Request} {before : Multiset Ref} :
      r.looks = true → Tidy ctx writes prefixes before (ask r) fun _ => before
  | null : Tidy ctx writes prefixes 0 (ask .null) fun ref => {ref}
  | retain {object : Ref} : Tidy ctx writes prefixes 0 (ask (.retain object)) fun _ => {object}
  /-- A request for a new reference. -/
  | checkedRef {r : Request} {operation : Operation} {answerOf : r.Answer → Option Ref} :
      operation ∈ r.operations →
      (∀ answer, r.acquired answer = (answerOf answer).toList) →
      (∀ answer, r.refused answer = (answerOf answer).isNone) →
      (∀ answer raised, Occurrence.tolerated prefixes ⟨⟨r, answer⟩, raised⟩ = false) →
      Tidy ctx writes prefixes 0 (ask r >>= fun answer => ctx.checkRef operation (answerOf answer))
        fun ref => {ref}
  /-- A request for something else. -/
  | checkedValue {α : Type} {r : Request} {operation : Operation}
      {answerOf : r.Answer → Option α} :
      (r.writes = true → writes = true) →
      operation ∈ r.operations →
      (∀ answer, r.acquired answer = []) →
      (∀ answer, r.refused answer = (answerOf answer).isNone) →
      (∀ answer raised, Occurrence.tolerated prefixes ⟨⟨r, answer⟩, raised⟩ = false) →
      Tidy ctx writes prefixes 0
        (ask r >>= fun answer => ctx.checkValue operation (answerOf answer)) fun _ => 0
  | wrap {object : Ref} : Tidy ctx writes prefixes {object} (ctx.wrap object) fun h => {h.ref}
  | tryImport {name : String} :
      name ∈ prefixes →
      Tidy ctx writes prefixes 0 (Context.tryImport name) fun found => found.toList
  | integerToHost {object : Ref} : Tidy ctx writes prefixes 0 (ctx.integerToHost object) fun _ => 0
  | floatToHost {object : Ref} : Tidy ctx writes prefixes 0 (ctx.floatToHost object) fun _ => 0
  | textToHost {object : Ref} : Tidy ctx writes prefixes 0 (ctx.textToHost object) fun _ => 0
  | bind {α β : Type} {before : Multiset Ref} {middle : α → Multiset Ref}
      {after : β → Multiset Ref} {c : Crossing α} {f : α → Crossing β} :
      Tidy ctx writes prefixes before c middle →
      (∀ a, Tidy ctx writes prefixes (middle a) (f a) after) →
      Tidy ctx writes prefixes before (c >>= f) after
  | releaseAll {refs : List Ref} {before : Multiset Ref} :
      Tidy ctx writes prefixes ((refs : Multiset Ref) + before) (releaseAll refs) fun _ => before
  | owningAll {α : Type} (refs : List Ref) {before : Multiset Ref} {after : α → Multiset Ref}
      {body : Crossing α} :
      Tidy ctx writes prefixes before body after →
      Tidy ctx writes prefixes ((refs : Multiset Ref) + before) (owningAll refs body) after
  | keeping {α : Type} (refs : List Ref) {before : Multiset Ref} {after : α → Multiset Ref}
      {body : Crossing α} :
      Tidy ctx writes prefixes before body after →
      Tidy ctx writes prefixes ((refs : Multiset Ref) + before) (keeping refs body)
        fun a => refs + after a
  | of_eq {α : Type} {before before' : Multiset Ref} {after after' : α → Multiset Ref}
      {c : Crossing α} :
      Tidy ctx writes prefixes before c after → before' = before → (∀ a, after a = after' a) →
      Tidy ctx writes prefixes before' c after'

namespace Tidy

variable {ctx : Context} {writes : Bool} {prefixes : List String} {α β : Type}
  {before : Multiset Ref} {after : α → Multiset Ref}

theorem owning {ref : Ref} {body : Crossing α}
    (hbody : Tidy ctx writes prefixes before body after) :
    Tidy ctx writes prefixes ({ref} + before) (Crossing.owning ref body) after :=
  owningAll [ref] hbody

/-- A crossing that gives one reference back and needs no other. -/
theorem owning_only {ref : Ref} {body : Crossing α}
    (hbody : Tidy ctx writes prefixes 0 body after) :
    Tidy ctx writes prefixes {ref} (Crossing.owning ref body) after :=
  of_eq (owning hbody) (add_zero _).symm fun _ => rfl

/-- One new reference for each element, all of them or none. -/
theorem acquireEach {acquire : β → Crossing Ref}
    (hacquire : ∀ x, Tidy ctx writes prefixes 0 (acquire x) fun ref => {ref}) (xs : List β) :
    Tidy ctx writes prefixes 0 (acquireEach acquire xs) fun refs => (refs : Multiset Ref) := by
  induction xs with
  | nil => exact pure rfl
  | cons x xs ih =>
      apply bind (hacquire x)
      intro ref
      apply bind (of_eq (keeping [ref] ih) (add_zero _).symm fun _ => rfl)
      intro refs
      exact pure rfl

/-- Crossings that hold nothing between them, one for each element. -/
theorem mapM {f : β → Crossing α} (hf : ∀ x, Tidy ctx writes prefixes 0 (f x) fun _ => 0)
    (xs : List β) : Tidy ctx writes prefixes 0 (xs.mapM f) fun _ => 0 := by
  induction xs with
  | nil =>
      rw [List.mapM_nil]
      exact pure rfl
  | cons x xs ih =>
      rw [List.mapM_cons]
      apply bind (hf x)
      intro y
      apply bind ih
      intro ys
      exact pure rfl

end Tidy
end Crossing
end ForeignBridge
