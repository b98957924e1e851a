import Mathlib.Algebra.Order.Sub.Unbundled.Basic
import Mathlib.Tactic.Abel
import ForeignBridge.Proofs.Crossing.Tidy
import ForeignBridge.Proofs.Simulation.Returns

/-!
# Ownership

The protocol of ownership counts the references that a program holds.  An answer may bring new
ones, and only a reference that is held may be given back.

A crossing that owns some references takes them over when it begins.  If it succeeds it holds those
that come with its result, and if it fails it holds none: everything was given back on the way out.
-/

namespace ForeignBridge

/-- The conversation of a program that holds a multiset of references. -/
def ownership : Protocol (Multiset Ref) where
  allows held r := ∀ ref ∈ r.returned, ref ∈ held
  next held r answer after :=
    (r.returned.toList : Multiset Ref) + after = (r.acquired answer : Multiset Ref) + held
  breaksOff _ := True

variable {α β : Type}

theorem Program.follows_releaseAll {refs : List Ref} {post : Unit → Multiset Ref → Prop}
    {held frame : Multiset Ref} (hheld : held = (refs : Multiset Ref) + frame)
    (hpost : post () frame) : (releaseAll refs).Follows ownership post held := by
  induction refs generalizing held with
  | nil =>
      have hframe : held = frame := by rw [hheld, Multiset.coe_nil, zero_add]
      rw [hframe]
      exact hpost
  | cons ref rest ih =>
      constructor
      · intro other hother
        have href : ref = other := Option.some.inj hother
        rw [hheld, ← href]
        simp
      · intro answer after hnext
        apply ih
        have hcons : (([ref] : List Ref) : Multiset Ref) + after =
            ([ref] : List Ref) + ((rest : Multiset Ref) + frame) := by
          rw [← add_assoc, Multiset.coe_add]
          calc (([ref] : List Ref) : Multiset Ref) + after = 0 + held := hnext
            _ = _ := by rw [zero_add, hheld]; rfl
        exact add_left_cancel hcons

/-- A runtime keeps to the protocol if each answer leaves it sound with what comes with the answer in
place of what was given back. -/
theorem ownership_keptBy {σ : Type} {answer : (r : Request) → Attempt σ r.Answer}
    {sound : σ → Multiset Ref → Prop}
    (hanswer : ∀ (r : Request) s held, sound s ((r.returned.toList : Multiset Ref) + held) →
      (answer r).Returns s fun given s' => sound s' ((r.acquired given : Multiset Ref) + held))
    (held : Multiset Ref) :
    ownership.KeptBy answer (fun owned s => sound s (owned + held)) fun _ => True := by
  constructor
  · intro owned s r hs hallowed
    have hreturned : (r.returned.toList : Multiset Ref) ≤ owned := by
      cases hgone : r.returned with
      | none => exact Multiset.zero_le owned
      | some ref => exact Multiset.singleton_le.2 (hallowed ref hgone)
    have hparts : owned + held = (r.returned.toList : Multiset Ref) +
        (owned - r.returned.toList + held) := by
      rw [← add_assoc, add_tsub_cancel_of_le hreturned]
    rw [hparts] at hs
    have hgiven := hanswer r s _ hs
    unfold Attempt.Returns at hgiven
    rcases houtcome : (answer r).outcome s with ⟨outcome, s'⟩
    rw [houtcome] at hgiven
    cases outcome with
    | error panic => exact ⟨trivial, trivial⟩
    | ok given =>
        refine ⟨(r.acquired given : Multiset Ref) + (owned - r.returned.toList), ?_, ?_⟩
        · show (r.returned.toList : Multiset Ref) + _ = _
          rw [add_left_comm, add_tsub_cancel_of_le hreturned]
        · rw [add_assoc]
          exact hgiven
  · exact fun _ _ _ => trivial
  · exact fun _ _ _ => trivial

namespace Crossing

/-- A crossing takes over the references `before`, and holds those of its result if it succeeds
and none if it fails.  It leaves all others alone. -/
def Owns (before : Multiset Ref) (c : Crossing α) (after : α → Multiset Ref) : Prop :=
  ∀ frame : Multiset Ref,
    c.Follows ownership (fun a held => held = after a + frame) (fun _ held => held = frame)
      (before + frame)

namespace Owns

variable {before middle' : Multiset Ref} {middle after : α → Multiset Ref}

theorem of_eq {before' : Multiset Ref} {after' : α → Multiset Ref} {c : Crossing α}
    (h : Owns before c after) (hbefore : before' = before) (hafter : ∀ a, after a = after' a) :
    Owns before' c after' := by
  intro frame
  rw [hbefore]
  refine follows_mono (fun a held hheld => ?_) (fun e held hheld => hheld) (h frame)
  rw [hheld, hafter a]

theorem pure {a : α} (h : before = after a) : Owns before (pure a) after := by
  intro frame
  rw [follows_pure, h]

theorem throw {e : BridgeError} : Owns 0 (throw e) after := by
  intro frame
  rw [follows_throw, zero_add]

theorem abort {panic : Panic} : Owns before (abort panic) after := fun _ => trivial

theorem note {event : Event} : Owns before (note event) fun _ => before := fun _ => rfl

theorem bind {after : β → Multiset Ref} {c : Crossing α} {f : α → Crossing β}
    (hc : Owns before c middle) (hf : ∀ a, Owns (middle a) (f a) after) :
    Owns before (c >>= f) after := by
  intro frame
  rw [follows_bind]
  refine follows_mono (fun a held hheld => ?_) (fun e held hheld => hheld) (hc frame)
  rw [hheld]
  exact hf a frame

/-- A request that gives nothing back brings what comes with its answer. -/
theorem ask {r : Request} (hreturned : r.returned = none) :
    Owns before (ask r) fun answer => (r.acquired answer : Multiset Ref) + before := by
  intro frame
  rw [follows_ask]
  constructor
  · intro ref href
    rw [hreturned] at href
    cases href
  · intro answer held hnext
    have hheld : (r.returned.toList : Multiset Ref) + held =
        (r.acquired answer : Multiset Ref) + (before + frame) := hnext
    rw [hreturned, Option.toList_none, Multiset.coe_nil, zero_add] at hheld
    rw [hheld, add_assoc]

/-- A request for a new reference. -/
theorem obtain {r : Request} (hreturned : r.returned = none) :
    Owns 0 (Crossing.ask r) fun answer => (r.acquired answer : Multiset Ref) :=
  (ask hreturned).of_eq rfl fun _ => add_zero _

/-- A request that only looks. -/
theorem look {r : Request} (hreturned : r.returned = none)
    (hacquired : ∀ answer, r.acquired answer = []) :
    Owns before (Crossing.ask r) fun _ => before := by
  refine (ask hreturned).of_eq rfl fun answer => ?_
  rw [hacquired answer, Multiset.coe_nil, zero_add]

theorem releaseAll {refs : List Ref} :
    Owns ((refs : Multiset Ref) + before) (releaseAll refs) fun _ => before := by
  intro frame
  rw [Crossing.follows_releaseAll]
  exact Program.follows_releaseAll (add_assoc _ _ _) rfl

theorem owningAll (refs : List Ref) {body : Crossing α} (hbody : Owns before body after) :
    Owns ((refs : Multiset Ref) + before) (owningAll refs body) after := by
  intro frame
  have hframe : (refs : Multiset Ref) + before + frame = before + (refs + frame) := by abel
  rw [follows_owningAll, hframe]
  refine follows_mono (fun a held hheld => ?_) (fun e held hheld => ?_) (hbody (refs + frame))
  · exact Program.follows_releaseAll (hheld.trans (add_left_comm _ _ _)) rfl
  · exact Program.follows_releaseAll hheld rfl

theorem keeping (refs : List Ref) {body : Crossing α} (hbody : Owns before body after) :
    Owns ((refs : Multiset Ref) + before) (keeping refs body) fun a => refs + after a := by
  intro frame
  have hframe : (refs : Multiset Ref) + before + frame = before + (refs + frame) := by abel
  rw [follows_keeping, hframe]
  refine follows_mono (fun a held hheld => ?_) (fun e held hheld => ?_) (hbody (refs + frame))
  · rw [hheld, add_left_comm, add_assoc]
  · exact Program.follows_releaseAll hheld rfl

end Owns
end Crossing

namespace Context

open Crossing

variable (ctx : Context)

/-!
# Parts
-/

theorem owns_fail (operation : Operation) (diagnostic : Option Diagnostic)
    {after : α → Multiset Ref} : Owns 0 (ctx.fail operation diagnostic) after := by
  unfold fail
  cases ctx.settings.debug with
  | false => exact Owns.throw
  | true => exact Owns.bind Owns.note fun _ => Owns.throw

theorem owns_checkRef (operation : Operation) (answer : Option Ref) :
    Owns (answer.toList : Multiset Ref) (ctx.checkRef operation answer) fun ref => {ref} := by
  unfold checkRef
  apply Owns.bind (Owns.look rfl fun _ => rfl)
  intro pending
  cases pending with
  | true =>
      apply Owns.bind (Owns.look rfl fun _ => rfl)
      intro diagnostic
      apply Owns.bind (Owns.releaseAll.of_eq (add_zero _).symm fun _ => rfl)
      intro _
      exact ctx.owns_fail operation diagnostic
  | false =>
      cases answer with
      | some ref => exact Owns.pure rfl
      | none => exact ctx.owns_fail operation none

theorem owns_checkValue (operation : Operation) (answer : Option α) :
    Owns 0 (ctx.checkValue operation answer) fun _ => 0 := by
  unfold checkValue
  apply Owns.bind (Owns.look rfl fun _ => rfl)
  intro pending
  cases pending with
  | true =>
      apply Owns.bind (Owns.look rfl fun _ => rfl)
      intro diagnostic
      exact ctx.owns_fail operation diagnostic
  | false =>
      cases answer with
      | some value => exact Owns.pure rfl
      | none => exact ctx.owns_fail operation none

theorem owns_clearError {held : Multiset Ref} : Owns held clearError fun _ => held := by
  unfold clearError
  apply Owns.bind (Owns.look rfl fun _ => rfl)
  intro pending
  cases pending with
  | true => exact Owns.look rfl fun _ => rfl
  | false => exact Owns.pure rfl

theorem owns_refuse (fault : ConversionFault) {after : α → Multiset Ref} :
    Owns 0 (refuse fault) after := Owns.throw

theorem owns_wrap (object : Ref) : Owns {object} (ctx.wrap object) fun h => {h.ref} := by
  unfold wrap
  apply Owns.bind (Owns.look rfl fun _ => rfl)
  intro name
  apply Owns.bind owns_clearError
  intro _
  exact Owns.pure rfl

theorem owns_extractionFailed (value : Option Int) :
    Owns 0 (extractionFailed value) fun _ => 0 := by
  unfold extractionFailed
  cases value with
  | none => exact Owns.look rfl fun _ => rfl
  | some _ => exact Owns.pure rfl

theorem owns_integerToHost (object : Ref) : Owns 0 (ctx.integerToHost object) fun _ => 0 := by
  unfold integerToHost
  apply Owns.bind (Owns.look rfl fun _ => rfl)
  intro hint
  apply Owns.bind (Owns.look rfl fun _ => rfl)
  intro value
  apply Owns.bind (owns_extractionFailed value)
  intro failed
  cases failed with
  | true =>
      apply Owns.bind (Owns.look rfl fun _ => rfl)
      intro diagnostic
      exact Owns.throw
  | false =>
      apply Owns.bind (ctx.owns_checkValue .packInteger value)
      intro value
      cases HostInt.ofInt ((hint.filter NumericKind.isInteger).getD .int64) value with
      | ok i => exact Owns.pure rfl
      | error fault => exact Owns.throw

theorem owns_floatToHost (object : Ref) : Owns 0 (ctx.floatToHost object) fun _ => 0 := by
  unfold floatToHost
  apply Owns.bind (Owns.look rfl fun _ => rfl)
  intro hint
  apply Owns.bind (Owns.look rfl fun _ => rfl)
  intro value
  apply Owns.bind (ctx.owns_checkValue .packFloat (some value))
  intro value
  cases HostFloat.ofDouble ((hint.filter NumericKind.isFloat).getD .double) value with
  | ok x => exact Owns.pure rfl
  | error fault => exact Owns.throw

theorem owns_textToHost (object : Ref) : Owns 0 (ctx.textToHost object) fun _ => 0 := by
  unfold textToHost
  apply Owns.bind (Owns.look rfl fun _ => rfl)
  intro answer
  cases answer with
  | none =>
      apply Owns.bind owns_clearError
      intro diagnostic
      exact owns_refuse _
  | some bytes =>
      apply Owns.bind (ctx.owns_checkValue .packString (some bytes))
      intro bytes
      cases Utf8.decode bytes with
      | ok text => exact Owns.pure rfl
      | error fault => exact owns_refuse _

theorem owns_tryImport (name : String) :
    Owns 0 (tryImport name) fun found => (found.toList : Multiset Ref) := by
  unfold tryImport
  apply Owns.bind (Owns.obtain rfl)
  intro found
  apply Owns.bind owns_clearError
  intro pending
  cases pending with
  | some diagnostic =>
      apply Owns.bind (Owns.releaseAll.of_eq (add_zero _).symm fun _ => rfl)
      intro _
      apply Owns.bind Owns.note
      intro _
      exact Owns.pure rfl
  | none => exact Owns.pure rfl

end Context

/-- A request that is part of an operation gives nothing back. -/
theorem returned_of_operations {r : Request} {operation : Operation}
    (h : operation ∈ r.operations) : r.returned = none := by
  cases r with
  | release object => cases h
  | _ => rfl

/-- A tidy crossing holds in the end what is written down beside it. -/
theorem Crossing.Tidy.owns {ctx : Context} {writes : Bool} {prefixes : List String}
    {before : Multiset Ref} {c : Crossing α} {after : α → Multiset Ref}
    (h : Tidy ctx writes prefixes before c after) :
    Owns before c after := by
  induction h with
  | pure h => exact Owns.pure h
  | throw _ => exact Owns.throw
  | abort => exact Owns.abort
  | note _ => exact Owns.note
  | @look r before hlooks =>
      cases r with
      | kindOf _ | isCallable _ | supportsIndexing _ | boolValue _ =>
          exact Owns.look rfl fun _ => rfl
      | _ => cases hlooks
  | null => exact Owns.obtain rfl
  | retain => exact Owns.obtain rfl
  | @checkedRef r operation answerOf hoperation hacquired _ _ =>
      apply Owns.bind (Owns.obtain (returned_of_operations hoperation))
      intro answer
      rw [hacquired answer]
      exact ctx.owns_checkRef operation (answerOf answer)
  | @checkedValue α r operation answerOf _ hoperation hacquired _ _ =>
      apply Owns.bind (Owns.look (returned_of_operations hoperation) hacquired)
      intro answer
      exact ctx.owns_checkValue operation (answerOf answer)
  | wrap => exact ctx.owns_wrap _
  | tryImport _ => exact Context.owns_tryImport _
  | integerToHost => exact ctx.owns_integerToHost _
  | floatToHost => exact ctx.owns_floatToHost _
  | textToHost => exact ctx.owns_textToHost _
  | bind _ _ ihc ihf => exact Owns.bind ihc ihf
  | releaseAll => exact Owns.releaseAll
  | owningAll refs _ ih => exact Owns.owningAll refs ih
  | keeping refs _ ih => exact Owns.keeping refs ih
  | of_eq _ hbefore hafter ih => exact ih.of_eq hbefore hafter

end ForeignBridge
