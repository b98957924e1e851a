import ForeignBridge.Proofs.Crossing.Service

/-!
# Confinement

A confined crossing writes into objects only if it may, whatever the runtime answers, and breaks off
only in ways that are expected.  A tidy crossing is confined to what is written down beside it: the
only thing that it breaks off for is that the host converts too deep.
-/

namespace ForeignBridge

/-- The conversation of a program that may or may not write. -/
def confinement (writes : Bool) (fine : Panic → Prop) : Protocol Unit where
  allows _ r := r.writes = true → writes = true
  next _ _ _ _ := True
  breaksOff := fine

variable {writes : Bool} {fine : Panic → Prop} {α β : Type}

namespace Crossing

def Confined (writes : Bool) (fine : Panic → Prop) (c : Crossing α) : Prop :=
  c.Follows (confinement writes fine) (fun _ _ => True) (fun _ _ => True) ()

namespace Confined

theorem pure {a : α} : Confined writes fine (pure a : Crossing α) := trivial

theorem throw {e : BridgeError} : Confined writes fine (throw e : Crossing α) := trivial

theorem abort {panic : Panic} (h : fine panic) : Confined writes fine (abort panic : Crossing α) := h

theorem note {event : Event} : Confined writes fine (note event) := trivial

theorem ask {r : Request} (h : r.writes = true → writes = true) : Confined writes fine (ask r) :=
  ⟨h, fun _ _ _ => trivial⟩

/-- A request that writes nothing. -/
theorem look {r : Request} (h : r.writes = false) : Confined writes fine (Crossing.ask r) :=
  ask fun hwrites => absurd (h.symm.trans hwrites) nofun

theorem bind {c : Crossing α} {f : α → Crossing β} (hc : Confined writes fine c)
    (hf : ∀ a, Confined writes fine (f a)) : Confined writes fine (c >>= f) := by
  unfold Confined
  rw [follows_bind]
  exact follows_mono (fun a _ _ => hf a) (fun _ _ h => h) hc

theorem follows_releaseAll (refs : List Ref) {post : Unit → Unit → Prop} (h : post () ()) :
    (Program.releaseAll refs).Follows (confinement writes fine) post () := by
  induction refs with
  | nil => exact h
  | cons ref rest ih => exact ⟨nofun, fun _ _ _ => ih⟩

theorem releaseAll {refs : List Ref} : Confined writes fine (releaseAll refs) := by
  unfold Confined
  rw [Crossing.follows_releaseAll]
  exact follows_releaseAll refs trivial

theorem owningAll {refs : List Ref} {body : Crossing α} (hbody : Confined writes fine body) :
    Confined writes fine (owningAll refs body) := by
  unfold Confined
  rw [follows_owningAll]
  exact follows_mono (fun _ _ _ => follows_releaseAll refs trivial)
    (fun _ _ _ => follows_releaseAll refs trivial) hbody

theorem keeping {refs : List Ref} {body : Crossing α} (hbody : Confined writes fine body) :
    Confined writes fine (keeping refs body) := by
  unfold Confined
  rw [follows_keeping]
  exact follows_mono (fun _ _ h => h) (fun _ _ _ => follows_releaseAll refs trivial) hbody

/-- A crossing that may write need not do so. -/
theorem may {c : Crossing α} (h : Confined writes fine c) : Confined true fine c := by
  have hprogram : ∀ p : Program (Except BridgeError α), ∀ post : Except BridgeError α → Unit → Prop,
      p.Follows (confinement writes fine) post () → p.Follows (confinement true fine) post () := by
    intro p post hp
    induction p with
    | done result => exact hp
    | abort panic => exact hp
    | ask r next ih => exact ⟨fun _ => rfl, fun answer _ _ => ih answer (hp.2 answer () trivial)⟩
    | note event next ih => exact ih hp
  exact hprogram c.run _ h

end Confined
end Crossing

namespace Context

open Crossing

variable (ctx : Context)

/-!
# Parts
-/

theorem confined_fail (operation : Operation) (diagnostic : Option Diagnostic) :
    Confined writes fine (ctx.fail operation diagnostic : Crossing α) := by
  unfold fail
  cases ctx.settings.debug with
  | false => exact Confined.throw
  | true => exact Confined.bind Confined.note fun _ => Confined.throw

theorem confined_checkRef (operation : Operation) (answer : Option Ref) :
    Confined writes fine (ctx.checkRef operation answer) := by
  unfold checkRef
  apply Confined.bind (Confined.look rfl)
  intro pending
  cases pending with
  | true =>
      apply Confined.bind (Confined.look rfl)
      intro diagnostic
      apply Confined.bind Confined.releaseAll
      intro _
      exact ctx.confined_fail operation diagnostic
  | false =>
      cases answer with
      | some ref => exact Confined.pure
      | none => exact ctx.confined_fail operation none

theorem confined_checkValue (operation : Operation) (answer : Option α) :
    Confined writes fine (ctx.checkValue operation answer) := by
  unfold checkValue
  apply Confined.bind (Confined.look rfl)
  intro pending
  cases pending with
  | true =>
      apply Confined.bind (Confined.look rfl)
      intro diagnostic
      exact ctx.confined_fail operation diagnostic
  | false =>
      cases answer with
      | some value => exact Confined.pure
      | none => exact ctx.confined_fail operation none

theorem confined_clearError : Confined writes fine clearError := by
  unfold clearError
  apply Confined.bind (Confined.look rfl)
  intro pending
  cases pending with
  | true => exact Confined.look rfl
  | false => exact Confined.pure

theorem confined_wrap (object : Ref) : Confined writes fine (ctx.wrap object) := by
  unfold wrap
  apply Confined.bind (Confined.look rfl)
  intro name
  apply Confined.bind confined_clearError
  intro _
  exact Confined.pure

theorem confined_extractionFailed (value : Option Int) :
    Confined writes fine (extractionFailed value) := by
  unfold extractionFailed
  cases value with
  | none => exact Confined.look rfl
  | some _ => exact Confined.pure

theorem confined_integerToHost (object : Ref) : Confined writes fine (ctx.integerToHost object) := by
  unfold integerToHost
  apply Confined.bind (Confined.look rfl)
  intro hint
  apply Confined.bind (Confined.look rfl)
  intro value
  apply Confined.bind (confined_extractionFailed value)
  intro failed
  cases failed with
  | true => exact Confined.bind (Confined.look rfl) fun _ => Confined.throw
  | false =>
      apply Confined.bind (ctx.confined_checkValue .packInteger value)
      intro value
      cases HostInt.ofInt ((hint.filter NumericKind.isInteger).getD .int64) value with
      | ok i => exact Confined.pure
      | error fault => exact Confined.throw

theorem confined_floatToHost (object : Ref) : Confined writes fine (ctx.floatToHost object) := by
  unfold floatToHost
  apply Confined.bind (Confined.look rfl)
  intro hint
  apply Confined.bind (Confined.look rfl)
  intro value
  apply Confined.bind (ctx.confined_checkValue .packFloat (some value))
  intro value
  cases HostFloat.ofDouble ((hint.filter NumericKind.isFloat).getD .double) value with
  | ok x => exact Confined.pure
  | error fault => exact Confined.throw

theorem confined_textToHost (object : Ref) : Confined writes fine (ctx.textToHost object) := by
  unfold textToHost
  apply Confined.bind (Confined.look rfl)
  intro answer
  cases answer with
  | none => exact Confined.bind confined_clearError fun _ => Confined.throw
  | some bytes =>
      apply Confined.bind (ctx.confined_checkValue .packString (some bytes))
      intro bytes
      cases Utf8.decode bytes with
      | ok text => exact Confined.pure
      | error fault => exact Confined.throw

theorem confined_tryImport (name : String) : Confined writes fine (tryImport name) := by
  unfold tryImport
  apply Confined.bind (Confined.look rfl)
  intro found
  apply Confined.bind confined_clearError
  intro pending
  cases pending with
  | some diagnostic =>
      apply Confined.bind Confined.releaseAll
      intro _
      exact Confined.bind Confined.note fun _ => Confined.pure
  | none => exact Confined.pure

end Context

/-- A request for a new reference writes nothing, since a write is refused without one. -/
theorem writes_eq_false_of_acquired {r : Request} {answerOf : r.Answer → Option Ref}
    (hacquired : ∀ answer, r.acquired answer = (answerOf answer).toList)
    (hrefused : ∀ answer, r.refused answer = (answerOf answer).isNone) : r.writes = false := by
  have hwrites : ∀ answered : r.Answer, r.refused answered = false → r.acquired answered ≠ [] := by
    intro answered haccepted hnone
    rw [hacquired answered, Option.toList_eq_nil_iff] at hnone
    rw [hrefused answered, hnone] at haccepted
    cases haccepted
  cases r with
  | setAttr _ _ _ | setItem _ _ _ => exact absurd rfl (hwrites true rfl)
  | _ => rfl

/-- A tidy crossing is confined to what is written down beside it. -/
theorem Crossing.Tidy.confined {ctx : Context} {prefixes : List String} {before : Multiset Ref}
    {c : Crossing α} {after : α → Multiset Ref} (h : Tidy ctx writes prefixes before c after)
    (hdeep : fine .nestedTooDeep) : Confined writes fine c := by
  induction h with
  | pure _ => exact Confined.pure
  | throw _ => exact Confined.throw
  | abort => exact Confined.abort hdeep
  | note _ => exact Confined.note
  | @look r before hlooks =>
      cases r with
      | kindOf _ | isCallable _ | supportsIndexing _ | boolValue _ => exact Confined.look rfl
      | _ => cases hlooks
  | null => exact Confined.look rfl
  | retain => exact Confined.look rfl
  | @checkedRef r operation answerOf _ hacquired hrefused _ =>
      apply Confined.bind (Confined.look (writes_eq_false_of_acquired hacquired hrefused))
      intro answer
      exact ctx.confined_checkRef operation (answerOf answer)
  | @checkedValue α r operation answerOf hwrites _ _ _ _ =>
      apply Confined.bind (Confined.ask hwrites)
      intro answer
      exact ctx.confined_checkValue operation (answerOf answer)
  | wrap => exact ctx.confined_wrap _
  | tryImport _ => exact Context.confined_tryImport _
  | integerToHost => exact ctx.confined_integerToHost _
  | floatToHost => exact ctx.confined_floatToHost _
  | textToHost => exact ctx.confined_textToHost _
  | bind _ _ ihc ihf => exact Confined.bind ihc ihf
  | releaseAll => exact Confined.releaseAll
  | owningAll _ _ ih => exact Confined.owningAll ih
  | keeping _ _ ih => exact Confined.keeping ih
  | of_eq _ _ _ ih => exact ih

end ForeignBridge
