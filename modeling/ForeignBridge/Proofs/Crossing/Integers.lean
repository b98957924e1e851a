import Mathlib
import ForeignBridge.Crossing.ToHost
import ForeignBridge.Proofs.Crossing.Success
import ForeignBridge.Proofs.Number.Exactness
import ForeignBridge.Simulation.Runtime

/-!
# Integers from a runtime

A runtime hands over an integer with a hint of its kind.  Whatever it answers, the host gets the very
integer, of the kind of the hint or of kind `int64`, or an overflow that names the kind.  A hint that is
no integer kind is none, and for one that contradicts the integer nothing is ever cut off.
-/

namespace ForeignBridge
namespace Context

open Crossing

/-- The kind of an integer with a hint: that of the hint, if it is an integer kind. -/
def hintedKind : Option NumericKind → NumericKind
  | some kind => if kind.isInteger then kind else .int64
  | none => .int64

theorem hintedKind_eq (hint : Option NumericKind) :
    (hint.filter NumericKind.isInteger).getD .int64 = hintedKind hint := by
  cases hint with
  | none => rfl
  | some kind => cases kind <;> rfl

theorem isInteger_hintedKind (hint : Option NumericKind) : (hintedKind hint).isInteger = true := by
  cases hint with
  | none => rfl
  | some kind => cases kind <;> rfl

/-- What a value with a hint becomes.  The sentinel of a failure without an error is a failure too. -/
def hintedInt (hint : Option NumericKind) : Option Int → Except BridgeError HostInt
  | some value => (HostInt.ofInt (hintedKind hint) value).mapError .ofNumeric
  | none => .error (.foreignRuntime .packInteger "operation failed")

theorem hintedInt_of_spans {hint : Option NumericKind} {v : Int} (h : (hintedKind hint).Spans v) :
    ∃ i : HostInt, i.kind = hintedKind hint ∧ i.value = v ∧ hintedInt hint (some v) = .ok i := by
  have hholds := (NumericKind.holds_iff_spans (isInteger_hintedKind hint)).2 h
  refine ⟨⟨hintedKind hint, v, hholds⟩, rfl, rfl, ?_⟩
  dsimp only [hintedInt]
  rw [HostInt.ofInt_of_spans (isInteger_hintedKind hint) h]
  rfl

theorem hintedInt_of_not_spans {hint : Option NumericKind} {v : Int}
    (h : ¬ (hintedKind hint).Spans v) :
    hintedInt hint (some v) = .error (.overflow (toString v) (hintedKind hint).name) := by
  dsimp only [hintedInt]
  rw [HostInt.ofInt_of_not_spans (isInteger_hintedKind hint) h]
  rfl

variable {σ : Type} {answer : (r : Request) → Attempt σ r.Answer} {object : Ref}
  {hint : Option NumericKind} {value : Option Int} {s t : σ}

/-- What a runtime answers for the value of an object, with no error pending after it.  After the
sentinel of a failure it is asked for an error twice. -/
inductive Extracts (answer : (r : Request) → Attempt σ r.Answer) (object : Ref) :
    Option Int → σ → σ → Prop where
  | value {v : Int} {s s' t : σ}
      (hvalue : (answer (.intValue object)).outcome s = (.ok (some v), s'))
      (hcalm : (answer .errorPending).outcome s' = (.ok false, t)) :
      Extracts answer object (some v) s t
  | sentinel {s s' s'' t : σ}
      (hnone : (answer (.intValue object)).outcome s = (.ok none, s'))
      (hcalm : (answer .errorPending).outcome s' = (.ok false, s''))
      (hstill : (answer .errorPending).outcome s'' = (.ok false, t)) :
      Extracts answer object none s t

/-- A runtime calls an object an integer, answers for its kind and its value, and takes the reference
back. -/
inductive HandsOver (answer : (r : Request) → Attempt σ r.Answer) (object : Ref)
    (hint : Option NumericKind) (value : Option Int) : σ → σ → Prop where
  | intro {s s₁ s₂ s₃ t : σ}
      (hkind : (answer (.kindOf object)).outcome s = (.ok .integer, s₁))
      (hhint : (answer (.numericKind object)).outcome s₁ = (.ok hint, s₂))
      (hvalue : Extracts answer object value s₂ s₃)
      (hrelease : (answer (.release object)).outcome s₃ = (.ok (), t)) :
      HandsOver answer object hint value s t

variable (ctx : Context)

theorem comes_integerToHost {s₁ s₂ : σ}
    (hhint : (answer (.numericKind object)).outcome s = (.ok hint, s₁))
    (hvalue : Extracts answer object value s₁ s₂) :
    (ctx.integerToHost object).Comes answer s (hintedInt hint value) s₂ := by
  unfold integerToHost
  apply Comes.bind (Comes.ask hhint)
  cases hvalue with
  | @value v _ _ _ hvalue hcalm =>
      apply Comes.bind (Comes.ask hvalue)
      apply Comes.bind Comes.pure
      have hchecked : (ctx.checkValue .packInteger (some v)).Comes answer _ (.ok v) _ :=
        Comes.bind (Comes.ask hcalm) Comes.pure
      apply Comes.bind hchecked
      rw [hintedKind_eq]
      dsimp only [hintedInt]
      cases HostInt.ofInt (hintedKind hint) v with
      | ok i => exact Comes.pure
      | error fault => exact Comes.throw
  | sentinel hnone hcalm hstill =>
      apply Comes.bind (Comes.ask hnone)
      apply Comes.bind (Comes.ask hcalm)
      exact Comes.bind_error (Comes.bind (Comes.ask hstill) (ctx.comes_fail .packInteger none))

/-- An integer object is packed as the value that the runtime hands over. -/
theorem comes_toHost_integer (h : HandsOver answer object hint value s t) :
    (ctx.toHost object).Comes answer s ((hintedInt hint value).map fun i => .scalar (.int i)) t := by
  cases h with
  | intro hkind hhint hvalue hrelease =>
      apply Comes.bind (Comes.ask hkind)
      exact Comes.owningAll (ctx.comes_integerToHost hhint hvalue).map
        (.ask hrelease (.done () t))

/-- The host gets the very integer that a runtime hands over, or an overflow that names its kind. -/
structure TakesOver (answer : (r : Request) → Attempt σ r.Answer) (object : Ref)
    (hint : Option NumericKind) (value : Option Int) (s t : σ) : Prop where
  taken : ∀ v, value = some v → (hintedKind hint).Spans v → ∃ i : HostInt,
    i.kind = hintedKind hint ∧ i.value = v ∧
      (ctx.toHost object).Comes answer s (.ok (.scalar (.int i))) t
  overflows : ∀ v, value = some v → ¬ (hintedKind hint).Spans v →
    (ctx.toHost object).Comes answer s (.error (.overflow (toString v) (hintedKind hint).name)) t
  sentinel : value = none → (ctx.toHost object).Comes answer s
    (.error (.foreignRuntime .packInteger "operation failed")) t

/-- No integer is ever truncated.  A number of a kind is made of a wide integer exactly if the kind is
an integer kind and its width and signedness have the integer, and is the very integer then; scalars
agree, and the other kinds take any wide integer.  An integer of a runtime comes to the host as it is,
of the kind that the runtime hints at, or as an overflow of that kind. -/
theorem never_truncated (answer : (r : Request) → Attempt σ r.Answer) :
    (∀ kind wide, HostInt.MadeExactly kind wide) ∧
      ∀ (ctx : Context) (object : Ref) (hint : Option NumericKind) (value : Option Int) (s t : σ),
        HandsOver answer object hint value s t → ctx.TakesOver answer object hint value s t := by
  refine ⟨HostInt.madeExactly, fun ctx object hint value s t h => ?_⟩
  have hcomes := ctx.comes_toHost_integer h
  constructor
  case taken =>
    rintro v rfl hspans
    obtain ⟨i, hkind, hvalue, hi⟩ := hintedInt_of_spans hspans
    rw [hi] at hcomes
    exact ⟨i, hkind, hvalue, hcomes⟩
  case overflows =>
    rintro v rfl hspans
    rw [hintedInt_of_not_spans hspans] at hcomes
    exact hcomes
  case sentinel =>
    rintro rfl
    exact hcomes

/-!
An integer with a hint that contradicts it.
-/

/-- A running runtime with an integer that is too large for the kind it is said to have. -/
def sampleOversize : Simulation where
  heap := ⟨#[none, some ⟨1, .null, Nat.one_pos⟩, some ⟨2, .int 300 (some .uint8), Nat.two_pos⟩]⟩
  modules := .empty
  phase := .running
  startCount := 1
  refusesStart := false
  searchPaths := []
  pending := none
  called := []
  names := .empty

theorem overflow_of_sampleOversize :
    ∃ t, HandsOver (Simulation.answer (Simulation.run 1)) ⟨2⟩ (some .uint8) (some 300)
        sampleOversize t ∧
      (toHost ⟨0, "sim", {}, 1⟩ ⟨2⟩).Comes (Simulation.answer (Simulation.run 1)) sampleOversize
        (.error (.overflow "300" "uint8")) t := by
  have hspans : ¬ (hintedKind (some .uint8)).Spans 300 := by
    rw [← NumericKind.holds_iff_spans rfl]
    decide
  have hvalue : Extracts (Simulation.answer (Simulation.run 1)) ⟨2⟩ (some 300) sampleOversize
      sampleOversize := by
    have hvalue : (Simulation.answer (Simulation.run 1) (.intValue ⟨2⟩)).outcome sampleOversize =
        (.ok (some 300), sampleOversize) := rfl
    exact .value hvalue rfl
  have hkind : (Simulation.answer (Simulation.run 1) (.kindOf ⟨2⟩)).outcome sampleOversize =
      (.ok .integer, sampleOversize) := rfl
  have hhint : (Simulation.answer (Simulation.run 1) (.numericKind ⟨2⟩)).outcome sampleOversize =
      (.ok (some .uint8), sampleOversize) := rfl
  have hrelease : (Simulation.answer (Simulation.run 1) (.release ⟨2⟩)).outcome sampleOversize =
      (.ok (), ((Simulation.answer (Simulation.run 1) (.release ⟨2⟩)).outcome sampleOversize).2) :=
    Prod.ext (by cbv) rfl
  have hhands : HandsOver (Simulation.answer (Simulation.run 1)) ⟨2⟩ (some .uint8) (some 300)
      sampleOversize _ := .intro hkind hhint hvalue hrelease
  exact ⟨_, hhands, ((never_truncated _).2 ⟨0, "sim", {}, 1⟩ ⟨2⟩ _ _ _ _ hhands).overflows 300 rfl
    hspans⟩

end Context
end ForeignBridge
