import ForeignBridge.Proofs.Interpreter.Bare
import ForeignBridge.Proofs.Interpreter.Representing
import ForeignBridge.Proofs.Session.Serving

/-!
# Round trips through an interpreter

A host value that a started bridge takes to its interpreter and reads back at once becomes the normal
form of what is kept of its numbers.  The trip fails only over an integer that is too large for the kind
that it is read back as, and only if it is read back at all.
-/

namespace ForeignBridge

namespace Value

/-- What an interpreter keeps of a value: the rows of its matrices, with integers of kind `int64` and
doubles.  An integer that is too large stays as it is, in a list that is not read back. -/
def erased (v : Value) : Value := v.spread.onScalars Scalar.erased

/-- An integer of the upper half of the kind `uint64` stands where it is read back. -/
def Exceeds (v : Value) (i : HostInt) : Prop :=
  .int i ∈ v.spread.extracted ∧ i.kind = .uint64 ∧ 0x7fffffffffffffff < i.value

theorem exists_exceeds {v : Value} {error : BridgeError}
    (herror : v.spread.extracted.findSome? Scalar.excess? = some error) :
    ∃ i, v.Exceeds i ∧ error = .overflow (toString i.value) "int64" := by
  obtain ⟨n, hn, hexcess⟩ := List.exists_of_findSome?_eq_some herror
  obtain ⟨i, rfl, hkind, hlarge, rfl⟩ := Scalar.excess?_eq_some_iff.1 hexcess
  exact ⟨i, ⟨hn, hkind, hlarge⟩, rfl⟩

theorem not_exceeds {v : Value} (hnone : v.spread.extracted.findSome? Scalar.excess? = none)
    (i : HostInt) : ¬ v.Exceeds i := by
  rintro ⟨hi, hkind, hlarge⟩
  have hexcess := Scalar.excess?_eq_some_iff.2 ⟨i, rfl, hkind, hlarge, rfl⟩
  rw [List.findSome?_eq_none_iff.1 hnone _ hi] at hexcess
  cases hexcess

end Value

namespace Session
namespace World

variable {w : World} {index : Nat} {bridge : Bridge} {connection : Connection} {s : Interpreter}

/-- A started bridge to an interpreter that has only the unique objects. -/
def sampleInterpreted : World where
  runtimes := #[.interpreted (Interpreter.bare [])]
  phases := [(.process, .started)]
  bridges := #[⟨some ⟨0, .process, true⟩, {}⟩]
  bindings := .empty
  events := []
  nesting := 1

def sampleLarge : Value := .scalar (.int ⟨.uint64, 0x8000000000000000, by decide⟩)

def sampleBuried : Value :=
  .cell [.foreign ⟨0, ⟨781⟩, "type"⟩, .scalar (.int ⟨.uint8, 5, by decide⟩),
    .cell [.cell [sampleLarge]]]

end World
end Session
end ForeignBridge
