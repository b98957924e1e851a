import ForeignBridge.Proofs.Fields.Interpreted
import ForeignBridge.Proofs.Fields.Simulated
import ForeignBridge.Proofs.Interpreter.Bare
import ForeignBridge.Proofs.Session.Safety

/-!
# Fields on different runtimes

Two started bridges, one to a simulated runtime and one to an interpreter, serve the same operations
on the fields of an empty bag alike, however many there are: both serve them as a table of texts
would.
-/

namespace ForeignBridge

namespace FieldOperation

/-- What comes of operations on a table of texts, one after another. -/
def replies (bag : Handle) (t : Table String) :
    List FieldOperation → List (Except Session.Failure Reply)
  | [] => []
  | op :: ops => (op.reply bag t).mapError .bridge :: replies bag (op.after t) ops

/-- What comes of an operation on either of two bags is the same, but for a handle of the bag
itself. -/
def Same (bag other : Handle) (a b : Except Session.Failure Reply) : Prop :=
  a = b ∨ a = .ok (.value (.foreign bag)) ∧ b = .ok (.value (.foreign other))

theorem same_replies (bag other : Handle) (t : Table String) (ops : List FieldOperation) :
    List.Forall₂ (Same bag other) (replies bag t ops) (replies other t ops) := by
  induction ops generalizing t with
  | nil => exact .nil
  | cons op ops ih =>
      refine .cons ?_ (ih (op.after t))
      cases op with
      | assign name text => exact .inr ⟨rfl, rfl⟩
      | _ => exact .inl rfl

end FieldOperation

namespace Session
namespace World

open FieldOperation

/-- What comes of requests to a bridge, one after another. -/
def history (index : Nat) : List Entry → World → List (Except Failure Reply)
  | [], _ => []
  | entry :: entries, w =>
    (w.served index entry).1 :: history index entries (w.served index entry).2

variable {σ : Type} {B : Backend σ} {w : World} {index : Nat} {bridge : Bridge}
  {connection : Connection} {s : σ}

/-!
# Histories
-/

/-- A runtime that keeps the fields of a bag serves operations as the table of the fields says. -/
theorem history_eq_replies (hdrives : B.Drives connection) {S : FieldStore σ}
    (hanswer : S.answer = B.answer) (hS : S.Serves)
    (hconnected : w.Connected index bridge connection)
    (hstarted : w.phaseOf connection.lifecycle = .started)
    (hruntime : w.runtimes[connection.runtime]? = some (B.runtime s)) {bag : Handle}
    (hbag : bag.ref = S.bag) (hown : bag.context = index) {t : Table String} (hs : S.Holds t 0 s)
    {ops : List FieldOperation} (hplain : ∀ op ∈ ops, op.Plain) :
    w.history index (ops.map (entry bag)) = replies bag t ops := by
  -- What carries over from one operation to the next is the gates of the world, and that the bag
  -- has the fields of the table.
  induction ops generalizing w t s with
  | nil => rfl
  | cons op ops ih =>
      rw [List.forall_mem_cons] at hplain
      obtain ⟨s', hcomes, hs'⟩ := FieldStore.leads_serve hS
        (w.contextOf index bridge connection) hbag hown hplain.1 hs
      rw [hanswer] at hcomes
      obtain ⟨w', hserved, hbears⟩ := exists_cross_of_comes hdrives hconnected hstarted hruntime
        (fun ctx => ctx.serve (op.entry bag)) hcomes
      have hrest : w'.history index (ops.map (entry bag)) = replies bag (op.after t) ops :=
        ih (hconnected.of_sameGates hbears.gates) ((hbears.gates.phaseOf _).trans hstarted)
          hbears.runtime hs' hplain.2
      have houtcome : w.served index (op.entry bag) =
          ((op.reply bag t).mapError .bridge, w') := hserved
      rw [List.map_cons, history, houtcome, hrest]
      rfl

/-!
# Two runtimes
-/

/-- A running simulated runtime with an empty bag. -/
def sampleBag : Simulation :=
  { Simulation.fresh with
    heap := (Simulation.fresh.heap.allocate (.bag .empty)).2, phase := .running }

/-- An interpreter with an empty dictionary. -/
def sampleDict : Interpreter :=
  (Interpreter.bare []).withHeap ((Interpreter.bare []).heap.allocate ⟨.dict [], none, none⟩).2

/-- A handle of the dictionary. -/
def sampleHandle : Handle :=
  ⟨0, ((Interpreter.bare []).heap.allocate ⟨.dict [], none, none⟩).1, "dict"⟩

theorem furnished_sampleDict : sampleDict.Furnished := by
  have hfurnished := Interpreter.furnished_bare []
  have hc : (Interpreter.bare []).heap.Covers
      (fun ref => ∃ content, Interpreter.uniqueRef? content = some ref) 0 :=
    .zero fun ref ⟨content, hunique⟩ => ⟨_, hfurnished content ref hunique⟩
  exact fun content ref hunique =>
    (Heap.Older.allocate _ _).get?_of_live (hfurnished content ref hunique)
      ((hc.allocate _).exists_get?_of_lasting ⟨content, hunique⟩)

/-- A started bridge to a runtime. -/
def sampleOver (runtime : Runtime) : World where
  runtimes := #[runtime]
  phases := [(.process, .started)]
  bridges := #[⟨some ⟨0, .process, true⟩, {}⟩]
  bindings := .empty
  events := []
  nesting := 1

def sampleOperations : List FieldOperation :=
  [.get "b", .set "b" "x", .assign "a" "y", .read "b", .members]

def sampleReplies (bag : Handle) : List (Except Failure Reply) :=
  [.error (.bridge (.foreignRuntime .getField
      "AttributeError: 'dict' object has no attribute 'b'")),
    .ok .nothing, .ok (.value (.foreign bag)), .ok (.value (.text "x")), .ok (.names ["a", "b"])]

end World
end Session
end ForeignBridge
