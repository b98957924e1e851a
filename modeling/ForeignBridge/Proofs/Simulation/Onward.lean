import ForeignBridge.Proofs.Chains.Factoring
import ForeignBridge.Proofs.Crossing.Keys

/-!
# Positions from the end

A simulated runtime counts a negative position from the end.  No bridge ever makes it do so: if it
panicked instead, all requests of the host would come to the same.
-/

namespace ForeignBridge
namespace Simulation

/-- Panics if a key is a position that counts from the end. -/
def checkOnward (panic : Panic) (key : Ref) : Attempt Simulation Unit := do
  if (← access key).int?.any (· < 0) then throw panic

/-- The runtime, but for a panic in place of a position that counts from the end. -/
def onwardOnly (panic : Panic) (depth : Nat) (r : Request) : Attempt Simulation r.Answer := do
  r.keys.forM (checkOnward panic)
  answer (run depth) r

/-- What is known of the key that was made last. -/
def Knows (known : Option Ref) (s : Simulation) : Prop :=
  ∀ key ∈ known, ∃ number index, s.heap.get? key = some (.int index number) ∧ 0 ≤ index

variable {depth : Nat} {s s' : Simulation}

theorem knows_keyAfter {r : Request} {given : r.Answer} {known : Option Ref} (h : Knows known s)
    (houtcome : (answer (run depth) r).outcome s = (.ok given, s')) :
    Knows (r.keyAfter known given) s' := by
  intro key hkey
  cases r with
  | errorPending =>
      rw [(errorPending_of_answer houtcome).2]
      exact h key hkey
  | newScalar value =>
      cases value with
      | int i =>
          rcases Option.ite_none_right_eq_some.1 hkey with ⟨hfirst, hmade⟩
          have hserved : (Except.ok (some (s.heap.allocate (.int i.value (some i.kind))).1),
              s.withHeap (s.heap.allocate (.int i.value (some i.kind))).2) = (.ok given, s') :=
            (serve_of_answer houtcome).2
          cases hserved
          cases hmade
          exact ⟨_, _, Heap.get?_allocate _ _, hfirst⟩
      | bool _ | real _ => cases hkey
  | _ => cases hkey

theorem keptBy_onward (depth : Nat) : onward.KeptBy (answer (run depth)) Knows fun _ => True := by
  constructor
  · intro known s r hknows _
    rcases houtcome : (answer (run depth) r).outcome s with ⟨outcome, s'⟩
    cases outcome with
    | ok given => exact ⟨_, rfl, knows_keyAfter hknows houtcome⟩
    | error panic => exact ⟨trivial, trivial⟩
  · exact fun _ _ _ => trivial
  · exact fun _ _ _ => trivial

theorem outcome_checkOnward (panic : Panic) {key : Ref} {index : Int} {number : Option NumericKind}
    (hget : s.heap.get? key = some (.int index number)) (hindex : 0 ≤ index) :
    (checkOnward panic key).outcome s = (.ok (), s) := by
  unfold checkOnward
  rw [outcome_look hget]
  simp only [Object.int?, Option.any_some, decide_eq_true_eq, Int.not_lt.2 hindex, if_false]
  rfl

/-- An item is looked up alike by a key that counts from the beginning. -/
theorem outcome_onwardOnly (panic : Panic) {r : Request} {known : Option Ref} (h : Knows known s)
    (hallowed : onward.allows known r) :
    (onwardOnly panic depth r).outcome s = (answer (run depth) r).outcome s := by
  have hlookup : ∀ key, r.keys = [key] →
      (onwardOnly panic depth r).outcome s = (answer (run depth) r).outcome s := by
    intro key hkeys
    rcases h key (hallowed key (hkeys ▸ List.mem_singleton_self key)) with
      ⟨number, index, hget, hindex⟩
    have hchecked : (r.keys.forM (checkOnward panic)).outcome s = (.ok (), s) := by
      rw [hkeys]
      show (checkOnward panic key >>= fun _ => pure ()).outcome s = _
      rw [Attempt.outcome_bind, outcome_checkOnward panic hget hindex]
      rfl
    unfold onwardOnly
    rw [Attempt.outcome_bind, hchecked]
  cases r with
  | getItem ref key | setItem ref key value => exact hlookup key rfl
  | _ => rfl

/-- No request of the host makes a runtime count from the end. -/
theorem outcome_serve_onwardOnly (ctx : Context) (panic : Panic) (depth : Nat) (entry : Entry)
    (s : Simulation) :
    (Program.run (onwardOnly panic depth) (fun _ => pure ()) (ctx.serve entry).run).outcome s =
      (Program.run (answer (run depth)) (fun _ => pure ()) (ctx.serve entry).run).outcome s := by
  have hfirst : Knows none s := nofun
  refine Program.run_congr (keptBy_onward depth) (fun event known s hknows => ?_)
    (fun _ _ _ hknows hallowed => outcome_onwardOnly panic hknows hallowed) (fun _ => rfl)
    (ctx.onward_serve entry none) hfirst
  exact hknows

end Simulation
end ForeignBridge
