import ForeignBridge.Proofs.RoundTrip.Sequences
import ForeignBridge.Proofs.Session.Conservation

/-!
# Round trips in a world

A host value that exists in a world is taken to the runtime by a started bridge and read back at
once.  The runtime of a world that a run led to is sound, so the handles in the value are of live
objects and the null object is in its place.
-/

namespace ForeignBridge
namespace Session

variable {α : Type}

namespace World

/-!
# Crossings that succeed
-/

/-- The world has the runtime of a rig without faults, in a given state. -/
def Hosts (depth : Nat) (w : World) (s : Simulation) : Prop :=
  w.runtimes = #[.simulated ⟨s, [], depth⟩]

theorem hosts_record {depth : Nat} (event : Event) (s : Simulation) (w : World)
    (h : w.Hosts depth s) : ((record event).run w).2.Hosts depth s := h

/-- The world after its runtime answered. -/
theorem outcome_inRuntime_of_hosts {depth : Nat} {r : Request} {given : r.Answer}
    {s s' : Simulation} {w : World} (h : w.Hosts depth s)
    (hanswer : (Simulation.answer (Simulation.run depth) r).outcome s = (.ok given, s')) :
    (inRuntime 0 (Runtime.answer r)).outcome w =
      (.ok given, { w with runtimes := #[.simulated ⟨s', [], depth⟩] }) := by
  unfold Hosts at h
  have hsome : w.runtimes[0]? = some (.simulated ⟨s, [], depth⟩) := by
    rw [h]
    rfl
  have hordinary : (Runtime.answer r).outcome (.simulated ⟨s, [], depth⟩) =
      (((Simulation.answer (Simulation.run depth) r).outcome s).1, .simulated
        ⟨((Simulation.answer (Simulation.run depth) r).outcome s).2, [], depth⟩) := rfl
  rw [outcome_inRuntime hsome, hordinary, hanswer, h]
  rfl

theorem hosts_answer (depth : Nat) (lifecycle : LifecycleId) (r : Request) (given : r.Answer)
    (s s' : Simulation) (w : World) (h : w.Hosts depth s)
    (hanswer : (Simulation.answer (Simulation.run depth) r).outcome s = (.ok given, s')) :
    ∃ w', (answer ⟨0, lifecycle, true⟩ r).outcome w = (.ok given, w') ∧ w'.Hosts depth s' := by
  have hasked : answer ⟨0, lifecycle, true⟩ r = inRuntime 0 (Runtime.answer r) := by
    cases r <;> rfl
  rw [hasked, outcome_inRuntime_of_hosts h hanswer]
  exact ⟨_, rfl, rfl⟩

theorem run_bridge {w : World} {index : Nat} {found : Bridge}
    (hbridge : w.bridges[index]? = some found) : (bridge index).run.run w = (.ok found, w) := by
  unfold bridge
  rw [run_get_bind, hbridge]
  rfl

theorem run_ensure_of_started {w : World} {lifecycle : LifecycleId} {runtime : Nat}
    {paths : List String} (hstarted : w.phaseOf lifecycle = .started) :
    (ensure lifecycle runtime paths).run.run w = (.ok (), w) := by
  unfold ensure
  rw [run_get_bind, hstarted]
  rfl

/-- A bridge that was started before is entered without further ado. -/
theorem run_enter_of_started {w : World} {index : Nat} {found : Bridge} {connection : Connection}
    (hbridge : w.bridges[index]? = some found) (hconnection : found.connection = some connection)
    (hstarted : w.phaseOf connection.lifecycle = .started) :
    (enter index).run.run w = (.ok connection, w) := by
  unfold enter
  rw [run_bind, run_bridge hbridge]
  dsimp only
  rw [hconnection]
  dsimp only
  rw [run_bind, run_ensure_of_started hstarted]
  rfl

/-- What a crossing reaches against the runtime it reaches through a bridge that was started. -/
theorem exists_run_cross {w : World} {index depth : Nat} {found : Bridge}
    {lifecycle : LifecycleId} {s : Simulation} (crossing : Context → Crossing α)
    {post : α → Simulation → Prop} (hbridge : w.bridges[index]? = some found)
    (hconnection : found.connection = some ⟨0, lifecycle, true⟩)
    (hstarted : w.phaseOf lifecycle = .started) (hhosts : w.Hosts depth s)
    (h : (crossing ⟨index, w.runtimeName 0, found.settings, w.nesting⟩).Reaches
      (Simulation.answer (Simulation.run depth)) s post) :
    ∃ a s' w', (cross index crossing).run.run w = (.ok a, w') ∧ w'.Hosts depth s' ∧ post a s' := by
  rcases h with ⟨a, s', hrun, hpost⟩
  rcases hrun.run (hosts_answer depth lifecycle) hosts_record hhosts with
    ⟨w', houtcome, hhosts'⟩
  refine ⟨a, s', w', ?_, hhosts', hpost⟩
  unfold cross
  rw [run_bind, run_enter_of_started hbridge hconnection hstarted]
  dsimp only
  rw [run_bind]
  show (bridge index >>= fun found => _).run.run w = _
  rw [run_bind, run_bridge hbridge]
  dsimp only
  rw [run_bind, run_ofAttempt, houtcome]
  rfl

end World

namespace Ledger

open World

/-!
# Round trips in a run
-/

/-- In a sound runtime the handles of a value suit the bridge that they belong to. -/
theorem suits_of_sound {ctx : Context} {s : Simulation} {v : Value} {others : Multiset Ref}
    (hs : s.Sound ((v.refs : Multiset Ref) + others))
    (hown : ∀ h ∈ v.handles, h.context = ctx.id)
    (hsealed : ∀ h ∈ v.handles, ∃ object,
      s.heap.get? h.ref = some object ∧ object.IsOpaque) :
    ctx.Suits s.heap (s.roots + ((v.refs : Multiset Ref) + others)) v.handles := by
  have hroot : Simulation.nullRef ∈ s.roots + ((v.refs : Multiset Ref) + others) :=
    Multiset.mem_add.2 (.inl s.nullRef_mem_roots)
  constructor
  · rcases hs.balanced.live (Multiset.mem_add.2 (.inr hroot)) with ⟨slot, hslot⟩
    have hget : s.heap.get? Simulation.nullRef = some slot.content := by
      unfold Heap.get?
      rw [hslot]
      rfl
    rw [hget, (hs.proper _ _ hget).2 rfl]
  · exact hroot
  · exact hown
  · intro h hh
    have href : h.ref ∈ v.refs := List.mem_map_of_mem hh
    exact Multiset.mem_add.2 (.inr (Multiset.mem_add.2 (.inl href)))
  · exact hsealed

def sampleMatrix : Matrix where
  kind := .logical
  dims := [1, 2]
  elements := [.bool true, .bool false]
  dims_ne_nil := nofun
  count_eq := rfl
  kind_eq := by decide

def sampleValue : Value :=
  .cell [.foreign ⟨0, ⟨2⟩, "f"⟩, .matrix sampleMatrix, .cell [.cell [], .text "a"]]

/-- The world after the bridge read the function. -/
def sampleStarted : World := (sampleRead.run.run (sampleWorld sampleModule)).2

/-- The function is there, in a runtime that runs and has no error pending. -/
def holdsSample (w : World) : Bool :=
  match w.runtimes[0]? with
  | some (Runtime.simulated rig) =>
    decide (rig.simulation.phase = .running) && rig.simulation.pending.isNone &&
      decide ((rig.simulation.heap.get? ⟨2⟩).map Simulation.Object.kind = some .object)
  | _ => false

end Ledger
end Session
end ForeignBridge
