import ForeignBridge.Proofs.Session.Invariants
import ForeignBridge.Proofs.Session.RoundTrip

/-!
# Gates

A lifecycle gates the use of a runtime.  While it is idle the first bridge that needs the runtime
starts it, and while it is started nothing is asked; once it is finished, whoever needs the runtime
panics before the runtime is reached.
-/

namespace ForeignBridge

/-- The runtime after it started. -/
def Simulation.started (s : Simulation) (paths : List String) : Simulation :=
  { s with
    phase := .running
    startCount := s.startCount + 1
    searchPaths := s.searchPaths ++ paths }

/-- The runtime after it refused to start. -/
def Simulation.refused (s : Simulation) : Simulation := { s with startCount := s.startCount + 1 }

namespace Session
namespace World

variable {α : Type} {w : World} {index : Nat} {bridge : Bridge} {connection : Connection}
  {lifecycle : LifecycleId} {rig : Rig}

/-- A bridge of the world has a runtime. -/
def Connected (w : World) (index : Nat) (bridge : Bridge) (connection : Connection) : Prop :=
  w.bridges[index]? = some bridge ∧ bridge.connection = some connection

/-- An act whose result is used once more. -/
theorem of_run_bind_pure {β : Type} {act : Act α} {f : α → β} {b : β} {w' : World}
    (h : (act >>= fun a => pure (f a)).run.run w = (.ok b, w')) :
    ∃ a, act.run.run w = (.ok a, w') ∧ f a = b := by
  rw [run_bind] at h
  rcases houtcome : act.run.run w with ⟨outcome, w''⟩
  rw [houtcome] at h
  cases outcome with
  | error failure => cases h
  | ok a =>
      cases h
      exact ⟨a, rfl, rfl⟩

theorem run_bridge_of_none (h : w.bridges[index]? = none) :
    (World.bridge index).run.run w = (.error (.malformed "no such bridge"), w) := by
  unfold World.bridge
  rw [run_get_bind]
  rw [h]
  rfl

/-- A bridge without a runtime is not entered, and says so. -/
theorem run_enter_of_unconnected
    (h : ∀ bridge connection, ¬ w.Connected index bridge connection) :
    ∃ failure, (enter index).run.run w = (.error failure, w) ∧ ∀ panic, failure ≠ .panic panic := by
  unfold enter
  cases hbridge : w.bridges[index]? with
  | none =>
      rw [run_bind, run_bridge_of_none hbridge]
      exact ⟨_, rfl, nofun⟩
  | some found =>
      rw [run_bind, run_bridge hbridge]
      dsimp only
      cases hconnection : found.connection with
      | some connection => exact absurd ⟨hbridge, hconnection⟩ (h found connection)
      | none => exact ⟨_, rfl, nofun⟩

theorem run_enter (hconnected : w.Connected index bridge connection) :
    (enter index).run.run w =
      match (ensure connection.lifecycle connection.runtime bridge.settings.searchPaths).run.run w with
      | (.ok _, w') => (.ok connection, w')
      | (.error failure, w') => (.error failure, w') := by
  unfold enter
  rw [run_bind, run_bridge hconnected.1]
  dsimp only
  rw [hconnected.2]
  dsimp only
  rw [run_bind]
  rcases (ensure connection.lifecycle connection.runtime bridge.settings.searchPaths).run.run w with
    ⟨outcome, w'⟩
  cases outcome with
  | ok _ => rfl
  | error failure => rfl

theorem run_enter_of_finished (hconnected : w.Connected index bridge connection)
    (hfinished : w.phaseOf connection.lifecycle = .finished) :
    (enter index).run.run w =
      (.error (.panic (.usedAfterShutdown (w.runtimeName connection.runtime))), w) := by
  rw [run_enter hconnected]
  unfold ensure
  rw [run_get_bind]
  rw [hfinished]
  rfl

theorem outcome_start (hfresh : rig.simulation.phase = .fresh) (paths : List String) :
    (Runtime.start paths).outcome (.simulated rig) =
      if rig.simulation.refusesStart then
        (.ok (false, []), .simulated { rig with simulation := rig.simulation.refused })
      else
        (.ok (true, []), .simulated { rig with simulation := rig.simulation.started paths }) := by
  rcases rig with
    ⟨⟨heap, modules, phase, count, refuses, searchPaths, pending, called, names⟩, faults, depth⟩
  cases hfresh
  cases refuses with
  | true => rfl
  | false => rfl

theorem outcome_stop (hrunning : rig.simulation.phase = .running) :
    Runtime.stop.outcome (.simulated rig) =
      (.ok (), .simulated { rig with simulation := { rig.simulation with phase := .stopped } }) := by
  rcases rig with
    ⟨⟨heap, modules, phase, count, refuses, searchPaths, pending, called, names⟩, faults, depth⟩
  cases hrunning
  rfl

/-- The world with a runtime in place of its own. -/
def withRig (w : World) (rig : Rig) : World := { w with runtimes := #[.simulated rig] }

theorem run_inRuntime (hruntimes : w.runtimes = #[.simulated rig]) {attempt : Attempt Runtime α}
    {a : α} {rig' : Rig} (h : attempt.outcome (.simulated rig) = (.ok a, .simulated rig')) :
    (ofAttempt (inRuntime 0 attempt)).run.run w = (.ok a, w.withRig rig') := by
  have hsome : w.runtimes[0]? = some (.simulated rig) := by
    rw [hruntimes]
    rfl
  rw [run_ofAttempt, outcome_inRuntime hsome, h, hruntimes]
  rfl

theorem runtimeName_of_simulated (hruntimes : w.runtimes = #[.simulated rig]) :
    w.runtimeName 0 = "sim" := by
  unfold runtimeName
  rw [hruntimes]
  rfl

theorem phaseOf_setPhase (phase : Phase) :
    phaseOf lifecycle
      { w with phases := (lifecycle, phase) :: w.phases.filter (·.1 != lifecycle) } = phase := by
  unfold phaseOf
  rw [List.lookup_cons_self]
  rfl

/-- A runtime that refuses to start leaves the lifecycle idle. -/
theorem run_ensure_of_refused (hidle : w.phaseOf lifecycle = .idle)
    (hruntimes : w.runtimes = #[.simulated rig]) (hfresh : rig.simulation.phase = .fresh)
    (hrefuses : rig.simulation.refusesStart = true) (paths : List String) :
    (ensure lifecycle 0 paths).run.run w =
      (.error (.bridge (.foreignRuntime .start "sim runtime failed to start")),
        w.withRig { rig with simulation := rig.simulation.refused }) := by
  have hstart := outcome_start hfresh paths
  rw [if_pos hrefuses] at hstart
  unfold ensure
  rw [run_get_bind]
  rw [hidle, runtimeName_of_simulated hruntimes]
  dsimp only
  rw [run_bind, run_inRuntime hruntimes hstart]
  rfl

/-- A runtime that starts has the search paths of the bridge that started it. -/
theorem run_ensure_of_idle (hidle : w.phaseOf lifecycle = .idle)
    (hruntimes : w.runtimes = #[.simulated rig]) (hfresh : rig.simulation.phase = .fresh)
    (hstarts : rig.simulation.refusesStart = false) (paths : List String) :
    ∃ w', (ensure lifecycle 0 paths).run.run w = (.ok (), w') ∧
      w'.runtimes = #[.simulated { rig with simulation := rig.simulation.started paths }] ∧
      w'.bridges = w.bridges ∧ w'.phaseOf lifecycle = .started := by
  have hstart := outcome_start hfresh paths
  rw [if_neg (by rw [hstarts]; exact nofun)] at hstart
  unfold ensure
  rw [run_get_bind]
  rw [hidle]
  dsimp only
  rw [run_bind, run_inRuntime hruntimes hstart]
  exact ⟨_, rfl, rfl, rfl, phaseOf_setPhase _⟩

theorem run_shutdown_of_started (hstarted : w.phaseOf lifecycle = .started)
    (hruntimes : w.runtimes = #[.simulated rig]) (hrunning : rig.simulation.phase = .running) :
    ∃ w', (shutdown lifecycle 0).run.run w = (.ok (), w') ∧
      w'.runtimes =
        #[.simulated { rig with simulation := { rig.simulation with phase := .stopped } }] ∧
      w'.bridges = w.bridges ∧ w'.phaseOf lifecycle = .finished := by
  unfold shutdown
  rw [run_get_bind]
  rw [if_pos hstarted, run_bind, run_inRuntime hruntimes (outcome_stop hrunning)]
  exact ⟨_, rfl, rfl, rfl, phaseOf_setPhase _⟩

theorem run_shutdown_of_not_started (h : w.phaseOf lifecycle ≠ .started) (runtime : Nat) :
    (shutdown lifecycle runtime).run.run w = (.ok (), w) := by
  unfold shutdown
  rw [run_get_bind]
  rw [if_neg h]
  rfl

/-- A bridge without a runtime has nothing to stop. -/
theorem run_leave_of_unconnected
    (h : ∀ bridge connection, ¬ w.Connected index bridge connection) :
    ∃ outcome, (leave index).run.run w = (outcome, w) ∧ ∀ panic, outcome ≠ .error (.panic panic) := by
  unfold leave
  cases hbridge : w.bridges[index]? with
  | none =>
      rw [run_bind, run_bridge_of_none hbridge]
      exact ⟨_, rfl, nofun⟩
  | some found =>
      rw [run_bind, run_bridge hbridge]
      dsimp only
      cases hconnection : found.connection with
      | some connection => exact absurd ⟨hbridge, hconnection⟩ (h found connection)
      | none => exact ⟨_, rfl, nofun⟩

theorem run_leave (hconnected : w.Connected index bridge connection) :
    (leave index).run.run w = (shutdown connection.lifecycle connection.runtime).run.run w := by
  unfold leave
  rw [run_bind, run_bridge hconnected.1]
  dsimp only
  rw [hconnected.2]

/-!
# Crossings
-/

/-- What a bridge does in a crossing after it was entered. -/
def crossEntered (index : Nat) (crossing : Context → Crossing α) (connection : Connection) :
    Act α := do
  let w ← get
  let context : Context :=
    ⟨index, w.runtimeName connection.runtime, (← World.bridge index).settings, w.nesting⟩
  match ← ofAttempt (Program.run (answer connection) record (crossing context).run) with
  | .ok result => return result
  | .error error => throw (.bridge error)

theorem cross_eq (index : Nat) (crossing : Context → Crossing α) :
    cross index crossing = enter index >>= crossEntered index crossing := rfl

/-- The context of a bridge. -/
def contextOf (w : World) (index : Nat) (bridge : Bridge) (connection : Connection) : Context :=
  ⟨index, w.runtimeName connection.runtime, bridge.settings, w.nesting⟩

/-- What comes of a crossing after the bridge was entered. -/
theorem run_crossEntered (hbridge : w.bridges[index]? = some bridge)
    (crossing : Context → Crossing α) :
    (crossEntered index crossing connection).run.run w =
      match (Program.run (answer connection) record
        (crossing (w.contextOf index bridge connection)).run).outcome w with
      | (.ok (.ok a), w') => (.ok a, w')
      | (.ok (.error e), w') => (.error (.bridge e), w')
      | (.error panic, w') => (.error (.panic panic), w') := by
  unfold crossEntered
  rw [run_get_bind]
  rw [run_bind, run_bridge hbridge]
  dsimp only
  rw [run_bind, run_ofAttempt]
  unfold contextOf
  rcases (Program.run (answer connection) record (crossing
    ⟨index, w.runtimeName connection.runtime, bridge.settings, w.nesting⟩).run).outcome w with
    ⟨outcome, w'⟩
  rcases outcome with panic | result
  · rfl
  · cases result with
    | ok a => rfl
    | error e => rfl

theorem run_crossEntered_of_none (hbridge : w.bridges[index]? = none)
    (crossing : Context → Crossing α) :
    (crossEntered index crossing connection).run.run w = (.error (.malformed "no such bridge"), w) := by
  unfold crossEntered
  rw [run_get_bind]
  rw [run_bind, run_bridge_of_none hbridge]

theorem abides_crossEntered {I : Simulation → Prop} {fine : Panic → Prop} {first : World}
    (hI : Simulation.Lasting I fine) {crossing : Context → Crossing α}
    (h : ∀ ctx, (crossing ctx).Confined true fine) (connection : Connection) :
    Abides (first.Stays I) fine (crossEntered index crossing connection) := by
  unfold crossEntered
  apply Abides.get_bind
  intro w
  apply Abides.bind (abides_bridge index)
  intro bridge
  exact abides_crossing hI connection (h _)

theorem result_of_crossEntered {post : α → Prop} {crossing : Context → Crossing α}
    (h : ∀ ctx, ctx.id = index → (crossing ctx).Yields post) {a : α} {w' : World}
    (hrun : (crossEntered index crossing connection).run.run w = (.ok a, w')) : post a := by
  cases hbridge : w.bridges[index]? with
  | none =>
      rw [run_crossEntered_of_none hbridge] at hrun
      cases hrun
  | some bridge =>
      rw [run_crossEntered hbridge] at hrun
      rcases houtcome : (Program.run (answer connection) record
        (crossing (w.contextOf index bridge connection)).run).outcome w with ⟨outcome, w''⟩
      rw [houtcome] at hrun
      rcases outcome with panic | result
      · cases hrun
      · cases result with
        | error error => cases hrun
        | ok b =>
            cases hrun
            exact (h _ rfl).of_run houtcome

/-!
# Host values that outlive the runtime
-/

theorem run_connectionOf {h : Handle} (hconnected : w.Connected h.context bridge connection) :
    (connectionOf h).run.run w = (.ok connection, w) := by
  unfold connectionOf
  rw [run_bind, run_bridge hconnected.1]
  dsimp only
  rw [hconnected.2]
  rfl

/-- A handle is not copied after its runtime was shut down. -/
theorem run_cloneHandles_of_finished {h : Handle} (rest : List Handle)
    (hconnected : w.Connected h.context bridge connection)
    (hfinished : w.phaseOf connection.lifecycle = .finished) :
    (cloneHandles (h :: rest)).run.run w = (.error (.panic (.clonedAfterShutdown h.ref)), w) := by
  unfold cloneHandles cloneHandle
  rw [run_bind, run_bind, run_connectionOf hconnected]
  dsimp only
  rw [run_get_bind]
  rw [if_pos hfinished]
  rfl

/-- Handles that are dropped after their runtime was shut down do not reach it. -/
theorem run_dropHandles_of_finished {handles : List Handle}
    (hfinished : ∀ h ∈ handles, ∃ bridge connection, w.Connected h.context bridge connection ∧
      w.phaseOf connection.lifecycle = .finished) :
    ∃ w', (dropHandles handles).run.run w = (.ok (), w') ∧ w'.runtimes = w.runtimes ∧
      w.SameGates w' := by
  induction handles generalizing w with
  | nil => exact ⟨w, rfl, rfl, SameGates.refl w⟩
  | cons h rest ih =>
      rcases hfinished h List.mem_cons_self with ⟨bridge, connection, hconnected, hphase⟩
      have hdrop : (dropHandle h).run.run w =
          (.ok (), { w with events := .leaked h.ref :: w.events }) := by
        unfold dropHandle
        rw [run_bind, run_connectionOf hconnected]
        dsimp only
        rw [run_get_bind]
        rw [if_pos hphase]
        rfl
      have hrest : ∀ other ∈ rest, ∃ bridge connection,
          Connected { w with events := .leaked h.ref :: w.events } other.context bridge connection ∧
            phaseOf connection.lifecycle { w with events := .leaked h.ref :: w.events } = .finished :=
        fun other hother => hfinished other (List.mem_cons_of_mem h hother)
      rcases ih hrest with ⟨w', hrun, hruntimes, hgates⟩
      refine ⟨w', ?_, hruntimes, hgates⟩
      rw [run_dropHandles_cons, hdrop, hrun]
      rfl

end World
end Session
end ForeignBridge
