import Mathlib.Algebra.Order.Group.Multiset
import ForeignBridge.Proofs.Session.Gates

/-!
# Scenes

Any number of bridges share one simulated runtime and one lifecycle.  They are entered and left, and
serve requests of the host; handles are asked for their members, and host values are copied and
dropped, also after the runtime was shut down; all this whether it succeeds or fails.  Nobody else
starts or stops the runtime, but it may be used otherwise, misbehave, and refuse to start at times.

What one action can come to is said here, for each phase of the lifecycle.
-/

namespace ForeignBridge
namespace Session

open World

/-- The phase of a runtime in a phase of its lifecycle. -/
def Phase.ofRuntime : Phase → SimulationPhase
  | idle => .fresh
  | started => .running
  | finished => .stopped

/-- What may happen next. -/
inductive Action where
  | init (bridge : Nat)
  | exit (bridge : Nat)
  | serve (bridge : Nat) (entry : Entry)
  /-- A handle is asked for its members. -/
  | members (h : Handle)
  | clone (v : Value)
  | drop (v : Value)
  /-- The runtime is used past the bridges, made to misbehave, or told whether to refuse to start. -/
  | outside (rig : Rig)

namespace Action

/-- The bridge whose runtime is needed. -/
def caller : Action → Option Nat
  | init bridge | serve bridge _ => some bridge
  | members h => some h.context
  | _ => none

/-- What an action does, with the handles that it gives to the host. -/
def act : Action → Act (List Handle)
  | init bridge => do
    let _ ← enter bridge
    return []
  | exit bridge => do
    leave bridge
    return []
  | serve bridge entry => do
    let reply ← cross bridge fun ctx => ctx.serve entry
    return reply.handles
  | members h => do
    let _ ← cross h.context fun ctx => ctx.memberNames h
    return []
  | clone v => do
    cloneHandles v.handles
    return v.handles
  | drop v => do
    dropValue v
    return []
  | outside rig => do
    modify fun w => w.withRig rig
    return []

/-- The handles that the host gives up. -/
def dropped : Action → List Handle
  | drop v => v.handles
  | _ => []

end Action

/-- A world, and the handles in the values that the host has of it. -/
structure Scene where
  world : World
  handles : Multiset Handle

namespace Scene

def phase (s : Scene) (lifecycle : LifecycleId) : Phase := s.world.phaseOf lifecycle

def run (s : Scene) (action : Action) : Except Failure (List Handle) × World :=
  action.act.run.run s.world

/-- The scene after an action.  What is dropped is gone even if that fails. -/
def after (s : Scene) (action : Action) : Scene where
  world := (s.run action).2
  handles := ((s.run action).1.toOption.getD [] : List Handle) + (s.handles - action.dropped)

/-- The host copies and drops handles that it has, and nobody else starts or stops the runtime. -/
def Allows (s : Scene) : Action → Prop
  | .clone v | .drop v => (v.handles : Multiset Handle) ≤ s.handles
  | .outside rig => s.world.Hosting fun current => current.life = rig.simulation.life
  | _ => True

/-- What any number of allowed actions lead to. -/
def Leads : Scene → Scene → Prop :=
  Relation.ReflTransGen fun s s' => ∃ action, s.Allows action ∧ s' = s.after action

/-- Every bridge that has a runtime shares the first one and one lifecycle. -/
def Shares (s : Scene) (lifecycle : LifecycleId) : Prop :=
  ∀ index bridge connection, s.world.Connected index bridge connection →
    connection.runtime = 0 ∧ connection.lifecycle = lifecycle

/-- A scene in which the runtime was never used. -/
structure Opening (lifecycle : LifecycleId) (s : Scene) : Prop where
  fresh : s.world.Hosting fun runtime => runtime.phase = .fresh ∧ runtime.searchPaths = []
  idle : s.phase lifecycle = .idle
  shared : s.Shares lifecycle
  unused : s.handles = 0

/-- What holds of every scene: the runtime is in the phase of its lifecycle, and there are handles
only after it was started. -/
structure Sane (lifecycle : LifecycleId) (s : Scene) (rig : Rig) : Prop where
  runtimes : s.world.runtimes = #[.simulated rig]
  matched : rig.simulation.phase = (s.phase lifecycle).ofRuntime
  shared : s.Shares lifecycle
  connected : ∀ h ∈ s.handles, ∃ bridge connection, s.world.Connected h.context bridge connection
  unused : s.phase lifecycle = .idle → s.handles = 0 ∧ rig.simulation.searchPaths = []

/-- How an action can go. -/
inductive Course (lifecycle : LifecycleId) (s : Scene) (action : Action) (rig : Rig) (w : World) :
    Prop where
  /-- The runtime is neither started nor stopped. -/
  | rests (h : s.world.Stays (fun runtime => runtime.life = rig.simulation.life) w)
  /-- The runtime refuses to start. -/
  | refused (hidle : s.phase lifecycle = .idle) (hrefuses : rig.simulation.refusesStart = true)
      (h : w = s.world.withRig { rig with simulation := rig.simulation.refused })
  /-- A bridge that needs the runtime starts it. -/
  | starts {index : Nat} {bridge : Bridge} {connection : Connection}
      (hidle : s.phase lifecycle = .idle) (hstarts : rig.simulation.refusesStart = false)
      (hcaller : action.caller = some index)
      (hconnected : s.world.Connected index bridge connection)
      (hhosting : w.Hosting fun runtime =>
        runtime.life = (.running, rig.simulation.startCount + 1, bridge.settings.searchPaths))
      (hbridges : w.bridges = s.world.bridges) (hstarted : w.phaseOf lifecycle = .started)
  /-- A bridge stops the runtime. -/
  | stops {index : Nat} (hstarted : s.phase lifecycle = .started) (haction : action = .exit index)
      (hhosting : w.Hosting fun runtime =>
        runtime.life = (.stopped, rig.simulation.startCount, rig.simulation.searchPaths))
      (hbridges : w.bridges = s.world.bridges) (hfinished : w.phaseOf lifecycle = .finished)

end Scene

/-!
# Actions that need the runtime
-/

theorem confined_memberNames (h : Handle) (ctx : Context) :
    (ctx.memberNames h).Confined true fun panic => panic.isGate = false := by
  have htidy : Crossing.Tidy ctx true [] 0 (ctx.memberNames h) fun _ => 0 := ctx.tidy_memberNames h
  exact htidy.confined rfl

theorem confined_serve (entry : Entry) (ctx : Context) :
    (ctx.serve entry).Confined true fun panic => panic.isGate = false := by
  apply Crossing.Confined.may
  exact (ctx.tidy_serve entry).confined rfl

/-- An action that needs the runtime of a bridge enters the bridge first.  What it does then is
served by the runtime, and the handles that it gives to the host are of that bridge. -/
theorem Action.exists_rest {action : Action} {index : Nat} (h : action.caller = some index) :
    ∃ rest : Connection → Act (List Handle), action.act = enter index >>= rest ∧
      (∀ first life connection, life.1 = .running →
        Abides (World.Stays first fun runtime => runtime.life = life)
          (fun panic => panic.isGate = false) (rest connection)) ∧
      ∀ connection w handles w', (rest connection).run.run w = (.ok handles, w') →
        ∀ handle ∈ handles, handle.context = index := by
  cases action with
  | init bridge =>
      cases h
      refine ⟨fun _ => pure [], rfl, fun _ _ _ _ => Abides.pure, ?_⟩
      intro connection w handles w' hrun
      cases hrun
      exact nofun
  | serve bridge entry =>
      cases h
      refine ⟨fun connection => crossEntered index (fun ctx => ctx.serve entry) connection >>=
        fun reply => pure reply.handles, ?_, ?_, ?_⟩
      · rw [act, cross_eq, bind_assoc]
      · intro first life connection hrunning
        apply Abides.bind _ fun _ => Abides.pure
        exact abides_crossEntered (Simulation.lasting_life hrunning) (confined_serve entry)
          connection
      · intro connection w handles w' hrun
        rcases of_run_bind_pure hrun with ⟨reply, houtcome, hhandles⟩
        have hyields : ∀ ctx : Context, ctx.id = index →
            (ctx.serve entry).Yields fun reply => ∀ h ∈ reply.handles, h.context = index := by
          intro ctx hctx
          rw [← hctx]
          exact ctx.yields_serve entry
        rw [← hhandles]
        exact result_of_crossEntered hyields houtcome
  | members h =>
      cases h
      refine ⟨fun connection => crossEntered h.context (fun ctx => ctx.memberNames h) connection >>=
        fun _ => pure [], ?_, ?_, ?_⟩
      · rw [act, cross_eq, bind_assoc]
      · intro first life connection hrunning
        apply Abides.bind _ fun _ => Abides.pure
        exact abides_crossEntered (Simulation.lasting_life hrunning) (confined_memberNames h)
          connection
      · intro connection w handles w' hrun
        rcases of_run_bind_pure hrun with ⟨names, -, hhandles⟩
        rw [← hhandles]
        exact nofun
  | exit _ | clone _ | drop _ | outside _ => cases h

namespace Scene

variable {lifecycle : LifecycleId} {s : Scene} {rig : Rig} {action : Action}

theorem run_of_caller {index : Nat} {rest : Connection → Act (List Handle)}
    (hact : action.act = enter index >>= rest) :
    s.run action =
      match (enter index).run.run s.world with
      | (.ok connection, w) => (rest connection).run.run w
      | (.error failure, w) => (.error failure, w) := by
  unfold run
  rw [hact, run_bind]
  rcases (enter index).run.run s.world with ⟨outcome, w⟩
  cases outcome with
  | ok connection => rfl
  | error failure => rfl

/-!
# One action
-/

/-- What an action comes to: how it goes, and that it never finds the runtime outside its life. -/
def Goes (lifecycle : LifecycleId) (s : Scene) (action : Action) (rig : Rig) : Prop :=
  s.Course lifecycle action rig (s.run action).2 ∧
    ∀ panic, (s.run action).1 = .error (.panic panic) → panic.isGate = false

theorem goes_of_unchanged (hruntimes : s.world.runtimes = #[.simulated rig])
    {outcome : Except Failure (List Handle)} (hrun : s.run action = (outcome, s.world))
    (hgate : ∀ panic, outcome = .error (.panic panic) → panic.isGate = false) :
    s.Goes lifecycle action rig := by
  unfold Goes
  rw [hrun]
  exact ⟨.rests ⟨⟨rig, hruntimes, rfl⟩, SameGates.refl _⟩, hgate⟩

/-- What keeps the life of the runtime, as everything does while it runs. -/
theorem goes_of_abides (hruntimes : s.world.runtimes = #[.simulated rig])
    {act : Act (List Handle)} (hrun : s.run action = act.run.run s.world)
    (h : Abides (s.world.Stays fun runtime => runtime.life = rig.simulation.life)
      (fun panic => panic.isGate = false) act) :
    s.Goes lifecycle action rig := by
  have hmeets := h s.world ⟨⟨rig, hruntimes, rfl⟩, SameGates.refl _⟩
  unfold Meets at hmeets
  unfold Goes
  rw [hrun]
  rcases houtcome : act.run.run s.world with ⟨outcome, w⟩
  rw [houtcome] at hmeets
  cases outcome with
  | ok handles => exact ⟨.rests hmeets, nofun⟩
  | error failure =>
      refine ⟨.rests hmeets.2, fun panic hpanic => ?_⟩
      exact hmeets.1 panic (Except.error.inj hpanic)

theorem goes_outside (hruntimes : s.world.runtimes = #[.simulated rig]) {other : Rig}
    (hallowed : s.Allows (.outside other)) : s.Goes lifecycle (.outside other) rig := by
  rcases hallowed with ⟨current, hcurrent, hlife⟩
  rw [hruntimes] at hcurrent
  cases hcurrent
  exact ⟨.rests ⟨⟨other, rfl, hlife.symm⟩, rfl, rfl⟩, nofun⟩

/-- A bridge without a runtime does nothing. -/
theorem goes_unconnected (hruntimes : s.world.runtimes = #[.simulated rig]) {index : Nat}
    (hcaller : action.caller = some index)
    (hnone : ∀ bridge connection, ¬ s.world.Connected index bridge connection) :
    s.Goes lifecycle action rig := by
  rcases Action.exists_rest hcaller with ⟨rest, hact, -, -⟩
  rcases run_enter_of_unconnected hnone with ⟨failure, henter, hfailure⟩
  have hrun : s.run action = (.error failure, s.world) := by
    rw [run_of_caller hact, henter]
  exact goes_of_unchanged hruntimes hrun fun panic hpanic =>
    absurd (Except.error.inj hpanic) (hfailure panic)

/-- A bridge that is left has nothing to stop unless its runtime was started. -/
theorem run_exit (hs : s.Sane lifecycle rig) (index : Nat)
    (hnot : s.phase lifecycle ≠ .started ∨
      ∀ bridge connection, ¬ s.world.Connected index bridge connection) :
    ∃ outcome, s.run (.exit index) = (outcome, s.world) ∧
      ∀ panic, outcome ≠ .error (.panic panic) := by
  unfold run
  rw [Action.act, run_bind]
  by_cases hconnected : ∃ bridge connection, s.world.Connected index bridge connection
  · rcases hconnected with ⟨bridge, connection, hconnected⟩
    have hphase := hnot.resolve_right fun hnone => hnone bridge connection hconnected
    rw [run_leave hconnected, (hs.shared _ _ _ hconnected).2, run_shutdown_of_not_started hphase]
    exact ⟨_, rfl, nofun⟩
  · push Not at hconnected
    rcases run_leave_of_unconnected hconnected with ⟨outcome, hleave, houtcome⟩
    rw [hleave]
    cases outcome with
    | ok _ => exact ⟨_, rfl, nofun⟩
    | error failure =>
        exact ⟨_, rfl, fun panic hpanic => houtcome panic (congrArg _ (Except.error.inj hpanic))⟩

theorem goes_exit (hs : s.Sane lifecycle rig) {index : Nat}
    (hnot : s.phase lifecycle ≠ .started ∨
      ∀ bridge connection, ¬ s.world.Connected index bridge connection) :
    s.Goes lifecycle (.exit index) rig := by
  rcases run_exit hs _ hnot with ⟨outcome, hrun, hpanic⟩
  exact goes_of_unchanged hs.runtimes hrun fun panic h => absurd h (hpanic panic)

/-- While the lifecycle is idle, a bridge that needs the runtime starts it if it can. -/
theorem goes_idle_connected (hs : s.Sane lifecycle rig) (hidle : s.phase lifecycle = .idle)
    {index : Nat} {bridge : Bridge} {connection : Connection}
    (hcaller : action.caller = some index)
    (hconnected : s.world.Connected index bridge connection) :
    s.Goes lifecycle action rig ∧
      (rig.simulation.refusesStart = true → s.run action =
        (.error (.bridge (.foreignRuntime .start "sim runtime failed to start")),
          s.world.withRig { rig with simulation := rig.simulation.refused })) ∧
      (rig.simulation.refusesStart = false →
        (s.after action).world.phaseOf lifecycle = .started) := by
  rcases Action.exists_rest hcaller with ⟨rest, hact, hrest, -⟩
  rcases hs.shared _ _ _ hconnected with ⟨hindex, hlifecycle⟩
  have hfresh : rig.simulation.phase = .fresh := by
    rw [hs.matched, hidle]
    rfl
  have henter := run_enter hconnected
  rw [hindex, hlifecycle] at henter
  cases hrefuses : rig.simulation.refusesStart with
  | true =>
      rw [run_ensure_of_refused hidle hs.runtimes hfresh hrefuses] at henter
      have hrun : s.run action =
          (.error (.bridge (.foreignRuntime .start "sim runtime failed to start")),
            s.world.withRig { rig with simulation := rig.simulation.refused }) := by
        rw [run_of_caller hact, henter]
      refine ⟨⟨.refused hidle hrefuses (congrArg Prod.snd hrun), ?_⟩, fun _ => hrun, nofun⟩
      rw [hrun]
      exact nofun
  | false =>
      rcases run_ensure_of_idle hidle hs.runtimes hfresh hrefuses bridge.settings.searchPaths with
        ⟨w, hensure, hruntimes, hbridges, hstarted⟩
      rw [hensure] at henter
      have hrun : s.run action = (rest connection).run.run w := by
        rw [run_of_caller hact, henter]
      have hpaths : rig.simulation.searchPaths = [] := (hs.unused hidle).2
      have hlife : (rig.simulation.started bridge.settings.searchPaths).life =
          (.running, rig.simulation.startCount + 1, bridge.settings.searchPaths) := by
        unfold Simulation.life Simulation.started
        rw [hpaths, List.nil_append]
      have hstays : w.Stays (fun runtime => runtime.life =
          (.running, rig.simulation.startCount + 1, bridge.settings.searchPaths)) w :=
        ⟨⟨_, hruntimes, hlife⟩, SameGates.refl w⟩
      have hafter := hrest w _ connection rfl w hstays
      unfold Meets at hafter
      unfold Goes after
      rw [hrun]
      rcases houtcome : (rest connection).run.run w with ⟨outcome, w'⟩
      rw [houtcome] at hafter
      have hcourse : w.Stays (fun runtime => runtime.life =
          (.running, rig.simulation.startCount + 1, bridge.settings.searchPaths)) w' →
          s.Course lifecycle action rig w' ∧ w'.phaseOf lifecycle = .started := by
        intro hw'
        have hphase := (hw'.2.phaseOf lifecycle).trans hstarted
        exact ⟨.starts hidle hrefuses hcaller hconnected hw'.1 (hw'.2.1.trans hbridges) hphase, hphase⟩
      cases outcome with
      | ok handles => exact ⟨⟨(hcourse hafter).1, nofun⟩, nofun, fun _ => (hcourse hafter).2⟩
      | error failure =>
          refine ⟨⟨(hcourse hafter.2).1, fun panic hpanic => ?_⟩, nofun,
            fun _ => (hcourse hafter.2).2⟩
          exact hafter.1 panic (Except.error.inj hpanic)

theorem goes_idle (hs : s.Sane lifecycle rig) (hidle : s.phase lifecycle = .idle)
    (hallowed : s.Allows action) : s.Goes lifecycle action rig := by
  have hnone : ∀ v : Value, (v.handles : Multiset Handle) ≤ s.handles → v.handles = [] := by
    intro v hv
    rw [(hs.unused hidle).1] at hv
    exact Multiset.coe_eq_zero _ |>.1 (Multiset.le_zero.1 hv)
  have hcaller : ∀ index, action.caller = some index → s.Goes lifecycle action rig := by
    intro index hcaller
    by_cases hconnected : ∃ bridge connection, s.world.Connected index bridge connection
    · rcases hconnected with ⟨bridge, connection, hconnected⟩
      exact (goes_idle_connected hs hidle hcaller hconnected).1
    · push Not at hconnected
      exact goes_unconnected hs.runtimes hcaller hconnected
  cases action with
  | init bridge | serve bridge entry | members h => exact hcaller _ rfl
  | exit index =>
      apply goes_exit hs
      rw [hidle]
      exact .inl nofun
  | clone v =>
      have hrun : s.run (.clone v) = (.ok [], s.world) := by
        unfold run
        rw [Action.act, hnone v hallowed]
        rfl
      exact goes_of_unchanged hs.runtimes hrun nofun
  | drop v =>
      have hrun : s.run (.drop v) = (.ok [], s.world) := by
        unfold run
        rw [Action.act, dropValue, hnone v hallowed]
        rfl
      exact goes_of_unchanged hs.runtimes hrun nofun
  | outside other => exact goes_outside hs.runtimes hallowed

/-- A bridge that is left stops its runtime if it was started. -/
theorem goes_exit_connected (hs : s.Sane lifecycle rig) (hstarted : s.phase lifecycle = .started)
    {index : Nat} {bridge : Bridge} {connection : Connection}
    (hconnected : s.world.Connected index bridge connection) :
    s.Goes lifecycle (.exit index) rig ∧ (s.after (.exit index)).phase lifecycle = .finished := by
  have hrunning : rig.simulation.phase = .running := by
    rw [hs.matched, hstarted]
    rfl
  rcases hs.shared _ _ _ hconnected with ⟨hindex, hlifecycle⟩
  rcases run_shutdown_of_started hstarted hs.runtimes hrunning with
    ⟨w, hshutdown, hruntimes, hbridges, hfinished⟩
  have hrun : s.run (.exit index) = (.ok [], w) := by
    unfold run
    rw [Action.act, run_bind, run_leave hconnected, hindex, hlifecycle, hshutdown]
    rfl
  unfold Goes after
  rw [hrun]
  exact ⟨⟨.stops hstarted rfl ⟨_, hruntimes, rfl⟩ hbridges hfinished, nofun⟩, hfinished⟩

/-- While the runtime runs, only leaving a bridge stops it. -/
theorem goes_started (hs : s.Sane lifecycle rig) (hstarted : s.phase lifecycle = .started)
    (hallowed : s.Allows action) : s.Goes lifecycle action rig := by
  have hrunning : rig.simulation.life.1 = .running := by
    rw [show rig.simulation.life.1 = rig.simulation.phase from rfl, hs.matched, hstarted]
    rfl
  have hlasting := Simulation.lasting_life hrunning
  have hcaller : ∀ index, action.caller = some index → s.Goes lifecycle action rig := by
    intro index hcaller
    by_cases hconnected : ∃ bridge connection, s.world.Connected index bridge connection
    · rcases hconnected with ⟨bridge, connection, hconnected⟩
      rcases Action.exists_rest hcaller with ⟨rest, hact, hrest, -⟩
      have hphase : s.world.phaseOf connection.lifecycle = .started := by
        rw [(hs.shared _ _ _ hconnected).2]
        exact hstarted
      have hrun : s.run action = (rest connection).run.run s.world := by
        rw [run_of_caller hact, run_enter_of_started hconnected.1 hconnected.2 hphase]
      exact goes_of_abides hs.runtimes hrun (hrest _ _ connection hrunning)
    · push Not at hconnected
      exact goes_unconnected hs.runtimes hcaller hconnected
  cases action with
  | init bridge | serve bridge entry | members h => exact hcaller _ rfl
  | exit index =>
      by_cases hconnected : ∃ bridge connection, s.world.Connected index bridge connection
      · rcases hconnected with ⟨bridge, connection, hconnected⟩
        exact (goes_exit_connected hs hstarted hconnected).1
      · push Not at hconnected
        exact goes_exit hs (.inr hconnected)
  | clone v =>
      apply goes_of_abides hs.runtimes rfl
      exact Abides.bind (abides_cloneHandles (tends_stays _ hlasting) v.handles) fun _ => Abides.pure
  | drop v =>
      apply goes_of_abides hs.runtimes rfl
      exact Abides.bind (abides_dropHandles (tends_stays _ hlasting) v.handles) fun _ => Abides.pure
  | outside other => exact goes_outside hs.runtimes hallowed

/-- After the runtime was shut down, it is not reached. -/
theorem run_finished_caller (hs : s.Sane lifecycle rig) (hfinished : s.phase lifecycle = .finished)
    {index : Nat} {bridge : Bridge} {connection : Connection} (hcaller : action.caller = some index)
    (hconnected : s.world.Connected index bridge connection) :
    s.run action = (.error (.panic (.usedAfterShutdown "sim")), s.world) := by
  rcases Action.exists_rest hcaller with ⟨rest, hact, -, -⟩
  rcases hs.shared _ _ _ hconnected with ⟨hindex, hlifecycle⟩
  have hphase : s.world.phaseOf connection.lifecycle = .finished := by
    rw [hlifecycle]
    exact hfinished
  rw [run_of_caller hact, run_enter_of_finished hconnected hphase, hindex,
    runtimeName_of_simulated hs.runtimes]

theorem run_finished_clone (hs : s.Sane lifecycle rig) (hfinished : s.phase lifecycle = .finished)
    {v : Value} (hv : (v.handles : Multiset Handle) ≤ s.handles) (hsome : v.handles ≠ []) :
    ∃ ref, s.run (.clone v) = (.error (.panic (.clonedAfterShutdown ref)), s.world) := by
  cases hhandles : v.handles with
  | nil => exact absurd hhandles hsome
  | cons h rest =>
      have hmem : h ∈ (v.handles : Multiset Handle) := by
        rw [hhandles]
        exact List.mem_cons_self
      rcases hs.connected h (Multiset.mem_of_le hv hmem) with ⟨bridge, connection, hconnected⟩
      have hphase : s.world.phaseOf connection.lifecycle = .finished := by
        rw [(hs.shared _ _ _ hconnected).2]
        exact hfinished
      refine ⟨h.ref, ?_⟩
      unfold run
      rw [Action.act, run_bind, hhandles, run_cloneHandles_of_finished rest hconnected hphase]

theorem run_finished_drop (hs : s.Sane lifecycle rig) (hfinished : s.phase lifecycle = .finished)
    {v : Value} (hv : (v.handles : Multiset Handle) ≤ s.handles) :
    ∃ w, s.run (.drop v) = (.ok [], w) ∧ w.runtimes = s.world.runtimes ∧ s.world.SameGates w := by
  have hall : ∀ h ∈ v.handles, ∃ bridge connection,
      s.world.Connected h.context bridge connection ∧
        s.world.phaseOf connection.lifecycle = .finished := by
    intro h hh
    rcases hs.connected h (Multiset.mem_of_le hv hh) with ⟨bridge, connection, hconnected⟩
    refine ⟨bridge, connection, hconnected, ?_⟩
    rw [(hs.shared _ _ _ hconnected).2]
    exact hfinished
  rcases run_dropHandles_of_finished hall with ⟨w, hdrop, hruntimes, hgates⟩
  refine ⟨w, ?_, hruntimes, hgates⟩
  unfold run
  rw [Action.act, dropValue, run_bind, hdrop]
  rfl

theorem goes_finished (hs : s.Sane lifecycle rig) (hfinished : s.phase lifecycle = .finished)
    (hallowed : s.Allows action) : s.Goes lifecycle action rig := by
  have hcaller : ∀ index, action.caller = some index → s.Goes lifecycle action rig := by
    intro index hcaller
    by_cases hconnected : ∃ bridge connection, s.world.Connected index bridge connection
    · rcases hconnected with ⟨bridge, connection, hconnected⟩
      refine goes_of_unchanged hs.runtimes
        (run_finished_caller hs hfinished hcaller hconnected) fun panic hpanic => ?_
      cases hpanic
      rfl
    · push Not at hconnected
      exact goes_unconnected hs.runtimes hcaller hconnected
  cases action with
  | init bridge | serve bridge entry | members h => exact hcaller _ rfl
  | exit index =>
      apply goes_exit hs
      rw [hfinished]
      exact .inl nofun
  | clone v =>
      by_cases hnone : v.handles = []
      · have hrun : s.run (.clone v) = (.ok [], s.world) := by
          unfold run
          rw [Action.act, hnone]
          rfl
        exact goes_of_unchanged hs.runtimes hrun nofun
      · rcases run_finished_clone hs hfinished hallowed hnone with ⟨ref, hrun⟩
        refine goes_of_unchanged hs.runtimes hrun fun panic hpanic => ?_
        cases hpanic
        rfl
  | drop v =>
      rcases run_finished_drop hs hfinished hallowed with ⟨w, hrun, hruntimes, hgates⟩
      unfold Goes
      rw [hrun]
      exact ⟨.rests ⟨⟨rig, hruntimes.trans hs.runtimes, rfl⟩, hgates⟩, nofun⟩
  | outside other => exact goes_outside hs.runtimes hallowed

theorem goes_of_sane (hs : s.Sane lifecycle rig) (hallowed : s.Allows action) :
    s.Goes lifecycle action rig := by
  cases hphase : s.phase lifecycle with
  | idle => exact goes_idle hs hphase hallowed
  | started => exact goes_started hs hphase hallowed
  | finished => exact goes_finished hs hphase hallowed

end Scene
end Session
end ForeignBridge
