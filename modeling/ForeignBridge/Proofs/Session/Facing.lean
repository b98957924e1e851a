import ForeignBridge.Proofs.Chains.Factoring
import ForeignBridge.Proofs.Session.Chains
import ForeignBridge.Proofs.Session.Safety

/-!
# What an entered bridge faces

Once a bridge is entered, a request to it is a crossing against its runtime.  What the crossing comes to
is what the host gets, and the world afterwards holds the runtime that the crossing leaves, and all else as
it was.  So requests that come to the same against the runtime come to the same for the host.
-/

namespace ForeignBridge
namespace Session
namespace World

open Simulation

variable {α : Type} {w entered after : World} {index depth : Nat} {bridge : Bridge} {lifecycle : LifecycleId}
  {s s' : Simulation} {entry : Entry} {outcome : Except BridgeError Reply}

/-- A bridge is entered, and faces its runtime in a state. -/
structure Facing (w : World) (index : Nat) (bridge : Bridge) (lifecycle : LifecycleId) (depth : Nat)
    (entered : World) (s : Simulation) : Prop where
  enters : (enter index).run.run w = (.ok ⟨0, lifecycle, true⟩, entered)
  connected : entered.Connected index bridge ⟨0, lifecycle, true⟩
  started : entered.phaseOf lifecycle = .started
  hosts : entered.Hosts depth s

/-- The crossing of a request. -/
def crossing (entered : World) (index : Nat) (bridge : Bridge) (lifecycle : LifecycleId)
    (entry : Entry) : Crossing Reply :=
  (entered.contextOf index bridge ⟨0, lifecycle, true⟩).serve entry

/-- No function is in the way of a request: it calls none, or does not panic, or all functions that are
there return. -/
def Unhindered (w : World) (rig : Rig) (index : Nat) (entry : Entry) : Prop :=
  entry.calls = false ∨ (∀ panic, (w.served index entry).1 ≠ .error (.panic panic)) ∨
    ∃ library, Dependable rig.callDepth library ∧ rig.simulation.Uses library

namespace Facing

/-- A bridge whose lifecycle is started faces its runtime at once. -/
theorem of_started (hconnected : w.Connected index bridge ⟨0, lifecycle, true⟩)
    (hstarted : w.phaseOf lifecycle = .started) (hhosts : w.Hosts depth s) :
    w.Facing index bridge lifecycle depth w s :=
  ⟨run_enter_of_started hconnected.1 hconnected.2 hstarted, hconnected, hstarted, hhosts⟩

/-- What is done in an entered bridge is a program that the runtime answers. -/
theorem crossed_eq (hfacing : w.Facing index bridge lifecycle depth entered s)
    (f : Context → Crossing α) :
    (cross index f).run.run w =
      match (Program.run (answer ⟨0, lifecycle, true⟩) record
        (f (entered.contextOf index bridge ⟨0, lifecycle, true⟩)).run).outcome entered with
      | (.ok (.ok a), after) => (.ok a, after)
      | (.ok (.error error), after) => (.error (.bridge error), after)
      | (.error panic, after) => (.error (.panic panic), after) := by
  have hrun : (crossEntered index f ⟨0, lifecycle, true⟩).run.run entered = _ :=
    run_crossEntered hfacing.connected.1 _
  have hentered : (cross index f).run.run w =
      (crossEntered index f ⟨0, lifecycle, true⟩).run.run entered := by
    rw [cross_eq, run_bind, hfacing.enters]
  refine (hentered.trans hrun).trans ?_
  rcases (Program.run (answer ⟨0, lifecycle, true⟩) record
    (f (entered.contextOf index bridge ⟨0, lifecycle, true⟩)).run).outcome entered with
    ⟨outcome, after⟩
  rcases outcome with panic | (error | reply)
  · rfl
  · rfl
  · rfl

theorem carries (hfacing : w.Facing index bridge lifecycle depth entered s) :
    entered.Carries depth entered s := ⟨hfacing.hosts, SameGates.refl entered, rfl⟩

/-- The bridge goes on facing the runtime that a request left. -/
theorem next (hfacing : w.Facing index bridge lifecycle depth entered s)
    (hcarries : entered.Carries depth after s') :
    after.Facing index bridge lifecycle depth after s' := by
  refine of_started (hfacing.connected.of_sameGates hcarries.gates) ?_ hcarries.hosts
  rw [hcarries.gates.phaseOf]
  exact hfacing.started

/-- Requests are crossings in the same context as before. -/
theorem crossing_eq (hfacing : w.Facing index bridge lifecycle depth entered s)
    (hcarries : entered.Carries depth after s') (entry : Entry) :
    after.crossing index bridge lifecycle entry = entered.crossing index bridge lifecycle entry := by
  unfold crossing
  rw [hcarries.contextOf hfacing.hosts]

/-- What the host gets is what the crossing comes to. -/
theorem crossed_of_comes (hfacing : w.Facing index bridge lifecycle depth entered s)
    {f : Context → Crossing α} {outcome : Except BridgeError α}
    (hcomes : (f (entered.contextOf index bridge ⟨0, lifecycle, true⟩)).Comes
      (Simulation.answer (Simulation.run depth)) s outcome s') :
    ∃ after, (cross index f).run.run w = (outcome.mapError Failure.bridge, after) ∧
      entered.Carries depth after s' := by
  have hanswers : ∀ (r : Request) (given : r.Answer) s s' t, entered.Carries depth t s →
      (Simulation.answer (Simulation.run depth) r).outcome s = (.ok given, s') →
      ∃ t', (answer ⟨0, lifecycle, true⟩ r).outcome t = (.ok given, t') ∧
        entered.Carries depth t' s' := by
    intro r given s s' t hcarries hanswer
    have hasked : answer ⟨0, lifecycle, true⟩ r = inRuntime 0 (Runtime.answer r) := by
      cases r <;> rfl
    refine ⟨{ t with runtimes := #[.simulated ⟨s', [], depth⟩] }, ?_, rfl, hcarries.gates,
      hcarries.nesting⟩
    rw [hasked]
    exact outcome_inRuntime_of_hosts hcarries.hosts hanswer
  have hrecords : ∀ (event : Event) (s : Simulation) (t : World), entered.Carries depth t s →
      entered.Carries depth ((record event).run t).2 s := fun _ _ _ h => ⟨h.hosts, h.gates, h.nesting⟩
  rcases Program.Succeeds.run hanswers hrecords hcomes hfacing.carries with
    ⟨after, houtcome, hcarries⟩
  refine ⟨after, ?_, hcarries⟩
  rw [hfacing.crossed_eq, houtcome]
  cases outcome with
  | ok reply => rfl
  | error error => rfl

/-- A crossing that ran in the world ran against the runtime. -/
theorem comes_of_run (hfacing : w.Facing index bridge lifecycle depth entered s) {c : Crossing α}
    {outcome : Except BridgeError α}
    (hrun : (Program.run (answer ⟨0, lifecycle, true⟩) record c.run).outcome entered =
      (.ok outcome, after)) :
    ∃ s', c.Comes (Simulation.answer (Simulation.run depth)) s outcome s' ∧
      entered.Carries depth after s' :=
  Program.Succeeds.of_run (fun _ _ _ _ _ h => h.exists_answer)
    (fun _ _ _ h => ⟨h.hosts, h.gates, h.nesting⟩) hfacing.carries hrun

/-- A crossing comes to what the host gets. -/
theorem comes_of_crossed (hfacing : w.Facing index bridge lifecycle depth entered s)
    {f : Context → Crossing α} {outcome : Except BridgeError α}
    (hcrossed : (cross index f).run.run w = (outcome.mapError Failure.bridge, after)) :
    ∃ s', (f (entered.contextOf index bridge ⟨0, lifecycle, true⟩)).Comes
      (Simulation.answer (Simulation.run depth)) s outcome s' ∧ entered.Carries depth after s' := by
  rw [hfacing.crossed_eq] at hcrossed
  rcases houtcome : (Program.run (answer ⟨0, lifecycle, true⟩) record
    (f (entered.contextOf index bridge ⟨0, lifecycle, true⟩)).run).outcome entered with
    ⟨result, after'⟩
  rw [houtcome] at hcrossed
  have hresult : result = .ok outcome ∧ after' = after := by
    rcases result with panic | (error | reply)
    · cases outcome <;> cases hcrossed
    · cases outcome with
      | ok reply => cases hcrossed
      | error other =>
          cases hcrossed
          exact ⟨rfl, rfl⟩
    · cases outcome with
      | ok other =>
          cases hcrossed
          exact ⟨rfl, rfl⟩
      | error error => cases hcrossed
  rw [hresult.1, hresult.2] at houtcome
  exact hfacing.comes_of_run houtcome

theorem served_of_comes (hfacing : w.Facing index bridge lifecycle depth entered s)
    (hcomes : (entered.crossing index bridge lifecycle entry).Comes
      (Simulation.answer (Simulation.run depth)) s outcome s') :
    ∃ after, w.served index entry = (outcome.mapError Failure.bridge, after) ∧
      entered.Carries depth after s' :=
  hfacing.crossed_of_comes (f := fun ctx => ctx.serve entry) hcomes

theorem comes_of_served (hfacing : w.Facing index bridge lifecycle depth entered s)
    (hserved : w.served index entry = (outcome.mapError Failure.bridge, after)) :
    ∃ s', (entered.crossing index bridge lifecycle entry).Comes
      (Simulation.answer (Simulation.run depth)) s outcome s' ∧ entered.Carries depth after s' :=
  hfacing.comes_of_crossed (f := fun ctx => ctx.serve entry) hserved

/-- Nothing is asked of a runtime that does not run: the first request ends all. -/
theorem served_of_stopped (hfacing : w.Facing index bridge lifecycle depth entered s)
    (hstopped : s.phase ≠ .running) (r : Request) :
    ∃ panic after, ∀ (entry : Entry) (k : r.Answer → Crossing Reply),
      entered.crossing index bridge lifecycle entry = Crossing.ask r >>= k →
        w.served index entry = (.error (.panic panic), after) := by
  rcases houtcome : (answer ⟨0, lifecycle, true⟩ r).outcome entered with ⟨result, after⟩
  cases result with
  | ok given =>
      rcases hfacing.carries.exists_answer houtcome with ⟨s', hanswer, -⟩
      exact absurd (serve_of_answer hanswer).1 hstopped
  | error panic =>
      refine ⟨panic, after, fun entry k hentry => ?_⟩
      have hrun : (Program.run (answer ⟨0, lifecycle, true⟩) record
          (entered.crossing index bridge lifecycle entry).run).outcome entered =
            (.error panic, after) := by
        have hasked : (Crossing.ask r >>= k).run = Program.ask r fun given => (k given).run := rfl
        rw [hentry, hasked, Program.outcome_run, Program.runHolding_ask, houtcome]
        rfl
      have hserved : w.served index entry = _ := hfacing.crossed_eq fun ctx => ctx.serve entry
      rw [hserved]
      unfold crossing at hrun
      rw [hrun]

/-- A request that does not panic comes to a reply or to an error. -/
theorem exists_comes_of_served (hfacing : w.Facing index bridge lifecycle depth entered s)
    (hreturns : ∀ panic, (w.served index entry).1 ≠ .error (.panic panic)) :
    ∃ outcome s', (entered.crossing index bridge lifecycle entry).Comes
      (Simulation.answer (Simulation.run depth)) s outcome s' := by
  have hserved : w.served index entry = _ := hfacing.crossed_eq fun ctx => ctx.serve entry
  rcases houtcome : (Program.run (answer ⟨0, lifecycle, true⟩) record
    (entered.crossing index bridge lifecycle entry).run).outcome entered with ⟨result, after⟩
  cases result with
  | ok outcome =>
      rcases hfacing.comes_of_run houtcome with ⟨s', hcomes, -⟩
      exact ⟨outcome, s', hcomes⟩
  | error panic =>
      unfold crossing at houtcome
      rw [houtcome] at hserved
      rw [hserved] at hreturns
      exact absurd rfl (hreturns panic)

/-- If nothing is in the way of it, a request about objects that are held comes to a reply or to an
error. -/
theorem exists_comes {rig : Rig} (hfacing : w.Facing index bridge lifecycle rig.callDepth entered s)
    (hagrees : rig.simulation.Agrees s) {held : Multiset Ref} (hs : s.Sound held)
    (hrunning : s.phase = .running) (hfree : w.Unhindered rig index entry)
    (hhandles : ∀ h ∈ entry.handles, h.context = index → h.ref ∈ held) :
    ∃ outcome s', (entered.crossing index bridge lifecycle entry).Comes
      (Simulation.answer (Simulation.run rig.callDepth)) s outcome s' := by
  have hworks : ∀ library, rig.simulation.Uses library →
      ((entered.crossing index bridge lifecycle entry).Asks fun r =>
        r.calls = true → Dependable rig.callDepth library) →
      ∃ outcome s', (entered.crossing index bridge lifecycle entry).Comes
        (Simulation.answer (Simulation.run rig.callDepth)) s outcome s' := by
    intro library huses hasks
    have hlends : (entered.contextOf index bridge ⟨0, lifecycle, true⟩).Lends
        ⟨(· ∈ held), fun _ => False⟩ entry.handles := hhandles
    have hcustody : Crossing.Custody true (· ∈ held) ⟨(· ∈ held), fun _ => False⟩ 0
        (entered.crossing index bridge lifecycle entry) fun reply => (reply.refs : Multiset Ref) :=
      Context.custody_serve _ entry hlends
    have huses' : s.Uses library := by
      unfold Uses
      rw [hagrees.heap]
      exact huses
    have hruntime : (⟨0, lifecycle, true⟩ : Connection).runtime = 0 := rfl
    rcases exists_crossing hruntime hcustody hasks ⟨s, hfacing.hosts, hs, hrunning, huses'⟩ with
      ⟨outcome, after, houtcome⟩
    rcases hfacing.comes_of_run houtcome with ⟨s', hcomes, -⟩
    exact ⟨outcome, s', hcomes⟩
  rcases hfree with hcalls | hreturns | ⟨library, hlibrary, huses⟩
  · have habstains := Context.abstains_serve (entered.contextOf index bridge ⟨0, lifecycle, true⟩) hcalls
    refine hworks (fun _ => True) (fun _ object _ => ?_) (habstains.mono fun r hr hcalls' => ?_)
    · cases object <;> trivial
    · exact absurd (hr.symm.trans hcalls') Bool.false_ne_true
  · exact hfacing.exists_comes_of_served hreturns
  · exact hworks library huses (Crossing.asks_of_forall (fun _ _ => hlibrary) _)

end Facing

/-- A bridge that is not entered serves no request. -/
theorem crossed_of_refused {failure : Failure} (henter : (enter index).run.run w = (.error failure, after))
    (f : Context → Crossing α) : (cross index f).run.run w = (.error failure, after) := by
  rw [cross_eq, run_bind, henter]

/-!
# Entering
-/

theorem outcome_start_of_hosts (hhosts : w.Hosts depth s) (paths : List String) :
    (inRuntime 0 (Runtime.start paths)).outcome w =
      (((Simulation.start paths).outcome s).1.map fun running => (running, []),
        { w with runtimes := #[.simulated ⟨((Simulation.start paths).outcome s).2, [], depth⟩] }) := by
  unfold Hosts at hhosts
  have hsome : w.runtimes[0]? = some (.simulated ⟨s, [], depth⟩) := by
    rw [hhosts]
    rfl
  have hstart : (Runtime.start paths).outcome (.simulated ⟨s, [], depth⟩) =
      (((Simulation.start paths).outcome s).1.map fun running => (running, []),
        .simulated ⟨((Simulation.start paths).outcome s).2, [], depth⟩) := by
    have hperform : (Runtime.start paths).outcome (.simulated ⟨s, [], depth⟩) =
        ((((·, ([] : List String)) <$> Rig.inSimulation (Simulation.start paths)).outcome
          ⟨s, [], depth⟩).1, .simulated (((·, ([] : List String)) <$>
            Rig.inSimulation (Simulation.start paths)).outcome ⟨s, [], depth⟩).2) := rfl
    have hwithin : (Rig.inSimulation (Simulation.start paths)).outcome ⟨s, [], depth⟩ =
        (((Simulation.start paths).outcome s).1, ⟨((Simulation.start paths).outcome s).2, [], depth⟩) :=
      rfl
    rw [hperform, map_eq_pure_bind, Attempt.outcome_bind, hwithin]
    rcases (Simulation.start paths).outcome s with ⟨outcome, s'⟩
    cases outcome with
    | ok running => rfl
    | error panic => rfl
  rw [outcome_inRuntime hsome, hstart, hhosts]
  rfl

/-- However it ends, to start a runtime leaves it with the same objects, modules and depth of calls. -/
theorem abides_ensure_hosts (depth : Nat) (first : Simulation) (lifecycle : LifecycleId) (paths : List String) :
    Abides (fun w => ∃ s, w.Hosts depth s ∧ first.Agrees s) (fun _ => True)
      (ensure lifecycle 0 paths) := by
  refine abides_ensure_of_start (fun _ _ hw => hw) (fun _ _ hw => hw) (fun _ => trivial) ?_ lifecycle
    paths
  rintro paths w ⟨s, hhosts, hagrees⟩
  have hupholds : (Simulation.start paths).Upholds (Simulation.Agrees first) fun _ => True :=
    Simulation.upholds_start paths
  have hkept := hupholds s hagrees
  unfold Attempt.Meets at hkept ⊢
  rw [outcome_start_of_hosts hhosts]
  rcases houtcome : (Simulation.start paths).outcome s with ⟨outcome, s'⟩
  rw [houtcome] at hkept
  cases outcome with
  | ok running => exact ⟨s', rfl, hkept⟩
  | error panic => exact ⟨trivial, s', rfl, hkept.2⟩

/-- A handle is dropped, and its reference is owed no more. -/
theorem run_dropHandle_of_owes {h : Handle} (hconnected : w.Connected h.context bridge ⟨0, lifecycle, true⟩)
    (hstarted : w.phaseOf lifecycle = .started) (hhosts : w.Hosts depth s')
    (hrunning : s'.phase = .running) (howes : s'.Owes [h.ref] s) :
    ∃ dropped, (dropHandle h).run.run w = (.ok (), dropped) ∧ dropped.Hosts depth s := by
  have hanswer : (Simulation.answer (Simulation.run depth) (.release h.ref)).outcome s' = (.ok (), s) := by
    have hrelease : (Program.releaseAll [h.ref]).Succeeds
        (Simulation.answer (Simulation.run depth)) s' () s := howes.succeeds_releaseAll hrunning
    cases hrelease with
    | ask hanswer hnext =>
        cases hnext
        exact hanswer
  have hopen : w.phaseOf lifecycle ≠ .finished := by
    rw [hstarted]
    exact Phase.noConfusion
  rcases hosts_answer depth lifecycle (.release h.ref) () s' s w hhosts hanswer with
    ⟨dropped, hdropped, hdroppedHosts⟩
  refine ⟨dropped, ?_, hdroppedHosts⟩
  unfold dropHandle
  rw [run_bind, run_connectionOf hconnected]
  dsimp only
  rw [run_get_bind]
  rw [if_neg hopen, run_ofAttempt, hdropped]

end World

namespace Ledger

open World Simulation

/-- The books of a runtime that a bridge faces after a run are in order. -/
theorem sound_of_facing {l : Ledger} (hl : Reachable l) {index depth : Nat} {bridge : Bridge}
    {lifecycle : LifecycleId} {entered : World} {s : Simulation}
    (hfacing : l.world.Facing index bridge lifecycle depth entered s) :
    s.Sound ((Value.refsAll l.values : Multiset Ref) + l.owned) := by
  rcases kept_of_reachable (hl.step (Step.enter hfacing.enters)) with ⟨rig, hrig, -, hsound⟩
  rw [show entered.runtimes = _ from hfacing.hosts] at hrig
  cases hrig
  exact hsound

/-- After a run a bridge is not entered, or it faces the runtime of the run. -/
theorem facing_of_reachable {l : Ledger} (hl : Reachable l) {rig : Rig}
    (hruntimes : l.world.runtimes = #[.simulated rig]) {index : Nat} {bridge : Bridge}
    {lifecycle : LifecycleId} (hconnected : l.world.Connected index bridge ⟨0, lifecycle, true⟩) :
    (∃ failure w, (enter index).run.run l.world = (.error failure, w)) ∨
      ∃ entered s, l.world.Facing index bridge lifecycle rig.callDepth entered s ∧
        rig.simulation.Agrees s ∧ s.Sound ((Value.refsAll l.values : Multiset Ref) + l.owned) := by
  rcases kept_of_reachable hl with ⟨rig', hruntimes', hfaults, -⟩
  have hsame : rig' = rig := by
    have hboth := hruntimes'.symm.trans hruntimes
    cases hboth
    rfl
  rw [hsame] at hfaults
  have hhosts : l.world.Hosts rig.callDepth rig.simulation := by
    unfold Hosts
    rw [hruntimes, ← hfaults]
  have hentered := meets_enter index ⟨rig, hruntimes, Agrees.refl rig.simulation⟩
  have hensured := abides_ensure_hosts rig.callDepth rig.simulation lifecycle
    bridge.settings.searchPaths l.world ⟨_, hhosts, Agrees.refl rig.simulation⟩
  have hbridges := bridges_enter hconnected
  unfold Meets at hentered hensured
  rw [run_enter hconnected] at hentered hbridges
  rcases hrun : (ensure lifecycle 0 bridge.settings.searchPaths).run.run l.world with ⟨outcome, entered⟩
  have henter := run_enter hconnected
  dsimp only at hentered hbridges henter
  rw [hrun] at hentered hensured hbridges henter
  cases outcome with
  | error failure => exact .inl ⟨failure, entered, henter⟩
  | ok _ =>
      rcases hensured with ⟨s, hs, hagrees⟩
      have hconnected' : entered.Connected index bridge ⟨0, lifecycle, true⟩ := by
        refine ⟨?_, hconnected.2⟩
        rw [hbridges]
        exact hconnected.1
      refine .inr ⟨entered, s, ⟨henter, hconnected', hentered.started, hs⟩, hagrees, ?_⟩
      rcases kept_of_reachable (hl.step (Step.enter henter)) with ⟨rig'', hrig'', -, hsound⟩
      rw [show entered.runtimes = _ from hs] at hrig''
      cases hrig''
      exact hsound

end Ledger
end Session
end ForeignBridge
