import ForeignBridge.Proofs.Session.Conservation
import ForeignBridge.Proofs.Session.Lifecycle

/-!
# Supervised runs

A run is supervised if all bridges share one lifecycle, through which alone the runtime is started and
stopped.  Otherwise the runtime is used past the bridges as in every run.  However such a run goes, the
runtime is in the phase of its lifecycle, and all handles of the host are of bridges that have a runtime.
-/

namespace ForeignBridge
namespace Session
namespace Ledger

open World

/-- The runtime is started or stopped past the bridges. -/
def Bypasses (w w' : World) : Prop :=
  (∃ paths, w.Yields (Simulation.start paths) true w') ∨ w.Yields Simulation.stop () w'

/-- The world of a ledger with the handles that the host has of it. -/
def scene (l : Ledger) : Scene := ⟨l.world, (Value.handlesAll l.values : Multiset Handle)⟩

/-- What a supervised run leads to. -/
inductive Supervised (lifecycle : LifecycleId) : Ledger → Prop where
  | fresh {w : World} {depth : Nat} (hruntimes : w.runtimes = #[.simulated ⟨.fresh, [], depth⟩])
      (hbindings : w.bindings = .empty) (hidle : w.phaseOf lifecycle = .idle)
      (hshared : (scene ⟨w, [], 0⟩).Shares lifecycle) : Supervised lifecycle ⟨w, [], 0⟩
  | step {l l' : Ledger} (hl : Supervised lifecycle l) (hstep : Step l l')
      (hgated : ¬ Bypasses l.world l'.world) : Supervised lifecycle l'
  /-- A handle is asked for its members. -/
  | asked {l : Ledger} {w : World} {h : Handle} {names : List String} (hl : Supervised lifecycle l)
      (hasked : (cross h.context fun ctx => ctx.memberNames h).run.run l.world = (.ok names, w)) :
      Supervised lifecycle ⟨w, l.values, l.owned⟩
  /-- A handle has no members to report. -/
  | unanswered {l : Ledger} {w : World} {h : Handle} {error : BridgeError}
      (hl : Supervised lifecycle l)
      (hasked : (cross h.context fun ctx => ctx.memberNames h).run.run l.world =
        (.error (.bridge error), w)) :
      Supervised lifecycle ⟨w, l.values, l.owned⟩

variable {lifecycle : LifecycleId} {l : Ledger}

/-!
# The books of a supervised run
-/

theorem keeps_memberNames (h : Handle) :
    Keeps 0 (cross h.context fun ctx => ctx.memberNames h) fun _ => 0 :=
  keeps_cross h.context fun ctx => ctx.owns_memberNames h

theorem kept_of_supervised (hl : Supervised lifecycle l) : Kept l := by
  induction hl with
  | fresh hruntimes _ _ _ => exact kept_fresh hruntimes
  | step _ hstep _ ih => exact kept_step ih hstep
  | @asked l w h names _ hasked ih =>
      have hafter := sound_of_ok (keeps_memberNames h) ih hasked
      rw [zero_add] at hafter
      exact hafter
  | @unanswered l w h error _ hasked ih => exact sound_of_bridge (keeps_memberNames h) ih hasked

/-!
# The phase of the runtime
-/

theorem run_pure_of_ok {α β : Type} {act : Act α} {w w' : World} {a : α} (f : α → β)
    (h : act.run.run w = (.ok a, w')) : (act >>= fun a => pure (f a)).run.run w = (.ok (f a), w') := by
  rw [run_bind, h]
  rfl

theorem run_pure_of_error {α β : Type} {act : Act α} {w w' : World} {failure : Failure}
    (f : α → β) (h : act.run.run w = (.error failure, w')) :
    (act >>= fun a => pure (f a)).run.run w = (.error failure, w') := by
  rw [run_bind, h]

variable {rig : Rig}

/-- What the host is given by an action, and what it drops, is counted by its handles. -/
theorem sane_of_run {action : Action} {outcome : Except Failure (List Handle)} {w : World}
    {values : List Value} {owned : Multiset Ref} (hs : (scene l).Sane lifecycle rig)
    (hallowed : (scene l).Allows action) (hrun : action.act.run.run l.world = (outcome, w))
    (hhandles : ((outcome.toOption.getD [] : List Handle) : Multiset Handle) +
      ((Value.handlesAll l.values : Multiset Handle) - action.dropped) = Value.handlesAll values) :
    ∃ rig', (scene ⟨w, values, owned⟩).Sane lifecycle rig' := by
  rcases Scene.sane_after hs hallowed with ⟨rig', hsane, -⟩
  have hafter : (scene l).after action = scene ⟨w, values, owned⟩ := by
    have hscene : (scene l).run action = (outcome, w) := hrun
    unfold Scene.after
    rw [hscene]
    exact congrArg (Scene.mk w) hhandles
  rw [← hafter]
  exact ⟨rig', hsane⟩

/-- What leaves the handles of the host alone. -/
theorem sane_of_same {action : Action} {outcome : Except Failure (List Handle)} {w : World}
    (hs : (scene l).Sane lifecycle rig) (hallowed : (scene l).Allows action)
    (hrun : action.act.run.run l.world = (outcome, w)) (hnone : outcome.toOption.getD [] = [])
    (hdropped : action.dropped = []) : ∃ rig', (scene ⟨w, l.values, l.owned⟩).Sane lifecycle rig' := by
  apply sane_of_run hs hallowed hrun
  rw [hnone, hdropped, Multiset.coe_nil, zero_add]
  exact tsub_zero _

/-- What is done past the bridges without starting or stopping the runtime. -/
theorem sane_of_yields {α : Type} {attempt : Attempt Simulation α} {a : α} {w : World}
    {owned : Multiset Ref} (hs : (scene l).Sane lifecycle rig) (h : l.world.Yields attempt a w)
    (hlife : ∀ s, attempt.outcome rig.simulation = (.ok a, s) →
      s.phase = rig.simulation.phase ∧ s.searchPaths = rig.simulation.searchPaths) :
    ∃ rig', (scene ⟨w, l.values, owned⟩).Sane lifecycle rig' := by
  rcases h with ⟨rig', s, hruntimes, houtcome, hw⟩
  have hsame : rig' = rig := by
    have hboth := hruntimes.symm.trans hs.runtimes
    cases hboth
    rfl
  rw [hsame] at houtcome hw
  rcases hlife s houtcome with ⟨hphase, hpaths⟩
  rw [hw]
  refine ⟨{ rig with simulation := s }, rfl, hphase.trans hs.matched, hs.shared, hs.connected, ?_⟩
  intro hidle
  exact ⟨(hs.unused hidle).1, hpaths.trans (hs.unused hidle).2⟩

theorem life_of_perform {depth : Nat} {op : Simulation.Op} {answer : op.Answer} {s s' : Simulation}
    (h : (Simulation.perform (Simulation.run depth) op).outcome s = (.ok answer, s')) :
    s'.phase = s.phase ∧ s'.searchPaths = s.searchPaths := by
  have hlasting := Simulation.lasting_life_of s.life
  have hkept := (Simulation.upholds_perform hlasting (Simulation.upholds_run hlasting depth) op).returns
    (show s.life = s.life from rfl)
  have hlife := Attempt.returns_of_outcome hkept h
  exact ⟨(Simulation.life_eq_iff.1 hlife).1, (Simulation.life_eq_iff.1 hlife).2.2⟩

/-- A start that is refused leaves the runtime as it is. -/
theorem life_of_refused {paths : List String} {s s' : Simulation}
    (h : (Simulation.start paths).outcome s = (.ok false, s')) :
    s'.phase = s.phase ∧ s'.searchPaths = s.searchPaths := by
  rcases s with ⟨heap, modules, phase, count, refuses, searchPaths, pending, called, names⟩
  cases phase <;> cases refuses <;> cases h <;> exact ⟨rfl, rfl⟩

theorem coe_handlesAll_cons (v : Value) (others : List Value) :
    (Value.handlesAll (v :: others) : Multiset Handle) =
      (v.handles : Multiset Handle) + Value.handlesAll others := by
  rw [Multiset.coe_add]
  rfl

/-- One step that neither starts nor stops the runtime past the bridges. -/
theorem sane_step {l' : Ledger} (hs : (scene l).Sane lifecycle rig) (hstep : Step l l')
    (hgated : ¬ Bypasses l.world l'.world) : ∃ rig', (scene l').Sane lifecycle rig' := by
  cases hstep with
  | operate depth hnames howned h => exact sane_of_yields hs h fun s => life_of_perform
  | define hbody h =>
      refine sane_of_yields hs h fun s houtcome => ?_
      cases houtcome
      exact ⟨rfl, rfl⟩
  | @start w paths running h =>
      cases running with
      | true => exact absurd (.inl ⟨paths, h⟩) hgated
      | false => exact sane_of_yields hs h fun s => life_of_refused
  | stop h => exact absurd (.inr h) hgated
  | refuseStart refuses h =>
      refine sane_of_yields hs h fun s houtcome => ?_
      cases houtcome
      exact ⟨rfl, rfl⟩
  | @enter w bridge connection h =>
      have hrun : (Action.init bridge).act.run.run l.world = (.ok [], w) := run_pure_of_ok _ h
      have hallowed : (scene l).Allows (.init bridge) := trivial
      exact sane_of_same hs hallowed hrun rfl rfl
  | @refused w bridge error h =>
      have hrun : (Action.init bridge).act.run.run l.world = (.error (.bridge error), w) :=
        run_pure_of_error _ h
      have hallowed : (scene l).Allows (.init bridge) := trivial
      exact sane_of_same hs hallowed hrun rfl rfl
  | @leave w bridge h =>
      have hrun : (Action.exit bridge).act.run.run l.world = (.ok [], w) := run_pure_of_ok _ h
      have hallowed : (scene l).Allows (.exit bridge) := trivial
      exact sane_of_same hs hallowed hrun rfl rfl
  | @served w bridge entry reply h =>
      have hrun : (Action.serve bridge entry).act.run.run l.world = (.ok reply.handles, w) :=
        run_pure_of_ok _ h
      have hallowed : (scene l).Allows (.serve bridge entry) := trivial
      refine sane_of_run hs hallowed hrun ?_
      rw [Value.handlesAll_append, ← Reply.handles_eq, ← Multiset.coe_add]
      exact congrArg _ (tsub_zero _)
  | @failed w bridge entry error h =>
      have hrun : (Action.serve bridge entry).act.run.run l.world = (.error (.bridge error), w) :=
        run_pure_of_error _ h
      have hallowed : (scene l).Allows (.serve bridge entry) := trivial
      exact sane_of_same hs hallowed hrun rfl rfl
  | @clone w v hv h =>
      have hrun : (Action.clone v).act.run.run l.world = (.ok v.handles, w) := run_pure_of_ok _ h
      have hallowed : (scene l).Allows (.clone v) := by
        show (v.handles : Multiset Handle) ≤ Value.handlesAll l.values
        rcases List.append_of_mem hv with ⟨before, others, hvalues⟩
        have hfront : (Value.handlesAll (before ++ v :: others)).Perm
            (Value.handlesAll (v :: (before ++ others))) :=
          Value.handlesAll_perm List.perm_middle
        rw [hvalues, Multiset.coe_eq_coe.2 hfront, coe_handlesAll_cons]
        exact Multiset.le_add_right _ _
      refine sane_of_run hs hallowed hrun ?_
      rw [coe_handlesAll_cons]
      exact congrArg _ (tsub_zero _)
  | @drop w v rest hv hopen h =>
      have hrun : (Action.drop v).act.run.run l.world = (.ok [], w) := run_pure_of_ok _ h
      have hhandles : (Value.handlesAll l.values : Multiset Handle) =
          (v.handles : Multiset Handle) + Value.handlesAll rest := by
        rw [Multiset.coe_eq_coe.2 (Value.handlesAll_perm hv), coe_handlesAll_cons]
      have hallowed : (scene l).Allows (.drop v) := by
        show (v.handles : Multiset Handle) ≤ Value.handlesAll l.values
        rw [hhandles]
        exact Multiset.le_add_right _ _
      refine sane_of_run hs hallowed hrun ?_
      rw [hhandles]
      show 0 + ((v.handles : Multiset Handle) + Value.handlesAll rest - v.handles) = _
      rw [zero_add, add_tsub_cancel_left]
  | @arrange values h =>
      have hscene : scene ⟨l.world, values, l.owned⟩ = scene l :=
        congrArg (Scene.mk l.world) (Multiset.coe_eq_coe.2 h.symm)
      rw [hscene]
      exact ⟨rig, hs⟩

/-- After every supervised run the runtime is in the phase of its lifecycle. -/
theorem sane_of_supervised (hl : Supervised lifecycle l) :
    ∃ rig, (scene l).Sane lifecycle rig := by
  induction hl with
  | @fresh w depth hruntimes _ hidle hshared =>
      apply Scene.sane_of_opening
      exact ⟨⟨_, hruntimes, rfl, rfl⟩, hidle, hshared, rfl⟩
  | step _ hstep hgated ih =>
      rcases ih with ⟨rig, hs⟩
      exact sane_step hs hstep hgated
  | @asked l w h names _ hasked ih =>
      rcases ih with ⟨rig, hs⟩
      have hrun : (Action.members h).act.run.run l.world = (.ok [], w) := run_pure_of_ok _ hasked
      have hallowed : (scene l).Allows (.members h) := trivial
      exact sane_of_same hs hallowed hrun rfl rfl
  | @unanswered l w h error _ hasked ih =>
      rcases ih with ⟨rig, hs⟩
      have hrun : (Action.members h).act.run.run l.world = (.error (.bridge error), w) :=
        run_pure_of_error _ hasked
      have hallowed : (scene l).Allows (.members h) := trivial
      exact sane_of_same hs hallowed hrun rfl rfl

/-!
The run in which a function is written and put into a module is supervised.
-/

theorem phase_of_start {paths : List String} {s s' : Simulation}
    (h : (Simulation.start paths).outcome s = (.ok true, s')) : s'.phase = .running := by
  rcases s with ⟨heap, modules, phase, count, refuses, searchPaths, pending, called, names⟩
  cases phase <;> cases refuses <;> cases h <;> rfl

theorem phase_of_stop {s s' : Simulation} (h : Simulation.stop.outcome s = (.ok (), s')) :
    s'.phase = .stopped := by
  rcases s with ⟨heap, modules, phase, count, refuses, searchPaths, pending, called, names⟩
  cases phase <;> cases h
  rfl

/-- A runtime that was never started was not started or stopped just now. -/
theorem not_bypasses_of_fresh {w w' : World} (hruntimes : w'.runtimes = #[.simulated rig])
    (hfresh : rig.simulation.phase = .fresh) : ¬ Bypasses w w' := by
  have hafter : ∀ {α : Type} {attempt : Attempt Simulation α} {a : α}, w.Yields attempt a w' →
      ∃ s, attempt.outcome s = (.ok a, rig.simulation) := by
    rintro α attempt a ⟨rig', s, -, houtcome, hw⟩
    rw [hw] at hruntimes
    cases hruntimes
    exact ⟨_, houtcome⟩
  rintro (⟨paths, hstart⟩ | hstop)
  · rcases hafter hstart with ⟨s, houtcome⟩
    cases hfresh.symm.trans (phase_of_start houtcome)
  · rcases hafter hstop with ⟨s, houtcome⟩
    cases hfresh.symm.trans (phase_of_stop houtcome)

theorem supervised_sampleModule :
    ∃ owned, Supervised .process ⟨sampleWorld sampleModule, [], owned⟩ := by
  have hfresh : Supervised .process ⟨sampleWorld .fresh, [], 0⟩ :=
    Supervised.fresh rfl rfl rfl Scene.opening_sample.shared
  have hfunction : ¬ Bypasses (sampleWorld .fresh) (sampleWorld sampleFunction) :=
    not_bypasses_of_fresh rfl rfl
  have hmodule : ¬ Bypasses (sampleWorld sampleFunction) (sampleWorld sampleModule) :=
    not_bypasses_of_fresh rfl (by cbv)
  rcases step_sampleModule with ⟨owned, hregister⟩
  exact ⟨owned, (hfresh.step step_sampleFunction hfunction).step hregister hmodule⟩

end Ledger
end Session
end ForeignBridge
