import ForeignBridge.Proofs.Crossing.Origin
import ForeignBridge.Proofs.Session.Upkeep
import ForeignBridge.Proofs.Simulation.Invariants

/-!
# Invariants of a world

An invariant that lasts while a simulated runtime runs is kept by all that bridges and host values do
in a world over that runtime, also if the runtime is made to misbehave, and however it ends.
-/

namespace ForeignBridge
namespace Session

open Attempt

variable {α β : Type} {I : Simulation → Prop} {fine : Panic → Prop}

/-!
# Runtimes that misbehave
-/

theorem upholds_inSimulation {attempt : Attempt Simulation α} (h : attempt.Upholds I fine) :
    (Rig.inSimulation attempt).Upholds (fun rig => I rig.simulation) fine := by
  intro rig hrig
  have hwithin : (Rig.inSimulation attempt).outcome rig =
      ((attempt.outcome rig.simulation).1,
        { rig with simulation := (attempt.outcome rig.simulation).2 }) := rfl
  have hkept := h rig.simulation hrig
  unfold Meets at hkept ⊢
  rw [hwithin]
  rcases houtcome : attempt.outcome rig.simulation with ⟨outcome, s'⟩
  rw [houtcome] at hkept
  cases outcome with
  | ok a => exact hkept
  | error panic => exact hkept

theorem upholds_ordinary (hI : Simulation.Lasting I fine) (r : Request) :
    (Rig.ordinary r).Upholds (fun rig => I rig.simulation) fine := by
  unfold Rig.ordinary
  apply Upholds.get_bind
  intro rig hrig
  exact upholds_inSimulation
    (Simulation.upholds_answer hI (Simulation.upholds_run hI rig.callDepth) r) rig hrig

theorem upholds_ordinary_of_steady (hI : Simulation.Steady I fine) {r : Request}
    (hr : Simulation.Op.steady (.request r) = true) :
    (Rig.ordinary r).Upholds (fun rig => I rig.simulation) fine := by
  unfold Rig.ordinary
  apply Upholds.get_bind
  intro rig hrig
  exact upholds_inSimulation (Simulation.upholds_answer_of_steady hI hr) rig hrig

/-- Whether a request is served, faulty or not. -/
def Rig.serves (rig : Rig) (r : Request) : Bool :=
  (Rig.nextFault r.method rig.faults).1.all Fault.keep

section Faults

variable {J : Rig → Prop} {rig : Rig} {r : Request}
  (hreport : ∀ rig pending, J rig → J { rig with simulation := { rig.simulation with pending } })

include hreport

/-- A faulty answer leaves at most another pending error than the request that is served for it. -/
theorem meets_faulty {fault : Fault}
    (hserved : fault.keep = true →
      (Rig.ordinary r).Meets rig (fun _ rig' => J rig') fun panic rig' => fine panic ∧ J rig')
    (hleft : fault.keep = false → J rig) :
    (Rig.faulty fault r).Meets rig (fun _ rig' => J rig') fun panic rig' => fine panic ∧ J rig' := by
  have hraise : ∀ (diagnostic : Diagnostic) (answer : r.Answer),
      Upholds J fine (Rig.inSimulation (Simulation.raise diagnostic.kind diagnostic.message) >>= fun _ =>
        pure answer) := fun diagnostic answer =>
    Upholds.bind (fun rig hrig => hreport rig _ hrig) fun _ => Upholds.pure
  have hclear : Upholds J fine
      (Rig.inSimulation (modify fun s : Simulation => { s with pending := none })) :=
    fun rig hrig => hreport rig _ hrig
  unfold Rig.faulty
  dsimp only
  cases hraises : fault.raises with
  | some diagnostic =>
      split
      · rename_i hkeep
        exact meets_bind.2 (meets_mono (fun answer => hraise diagnostic answer) (fun _ _ h => h)
          (hserved hkeep))
      · rename_i hkeep
        have hrig := hleft (Bool.eq_false_iff.2 hkeep)
        split
        · exact Upholds.bind hclear (fun _ => Upholds.bind Upholds.pure (hraise diagnostic)) rig hrig
        · exact Upholds.bind Upholds.pure (hraise diagnostic) rig hrig
  | none =>
      split
      · rename_i hkeep
        exact meets_bind.2 (meets_mono (fun answer _ h => h) (fun _ _ h => h) (hserved hkeep))
      · rename_i hkeep
        have hrig := hleft (Bool.eq_false_iff.2 hkeep)
        split
        · exact Upholds.bind hclear (fun _ => Upholds.bind Upholds.pure fun _ => Upholds.pure) rig hrig
        · exact hrig

/-- A request is served as ever or not at all, whatever is said of it. -/
theorem meets_rigAnswer
    (hserved : ∀ faults, rig.serves r = true → (Rig.ordinary r).Meets { rig with faults }
      (fun _ rig' => J rig') fun panic rig' => fine panic ∧ J rig')
    (hleft : ∀ faults, rig.serves r = false → J { rig with faults }) :
    (Rig.answer r).Meets rig (fun _ rig' => J rig') fun panic rig' => fine panic ∧ J rig' := by
  unfold Rig.answer
  unfold Rig.serves at hserved hleft
  rw [meets_bind, meets_get]
  dsimp only
  cases hfault : (Rig.nextFault r.method rig.faults).1 with
  | some fault =>
      rw [hfault] at hserved hleft
      exact meets_faulty hreport (hserved _) (hleft _)
  | none =>
      rw [hfault] at hserved
      exact hserved _ rfl

end Faults

theorem upholds_rigAnswer_of_ordinary (hI : Simulation.Steady I fine) {r : Request}
    (hordinary : (Rig.ordinary r).Upholds (fun rig => I rig.simulation) fine) :
    (Rig.answer r).Upholds (fun rig => I rig.simulation) fine := by
  intro rig hrig
  refine meets_rigAnswer (fun rig pending hrig => ?_) (fun faults _ => hordinary _ hrig)
    fun _ _ => hrig
  cases pending with
  | some diagnostic => exact hI.report _ diagnostic hrig
  | none => exact hI.clear _ hrig

theorem upholds_rigAnswer (hI : Simulation.Lasting I fine) (r : Request) :
    (Rig.answer r).Upholds (fun rig => I rig.simulation) fine :=
  upholds_rigAnswer_of_ordinary hI.toSteady (upholds_ordinary hI r)

namespace World

/-!
# Worlds
-/

/-- The world has one runtime, a simulated one, of which something holds. -/
def Hosting (w : World) (I : Simulation → Prop) : Prop :=
  ∃ rig, w.runtimes = #[.simulated rig] ∧ I rig.simulation

theorem Hosting.mono {w : World} {J : Simulation → Prop} (h : w.Hosting I) (himp : ∀ s, I s → J s) :
    w.Hosting J := by
  rcases h with ⟨rig, hruntimes, hrig⟩
  exact ⟨rig, hruntimes, himp _ hrig⟩

theorem SameGates.refl (w : World) : w.SameGates w := ⟨rfl, rfl⟩

theorem SameGates.phaseOf {w w' : World} (h : w.SameGates w') (lifecycle : LifecycleId) :
    w'.phaseOf lifecycle = w.phaseOf lifecycle := by
  unfold World.phaseOf
  rw [h.2]

/-- The gates are those of another world, and the runtime keeps an invariant. -/
def Stays (first : World) (I : Simulation → Prop) (w : World) : Prop :=
  w.Hosting I ∧ first.SameGates w

theorem upholds_inRuntime (first : World) (index : Nat) {onRig : Attempt Rig α}
    {onInterpreter : StateM Interpreter α} (hmisuse : ∀ panic : Panic, panic.isGate = false → fine panic)
    (h : onRig.Upholds (fun rig => I rig.simulation) fine) :
    (inRuntime index (Runtime.perform onRig onInterpreter)).Upholds (first.Stays I) fine := by
  intro w hw
  rcases hw with ⟨⟨rig, hruntimes, hrig⟩, hgates⟩
  have hkept := h rig hrig
  unfold Meets at hkept ⊢
  cases index with
  | succ index =>
      have hnone : w.runtimes[index + 1]? = none := by
        rw [hruntimes]
        rfl
      rw [outcome_inRuntime_none hnone]
      exact ⟨hmisuse _ rfl, ⟨rig, hruntimes, hrig⟩, hgates⟩
  | zero =>
      have hsome : w.runtimes[0]? = some (.simulated rig) := by
        rw [hruntimes]
        rfl
      have hperform : (Runtime.perform onRig onInterpreter).outcome (.simulated rig) =
          ((onRig.outcome rig).1, .simulated (onRig.outcome rig).2) := rfl
      rw [outcome_inRuntime hsome, hperform, hruntimes]
      rcases houtcome : onRig.outcome rig with ⟨outcome, rig'⟩
      rw [houtcome] at hkept
      cases outcome with
      | ok a => exact ⟨⟨rig', rfl, hkept⟩, hgates⟩
      | error panic => exact ⟨hkept.1, ⟨rig', rfl, hkept.2⟩, hgates⟩

/-- A connection passes a request on, or answers itself that it does not ask for the kind of a
number. -/
theorem upholds_answer_of_asked {J : World → Prop} {connection : Connection} {r : Request}
    (h : (inRuntime connection.runtime (Runtime.answer r)).Upholds J fine) :
    (answer connection r).Upholds J fine := by
  cases r with
  | numericKind object =>
      unfold answer
      dsimp only
      split
      · exact h
      · exact Upholds.pure
  | _ => exact h

theorem upholds_answer (first : World) (hI : Simulation.Lasting I fine) (connection : Connection)
    (r : Request) : (answer connection r).Upholds (first.Stays I) fine :=
  upholds_answer_of_asked (upholds_inRuntime first _ hI.misuse (upholds_rigAnswer hI r))

theorem stays_record {first w : World} (event : Event) (hw : first.Stays I w) :
    first.Stays I ((record event).run w).2 := hw

theorem keptBy_confinement (first : World) (hI : Simulation.Lasting I fine)
    (connection : Connection) :
    (confinement true fine).KeptBy (answer connection) (fun _ => first.Stays I) (first.Stays I) := by
  constructor
  · intro _ w r hw _
    have hanswer := upholds_answer first hI connection r w hw
    unfold Meets at hanswer
    rcases houtcome : (answer connection r).outcome w with ⟨outcome, w'⟩
    rw [houtcome] at hanswer
    cases outcome with
    | ok given => exact ⟨(), trivial, hanswer⟩
    | error panic => exact hanswer
  · exact fun _ _ hw => hw
  · intro w ref hw
    have hanswer := upholds_answer first hI connection (.release ref) w hw
    unfold Meets at hanswer
    rcases houtcome : (answer connection (.release ref)).outcome w with ⟨outcome, w'⟩
    rw [houtcome] at hanswer
    cases outcome with
    | ok given => exact hanswer
    | error panic => exact hanswer.2

/-!
# Acts

An act ends with a result or with a failure, which may be a panic.
-/

/-- An act ends as wanted, with a result or with a failure. -/
def Meets (act : Act α) (w : World) (ok : α → World → Prop) (failed : Failure → World → Prop) :
    Prop :=
  match act.run.run w with
  | (.ok a, w') => ok a w'
  | (.error failure, w') => failed failure w'

variable {w : World} {failed : Failure → World → Prop}

theorem meets_bind {act : Act α} {f : α → Act β} {ok : β → World → Prop} :
    Meets (act >>= f) w ok failed ↔ Meets act w (fun a w' => Meets (f a) w' ok failed) failed := by
  unfold Meets
  rw [run_bind]
  rcases act.run.run w with ⟨outcome, w'⟩
  cases outcome with
  | ok a => exact Iff.rfl
  | error failure => exact Iff.rfl

theorem meets_mono {ok ok' : α → World → Prop} {failed' : Failure → World → Prop} {act : Act α}
    (hok : ∀ a w', ok a w' → ok' a w') (hfailed : ∀ e w', failed e w' → failed' e w')
    (h : Meets act w ok failed) : Meets act w ok' failed' := by
  unfold Meets at h ⊢
  rcases hrun : act.run.run w with ⟨outcome, w'⟩
  rw [hrun] at h
  cases outcome with
  | ok a => exact hok a w' h
  | error failure => exact hfailed failure w' h

theorem meets_get {ok : World → World → Prop} : Meets get w ok failed ↔ ok w w := Iff.rfl

theorem meets_ofAttempt {attempt : Attempt World α} {ok : α → World → Prop} :
    Meets (ofAttempt attempt) w ok failed ↔
      attempt.Meets w ok fun panic w' => failed (.panic panic) w' := by
  unfold Meets Attempt.Meets
  rw [run_ofAttempt]
  rcases attempt.outcome w with ⟨outcome, w'⟩
  cases outcome with
  | ok a => exact Iff.rfl
  | error panic => exact Iff.rfl

/-- A failure that is no panic, or an expected one. -/
def Excused (fine : Panic → Prop) (failure : Failure) : Prop :=
  ∀ panic, failure = .panic panic → fine panic

/-- An act keeps an invariant of worlds however it ends, and panics only in ways that are expected. -/
def Abides (J : World → Prop) (fine : Panic → Prop) (act : Act α) : Prop :=
  ∀ w, J w → Meets act w (fun _ w' => J w') fun failure w' => Excused fine failure ∧ J w'

namespace Abides

variable {J : World → Prop}

theorem pure {a : α} : Abides J fine (pure a) := fun _ hw => hw

theorem throw {failure : Failure} (h : Excused fine failure) :
    Abides J fine (throw failure : Act α) := fun _ hw => ⟨h, hw⟩

theorem bind {act : Act α} {f : α → Act β} (h : Abides J fine act) (hf : ∀ a, Abides J fine (f a)) :
    Abides J fine (act >>= f) := by
  intro w hw
  rw [meets_bind]
  exact meets_mono (fun a w' hw' => hf a w' hw') (fun _ _ h => h) (h w hw)

theorem get_bind {f : World → Act β} (hf : ∀ w, Abides J fine (f w)) :
    Abides J fine (get >>= f) := by
  intro w hw
  rw [meets_bind, meets_get]
  exact hf w w hw

theorem modify {f : World → World} (hf : ∀ w, J w → J (f w)) : Abides J fine (modify f) :=
  fun w hw => hf w hw

theorem ofAttempt {attempt : Attempt World α} (h : attempt.Upholds J fine) :
    Abides J fine (ofAttempt attempt) := by
  intro w hw
  rw [meets_ofAttempt]
  refine Attempt.meets_mono (fun _ _ h => h) (fun panic w' hpanic => ?_) (h w hw)
  refine ⟨fun other hother => ?_, hpanic.2⟩
  cases hother
  exact hpanic.1

end Abides

theorem excused_malformed {reason : String} : Excused fine (.malformed reason) := nofun

theorem excused_bridge {error : BridgeError} : Excused fine (.bridge error) := nofun

theorem abides_bridge {J : World → Prop} (index : Nat) : Abides J fine (bridge index) := by
  unfold bridge
  apply Abides.get_bind
  intro w
  cases w.bridges[index]? with
  | some found => exact Abides.pure
  | none => exact Abides.throw excused_malformed

theorem abides_connectionOf {J : World → Prop} (h : Handle) : Abides J fine (connectionOf h) := by
  unfold connectionOf
  apply Abides.bind (abides_bridge _)
  intro found
  cases found.connection with
  | some connection => exact Abides.pure
  | none => exact Abides.throw excused_malformed

/-!
# Starting and stopping
-/

theorem abides_setPhase {J : World → Prop} (hphases : ∀ w phases, J w → J { w with phases })
    (lifecycle : LifecycleId) (phase : Phase) : Abides J fine (setPhase lifecycle phase) :=
  Abides.modify fun w hw => hphases w _ hw

section Gates

variable {J : World → Prop} (hlog : ∀ w event, J w → J { w with events := event :: w.events })

include hlog

theorem abides_log (event : Event) : Abides J fine (log event) :=
  Abides.modify fun w hw => hlog w event hw

theorem abides_logRefused (paths : List String) :
    Abides J fine (paths.forM fun path => log (.pathNotAdded path)) := by
  induction paths with
  | nil => exact Abides.pure
  | cons path rest ih => exact Abides.bind (abides_log hlog _) fun _ => ih

variable (hphases : ∀ w phases, J w → J { w with phases }) {runtime : Nat}

include hphases

/-- What the start of a runtime keeps is kept by a lifecycle that may start it. -/
theorem abides_ensure_of_start (hfinished : ∀ name, fine (.usedAfterShutdown name))
    (hstart : ∀ paths, (inRuntime runtime (Runtime.start paths)).Upholds J fine)
    (lifecycle : LifecycleId) (paths : List String) :
    Abides J fine (ensure lifecycle runtime paths) := by
  unfold ensure
  apply Abides.get_bind
  intro w
  dsimp only
  cases w.phaseOf lifecycle with
  | started => exact Abides.pure
  | finished =>
      refine Abides.throw fun panic hpanic => ?_
      cases hpanic
      exact hfinished _
  | idle =>
      apply Abides.bind (Abides.ofAttempt (hstart paths))
      rintro ⟨running, refused⟩
      apply Abides.bind (abides_logRefused hlog refused)
      intro _
      cases running with
      | true => exact Abides.bind (abides_setPhase hphases _ _) fun _ => abides_log hlog _
      | false => exact Abides.throw excused_bridge

/-- What the stop of a runtime keeps is kept by a lifecycle that may stop it. -/
theorem abides_shutdown_of_stop (hstop : (inRuntime runtime Runtime.stop).Upholds J fine)
    (lifecycle : LifecycleId) : Abides J fine (shutdown lifecycle runtime) := by
  unfold shutdown
  apply Abides.get_bind
  intro w
  split
  · apply Abides.bind (Abides.ofAttempt hstop)
    intro _
    exact Abides.bind (abides_setPhase hphases _ _) fun _ => abides_log hlog _
  · exact Abides.pure

theorem abides_leave_of_stop
    (hstop : ∀ runtime, (inRuntime runtime Runtime.stop).Upholds J fine) (index : Nat) :
    Abides J fine (leave index) := by
  unfold leave
  apply Abides.bind (abides_bridge index)
  intro found
  cases found.connection with
  | none => exact Abides.pure
  | some connection => exact abides_shutdown_of_stop hlog hphases (hstop _) connection.lifecycle

theorem abides_enter_of_start (hfinished : ∀ name, fine (.usedAfterShutdown name))
    (hstart : ∀ runtime paths, (inRuntime runtime (Runtime.start paths)).Upholds J fine)
    (index : Nat) : Abides J fine (enter index) := by
  unfold enter
  apply Abides.bind (abides_bridge index)
  intro found
  cases found.connection with
  | none => exact Abides.throw excused_bridge
  | some connection =>
      exact Abides.bind (abides_ensure_of_start hlog hphases hfinished
        (hstart connection.runtime) connection.lifecycle _) fun _ => Abides.pure

end Gates

/-!
# Crossings of a started runtime
-/

section Started

variable {first : World} (hI : Simulation.Lasting I fine)

include hI

theorem upholds_crossing (connection : Connection) {crossing : Crossing α}
    (h : crossing.Confined true fine) :
    (Program.run (answer connection) record crossing.run).Upholds (first.Stays I) fine := by
  intro w hw
  have hend := Program.run_follows (keptBy_confinement first hI connection)
    (fun event _ _ hw => stays_record event hw) h hw
  unfold Attempt.Meets
  rcases houtcome : (Program.run (answer connection) record crossing.run).outcome w with
    ⟨outcome, w'⟩
  rw [houtcome] at hend
  cases outcome with
  | ok result =>
      rcases hend with ⟨_, -, hw'⟩
      exact hw'
  | error panic => exact hend

/-- What follows the start of the runtime in a crossing. -/
theorem abides_crossing (connection : Connection) {crossing : Crossing α}
    (h : crossing.Confined true fine) :
    Abides (first.Stays I) fine (do
      match ← ofAttempt (Program.run (answer connection) record crossing.run) with
      | .ok result => return result
      | .error error => throw (.bridge error)) := by
  apply Abides.bind (Abides.ofAttempt (upholds_crossing hI connection h))
  intro outcome
  cases outcome with
  | ok a => exact Abides.pure
  | error error => exact Abides.throw excused_bridge

end Started

/-!
# Handles
-/

/-- An invariant of worlds that is kept by what their runtimes answer when handles are copied and
dropped, and by what is logged of it. -/
structure Tends (J : World → Prop) (fine : Panic → Prop) : Prop where
  misuse : ∀ panic : Panic, panic.isGate = false → fine panic
  retain : ∀ connection ref, (answer connection (.retain ref)).Upholds J fine
  release : ∀ connection ref, (answer connection (.release ref)).Upholds J fine
  log : ∀ w event, J w → J { w with events := event :: w.events }

theorem tends_stays (first : World) (hI : Simulation.Lasting I fine) : Tends (first.Stays I) fine where
  misuse := hI.misuse
  retain connection _ := upholds_answer first hI connection _
  release connection _ := upholds_answer first hI connection _
  log _ _ hw := hw

section Handles

variable {J : World → Prop} (hJ : Tends J fine)

include hJ

theorem abides_dropHandle (h : Handle) : Abides J fine (dropHandle h) := by
  unfold dropHandle
  apply Abides.bind (abides_connectionOf h)
  intro connection
  apply Abides.get_bind
  intro w
  split
  · exact Abides.modify fun w hw => hJ.log w _ hw
  · exact Abides.ofAttempt (hJ.release connection h.ref)

theorem abides_dropHandles (handles : List Handle) : Abides J fine (dropHandles handles) := by
  induction handles with
  | nil => exact Abides.pure
  | cons h rest ih =>
      intro w hw
      have hfirst := abides_dropHandle hJ h w hw
      unfold Meets at hfirst ⊢
      rw [run_dropHandles_cons]
      rcases houtcome : (dropHandle h).run.run w with ⟨outcome, w'⟩
      rw [houtcome] at hfirst
      cases outcome with
      | ok _ => exact ih w' hfirst
      | error failure =>
          have hrest := ih w' hfirst.2
          unfold Meets at hrest
          rcases hothers : (dropHandles rest).run.run w' with ⟨others, w''⟩
          rw [hothers] at hrest
          cases others with
          | ok _ => exact ⟨hfirst.1, hrest⟩
          | error other => exact ⟨hfirst.1, hrest.2⟩

theorem abides_guarding {handles : List Handle} {act : Act α} (h : Abides J fine act) :
    Abides J fine (guarding handles act) := by
  intro w hw
  have hact := h w hw
  unfold Meets at hact ⊢
  rw [run_guarding]
  rcases houtcome : act.run.run w with ⟨outcome, w'⟩
  rw [houtcome] at hact
  cases outcome with
  | ok a => exact hact
  | error failure =>
      have hdrop := abides_dropHandles hJ handles w' hact.2
      unfold Meets at hdrop
      refine ⟨hact.1, ?_⟩
      rcases hdropped : (dropHandles handles).run.run w' with ⟨dropped, w''⟩
      rw [hdropped] at hdrop
      cases dropped with
      | ok _ => exact hdrop
      | error other => exact hdrop.2

theorem abides_cloneHandle (h : Handle) : Abides J fine (cloneHandle h) := by
  unfold cloneHandle
  apply Abides.bind (abides_connectionOf h)
  intro connection
  apply Abides.get_bind
  intro w
  split
  · refine Abides.throw fun panic hpanic => ?_
    cases hpanic
    exact hJ.misuse _ rfl
  · exact Abides.ofAttempt (hJ.retain connection h.ref)

theorem abides_cloneHandles (handles : List Handle) : Abides J fine (cloneHandles handles) := by
  induction handles with
  | nil => exact Abides.pure
  | cons h rest ih =>
      unfold cloneHandles
      apply Abides.bind (abides_cloneHandle hJ h)
      intro _
      exact abides_guarding hJ ih

end Handles

end World
end Session
end ForeignBridge
