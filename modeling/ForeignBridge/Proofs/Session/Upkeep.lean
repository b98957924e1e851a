import ForeignBridge.Proofs.Crossing.Ownership
import ForeignBridge.Proofs.Crossing.Service
import ForeignBridge.Proofs.Simulation.Conservation
import ForeignBridge.Session.World

/-!
# Upkeep of a world

In a world over one simulated runtime, whatever the bridges and the host values do keeps the runtime
sound: they hold the references that they acquired, and give back only those.
-/

namespace ForeignBridge
namespace Simulation

theorem keeps_start (paths : List String) {held : Multiset Ref} :
    Keeps held (start paths) fun _ => held := by
  intro s others hs
  unfold start
  rw [Attempt.returns_bind, Attempt.returns_get]
  split
  · exact Attempt.returns_throw
  · dsimp only
    split
    · exact ⟨hs.balanced, hs.proper⟩
    · exact ⟨hs.balanced, hs.proper⟩

theorem keeps_stop {held : Multiset Ref} : Keeps held stop fun _ => held := by
  unfold stop
  apply Keeps.bind (keeps_requireRunning _)
  intro _
  exact keeps_modify (fun _ => rfl) fun _ => rfl

theorem keeps_refuseStart (refuses : Bool) {held : Multiset Ref} :
    Keeps held (modify fun s => { s with refusesStart := refuses }) fun _ => held :=
  keeps_modify (fun _ => rfl) fun _ => rfl

end Simulation

namespace Session

variable {α β : Type}

namespace World

/-- The world has one runtime, a simulated one without faults, and it is sound. -/
def Sound (w : World) (held : Multiset Ref) : Prop :=
  ∃ rig, w.runtimes = #[.simulated rig] ∧ rig.faults = [] ∧ rig.simulation.Sound held

/-- Neither the bridges nor the phases of the lifecycles differ. -/
def SameGates (w w' : World) : Prop := w'.bridges = w.bridges ∧ w'.phases = w.phases

/-!
# Computations on the runtime
-/

theorem run_mk (f : World → α × World) (w : World) : StateT.run (m := Id) f w = f w := rfl

theorem outcome_inRuntime {index : Nat} {w : World} {runtime : Runtime}
    (hruntime : w.runtimes[index]? = some runtime) (attempt : Attempt Runtime α) :
    (inRuntime index attempt).outcome w =
      ((attempt.outcome runtime).1, { w with
        runtimes := w.runtimes.setIfInBounds index (attempt.outcome runtime).2 }) := by
  unfold inRuntime Attempt.outcome
  rw [ExceptT.run_mk, run_mk, hruntime]
  rfl

theorem outcome_inRuntime_none {index : Nat} {w : World} (hnone : w.runtimes[index]? = none)
    (attempt : Attempt Runtime α) :
    (inRuntime index attempt).outcome w = (.error (.usedAfterShutdown "no"), w) := by
  unfold inRuntime Attempt.outcome
  rw [ExceptT.run_mk, run_mk, hnone]

theorem returns_inRuntime {index : Nat} {onRig : Attempt Rig α}
    {onInterpreter : StateM Interpreter α} {w : World} {held : Multiset Ref}
    {after : α → Multiset Ref} (hw : w.Sound held)
    (h : ∀ rig, rig.faults = [] → rig.simulation.Sound held → onRig.Returns rig fun a rig' =>
      rig'.faults = [] ∧ rig'.simulation.Sound (after a)) :
    (inRuntime index (Runtime.perform onRig onInterpreter)).Returns w fun a w' =>
      w'.Sound (after a) ∧ w.SameGates w' := by
  rcases hw with ⟨rig, hruntimes, hfaults, hs⟩
  have hrig := h rig hfaults hs
  unfold Attempt.Returns at hrig ⊢
  cases index with
  | succ index =>
      have hnone : w.runtimes[index + 1]? = none := by
        rw [hruntimes]
        rfl
      rw [outcome_inRuntime_none hnone]
      trivial
  | zero =>
      have hsome : w.runtimes[0]? = some (.simulated rig) := by
        rw [hruntimes]
        rfl
      have hperform : (Runtime.perform onRig onInterpreter).outcome (.simulated rig) =
          ((onRig.outcome rig).1, .simulated (onRig.outcome rig).2) := rfl
      rw [outcome_inRuntime hsome, hperform, hruntimes]
      rcases houtcome : onRig.outcome rig with ⟨outcome, rig'⟩
      rw [houtcome] at hrig
      cases outcome with
      | error panic => trivial
      | ok a => exact ⟨⟨rig', rfl, hrig.1, hrig.2⟩, rfl, rfl⟩

theorem returns_inSimulation {attempt : Attempt Simulation α} {before held : Multiset Ref}
    {after : α → Multiset Ref} (h : Simulation.Keeps before attempt after) {rig : Rig}
    (hfaults : rig.faults = []) (hs : rig.simulation.Sound (before + held)) :
    (Rig.inSimulation attempt).Returns rig fun a rig' =>
      rig'.faults = [] ∧ rig'.simulation.Sound (after a + held) := by
  have hkept := h rig.simulation held hs
  have hwithin : (Rig.inSimulation attempt).outcome rig =
      ((attempt.outcome rig.simulation).1,
        { rig with simulation := (attempt.outcome rig.simulation).2 }) := rfl
  unfold Attempt.Returns at hkept ⊢
  rw [hwithin]
  rcases houtcome : attempt.outcome rig.simulation with ⟨outcome, s'⟩
  rw [houtcome] at hkept
  cases outcome with
  | error panic => trivial
  | ok a => exact ⟨hfaults, hkept⟩

/-- Without faults, the runtime answers every request itself. -/
theorem returns_rigAnswer (r : Request) {held : Multiset Ref} {rig : Rig}
    (hfaults : rig.faults = [])
    (hs : rig.simulation.Sound ((r.returned.toList : Multiset Ref) + held)) :
    (Rig.answer r).Returns rig fun answer rig' =>
      rig'.faults = [] ∧ rig'.simulation.Sound ((r.acquired answer : Multiset Ref) + held) := by
  rcases rig with ⟨s, faults, depth⟩
  cases hfaults
  have hordinary : (Rig.answer r).outcome ⟨s, [], depth⟩ =
      (Rig.inSimulation (Simulation.answer (Simulation.run depth) r)).outcome ⟨s, [], depth⟩ := rfl
  have hkept := Simulation.keeps_answer (Simulation.runsHonestly_run depth) r
  unfold Attempt.Returns
  rw [hordinary]
  exact returns_inSimulation hkept rfl hs

theorem returns_answer (connection : Connection) (r : Request) {w : World} {held : Multiset Ref}
    (hw : w.Sound ((r.returned.toList : Multiset Ref) + held)) :
    (answer connection r).Returns w fun given w' =>
      w'.Sound ((r.acquired given : Multiset Ref) + held) ∧ w.SameGates w' := by
  have hasked : (inRuntime connection.runtime (Runtime.answer r)).Returns w fun given w' =>
      w'.Sound ((r.acquired given : Multiset Ref) + held) ∧ w.SameGates w' :=
    returns_inRuntime hw fun rig hfaults hs => returns_rigAnswer r hfaults hs
  cases r with
  | numericKind object =>
      show (if connection.typed then _ else _ : Attempt World _).Returns w _
      split
      · exact hasked
      · exact ⟨hw, rfl, rfl⟩
  | _ => exact hasked

/-!
# Acts

An act ends with a result, or with an error that a bridge reports to the host.  Other failures stop
the session, and nothing is said of what they leave.
-/

/-- If an act ends, it does so as wanted. -/
def Ends (act : Act α) (w : World) (ok : α → World → Prop) (failed : World → Prop) : Prop :=
  match act.run.run w with
  | (.ok a, w') => ok a w'
  | (.error (.bridge _), w') => failed w'
  | (.error _, _) => True

variable {ok : α → World → Prop} {failed : World → Prop} {w : World}

theorem ends_mono {ok' : α → World → Prop} {failed' : World → Prop} {act : Act α}
    (hok : ∀ a w', ok a w' → ok' a w') (hfailed : ∀ w', failed w' → failed' w')
    (h : Ends act w ok failed) : Ends act w ok' failed' := by
  unfold Ends at h ⊢
  rcases hrun : act.run.run w with ⟨outcome, w'⟩
  rw [hrun] at h
  cases outcome with
  | ok a => exact hok a w' h
  | error failure =>
      cases failure with
      | bridge error => exact hfailed w' h
      | _ => trivial

theorem run_bind (act : Act α) (f : α → Act β) (w : World) :
    (act >>= f).run.run w =
      match act.run.run w with
      | (.ok a, w') => (f a).run.run w'
      | (.error failure, w') => (.error failure, w') := by
  rw [ExceptT.run_bind, StateT.run_bind]
  rcases act.run.run w with ⟨outcome, w'⟩
  cases outcome with
  | ok a => rfl
  | error failure => rfl

theorem run_get_bind (f : World → Act α) (w : World) :
    (get >>= f).run.run w = (f w).run.run w := rfl

theorem ends_bind {ok : β → World → Prop} {act : Act α} {f : α → Act β} :
    Ends (act >>= f) w ok failed ↔ Ends act w (fun a w' => Ends (f a) w' ok failed) failed := by
  unfold Ends
  rw [run_bind]
  rcases act.run.run w with ⟨outcome, w'⟩
  cases outcome with
  | ok a => exact Iff.rfl
  | error failure => cases failure <;> exact Iff.rfl

theorem ends_pure {a : α} : Ends (pure a) w ok failed ↔ ok a w := Iff.rfl

theorem ends_get {ok : World → World → Prop} : Ends get w ok failed ↔ ok w w := Iff.rfl

theorem run_ofAttempt (attempt : Attempt World α) (w : World) :
    (ofAttempt attempt).run.run w =
      match attempt.outcome w with
      | (.ok a, w') => (.ok a, w')
      | (.error panic, w') => (.error (.panic panic), w') := by
  unfold ofAttempt Attempt.outcome
  rw [ExceptT.run_mk, StateT.run_bind]
  rcases attempt.run.run w with ⟨outcome, w'⟩
  cases outcome with
  | ok a => rfl
  | error panic => rfl

theorem ends_ofAttempt {attempt : Attempt World α} (h : attempt.Returns w ok) :
    Ends (ofAttempt attempt) w ok failed := by
  unfold Attempt.Returns at h
  unfold Ends
  rw [run_ofAttempt]
  rcases houtcome : attempt.outcome w with ⟨outcome, w'⟩
  rw [houtcome] at h
  cases outcome with
  | ok a => exact h
  | error panic => trivial

/-- An act that takes over references holds those of its result, or none after an error. -/
def Keeps (before : Multiset Ref) (act : Act α) (after : α → Multiset Ref) : Prop :=
  ∀ w held, w.Sound (before + held) →
    Ends act w (fun a w' => w'.Sound (after a + held)) fun w' => w'.Sound held

namespace Keeps

variable {before : Multiset Ref} {middle after : α → Multiset Ref}

theorem pure {a : α} (h : before = after a) : Keeps before (pure a) after := by
  intro w held hw
  rw [ends_pure, ← h]
  exact hw

theorem panic {reason : Panic} : Keeps before (throw (.panic reason)) after := fun _ _ _ => trivial

theorem malformed {reason : String} : Keeps before (throw (.malformed reason)) after :=
  fun _ _ _ => trivial

theorem report {error : BridgeError} : Keeps 0 (throw (.bridge error)) after := by
  intro w held hw
  rw [zero_add] at hw
  exact hw

theorem bind {after : β → Multiset Ref} {act : Act α} {f : α → Act β}
    (hact : Keeps before act middle) (hf : ∀ a, Keeps (middle a) (f a) after) :
    Keeps before (act >>= f) after := by
  intro w held hw
  rw [ends_bind]
  exact ends_mono (fun a w' hw' => hf a w' held hw') (fun _ h => h) (hact w held hw)

theorem get_bind {after : α → Multiset Ref} {f : World → Act α} (hf : ∀ w, Keeps before (f w) after) :
    Keeps before (get >>= f) after := by
  intro w held hw
  rw [ends_bind, ends_get]
  exact hf w w held hw

/-- What is not about the runtimes leaves them sound. -/
theorem modify {f : World → World} (hruntimes : ∀ w, (f w).runtimes = w.runtimes) :
    Keeps before (modify f) fun _ => before := by
  intro w held hw
  rcases hw with ⟨rig, hw, hfaults, hs⟩
  exact ⟨rig, (hruntimes w).trans hw, hfaults, hs⟩

theorem onRuntime {index : Nat} {onRig : Attempt Rig α} {onInterpreter : StateM Interpreter α}
    (h : ∀ rig held, rig.faults = [] → rig.simulation.Sound (before + held) →
      onRig.Returns rig fun a rig' => rig'.faults = [] ∧ rig'.simulation.Sound (after a + held)) :
    Keeps before (ofAttempt (inRuntime index (Runtime.perform onRig onInterpreter))) after := by
  intro w held hw
  apply ends_ofAttempt
  refine Attempt.returns_mono (fun a w' h => h.1) (returns_inRuntime hw fun rig hfaults hs => ?_)
  exact h rig held hfaults hs

end Keeps

theorem keeps_log (event : Event) : Keeps 0 (log event) fun _ => 0 :=
  Keeps.modify fun _ => rfl

theorem keeps_setPhase (lifecycle : LifecycleId) (phase : Phase) :
    Keeps 0 (setPhase lifecycle phase) fun _ => 0 :=
  Keeps.modify fun _ => rfl

theorem keeps_logRefused (paths : List String) :
    Keeps 0 (paths.forM fun path => log (.pathNotAdded path)) fun _ => 0 := by
  induction paths with
  | nil => exact Keeps.pure rfl
  | cons path rest ih => exact Keeps.bind (keeps_log _) fun _ => ih

/-!
# Lifecycles
-/

theorem keeps_bridge (index : Nat) : Keeps 0 (bridge index) fun _ => 0 := by
  unfold bridge
  apply Keeps.get_bind
  intro w
  cases w.bridges[index]? with
  | some bridge => exact Keeps.pure rfl
  | none => exact Keeps.malformed

theorem keeps_startRuntime (runtime : Nat) (paths : List String) :
    Keeps 0 (ofAttempt (inRuntime runtime (Runtime.start paths))) fun _ => 0 := by
  apply Keeps.onRuntime
  intro rig held hfaults hs
  rw [map_eq_pure_bind, Attempt.returns_bind]
  exact returns_inSimulation (Simulation.keeps_start paths) hfaults hs

theorem keeps_ensure (lifecycle : LifecycleId) (runtime : Nat) (paths : List String) :
    Keeps 0 (ensure lifecycle runtime paths) fun _ => 0 := by
  unfold ensure
  apply Keeps.get_bind
  intro w
  dsimp only
  cases w.phaseOf lifecycle with
  | started => exact Keeps.pure rfl
  | finished => exact Keeps.panic
  | idle =>
      apply Keeps.bind (keeps_startRuntime runtime paths)
      intro answer
      rcases answer with ⟨running, refused⟩
      apply Keeps.bind (keeps_logRefused refused)
      intro _
      cases running with
      | true => exact Keeps.bind (keeps_setPhase _ _) fun _ => keeps_log _
      | false => exact Keeps.report

theorem keeps_enter (index : Nat) : Keeps 0 (enter index) fun _ => 0 := by
  unfold enter
  apply Keeps.bind (keeps_bridge index)
  intro bridge
  cases bridge.connection with
  | none => exact Keeps.report
  | some connection =>
      exact Keeps.bind (keeps_ensure _ _ _) fun _ => Keeps.pure rfl

theorem keeps_shutdown (lifecycle : LifecycleId) (runtime : Nat) :
    Keeps 0 (shutdown lifecycle runtime) fun _ => 0 := by
  have hstop : Keeps 0 (ofAttempt (inRuntime runtime Runtime.stop)) fun _ => 0 :=
    Keeps.onRuntime fun rig held hfaults hs =>
      returns_inSimulation Simulation.keeps_stop hfaults hs
  unfold shutdown
  apply Keeps.get_bind
  intro w
  split
  · apply Keeps.bind hstop
    intro _
    exact Keeps.bind (keeps_setPhase _ _) fun _ => keeps_log _
  · exact Keeps.pure rfl

theorem keeps_leave (index : Nat) : Keeps 0 (leave index) fun _ => 0 := by
  unfold leave
  apply Keeps.bind (keeps_bridge index)
  intro bridge
  cases bridge.connection with
  | none => exact Keeps.pure rfl
  | some connection => exact keeps_shutdown _ _

/-!
# Crossings
-/

/-- If each answer leaves a world sound with what comes with the answer in place of what was given back,
a crossing leaves it sound with what comes with its result. -/
theorem returns_crossing_of (sound : World → Multiset Ref → Prop) {connection : Connection}
    (hanswer : ∀ (r : Request) w held, sound w ((r.returned.toList : Multiset Ref) + held) →
      (answer connection r).Returns w fun given w' => sound w' ((r.acquired given : Multiset Ref) + held))
    (hrecord : ∀ event w held, sound w held → sound ((record event).run w).2 held)
    {crossing : Crossing α} {after : α → Multiset Ref} (h : crossing.Owns 0 after) {w : World}
    {held : Multiset Ref} (hw : sound w held) :
    (Program.run (answer connection) record crossing.run).Returns w fun outcome w' =>
      match outcome with
      | .ok a => sound w' (after a + held)
      | .error _ => sound w' held := by
  have hstart : sound w (0 + 0 + held) := by
    rw [zero_add, zero_add]
    exact hw
  have hend := Program.run_follows (ownership_keptBy hanswer held)
    (fun event _ w hinv => hrecord event w _ hinv) (h 0) hstart
  unfold Attempt.Returns
  rcases houtcome : (Program.run (answer connection) record crossing.run).outcome w with
    ⟨outcome, w'⟩
  rw [houtcome] at hend
  cases outcome with
  | error panic => trivial
  | ok outcome =>
      rcases hend with ⟨owned, howned, hw'⟩
      cases outcome with
      | ok a =>
          have hheld : owned = after a + 0 := howned
          rw [hheld, add_zero] at hw'
          exact hw'
      | error e =>
          have hheld : owned = 0 := howned
          rw [hheld, zero_add] at hw'
          exact hw'

theorem returns_crossing (connection : Connection) {crossing : Crossing α}
    {after : α → Multiset Ref} (h : crossing.Owns 0 after) {w : World} {held : Multiset Ref}
    (hw : w.Sound held) :
    (Program.run (answer connection) record crossing.run).Returns w fun outcome w' =>
      match outcome with
      | .ok a => w'.Sound (after a + held)
      | .error _ => w'.Sound held :=
  returns_crossing_of Sound
    (fun r _ _ hw => Attempt.returns_mono (fun _ _ h => h.1) (returns_answer connection r hw))
    (fun _ _ _ hw => hw) h hw

/-- A crossing that owns no more than its result keeps the runtime sound, however it ends. -/
theorem keeps_cross (index : Nat) {crossing : Context → Crossing α} {after : α → Multiset Ref}
    (h : ∀ ctx, Crossing.Owns 0 (crossing ctx) after) :
    Keeps 0 (cross index crossing) after := by
  unfold cross
  apply Keeps.bind (keeps_enter index)
  intro connection
  apply Keeps.get_bind
  intro w
  dsimp only
  apply Keeps.bind (keeps_bridge index)
  intro bridge w held hw
  rw [zero_add] at hw
  rw [ends_bind]
  apply ends_ofAttempt
  refine Attempt.returns_mono (fun outcome w' hw' => ?_) (returns_crossing connection (h _) hw)
  cases outcome with
  | ok a => exact hw'
  | error e => exact hw'

/-!
# Host values

A copy of a value acquires one reference for each of its handles, and a value that is dropped before
its runtime was shut down gives them back.
-/

/-- The runtime of a handle was shut down through the lifecycle of its bridge. -/
def IsShut (w : World) (h : Handle) : Prop :=
  ∃ bridge connection, w.bridges[h.context]? = some bridge ∧ bridge.connection = some connection ∧
    w.phaseOf connection.lifecycle = .finished

theorem SameGates.isShut {w w' : World} (hsame : w.SameGates w') {h : Handle}
    (hshut : w'.IsShut h) : w.IsShut h := by
  rcases hshut with ⟨bridge, connection, hbridge, hconnection, hphase⟩
  rw [hsame.1] at hbridge
  unfold phaseOf at hphase
  rw [hsame.2] at hphase
  exact ⟨bridge, connection, hbridge, hconnection, hphase⟩

theorem ends_connectionOf (h : Handle) (w : World) :
    Ends (connectionOf h) w (fun connection w' => w' = w ∧ ∃ bridge,
      w.bridges[h.context]? = some bridge ∧ bridge.connection = some connection)
      fun _ => True := by
  unfold connectionOf bridge
  rw [ends_bind, ends_bind, ends_get]
  cases hbridge : w.bridges[h.context]? with
  | none => trivial
  | some found =>
      dsimp only
      rw [ends_pure]
      cases hconnection : found.connection with
      | none => trivial
      | some connection => exact ⟨rfl, found, rfl, hconnection⟩

theorem ends_cloneHandle (h : Handle) {w : World} {held : Multiset Ref} (hw : w.Sound held) :
    Ends (cloneHandle h) w (fun _ w' => w'.Sound ({h.ref} + held)) fun _ => True := by
  unfold cloneHandle
  rw [ends_bind]
  refine ends_mono (fun connection w' hconnection => ?_) (fun _ h => h) (ends_connectionOf h w)
  rw [hconnection.1, ends_bind, ends_get]
  split
  · trivial
  · have hstart : w.Sound (((Request.retain h.ref).returned.toList : Multiset Ref) + held) := by
      rw [show (Request.retain h.ref).returned = none from rfl]
      exact (zero_add held).symm ▸ hw
    apply ends_ofAttempt
    exact Attempt.returns_mono (fun _ _ h => h.1) (returns_answer connection _ hstart)

theorem run_guarding (handles : List Handle) (act : Act α) (w : World) :
    (guarding handles act).run.run w =
      match act.run.run w with
      | (.ok a, w') => (.ok a, w')
      | (.error failure, w') => (.error failure, ((dropHandles handles).run.run w').2) := by
  unfold guarding
  rw [ExceptT.run_mk, StateT.run_bind]
  rcases act.run.run w with ⟨outcome, w'⟩
  cases outcome with
  | ok a => rfl
  | error failure => rfl

theorem run_dropHandles_cons (h : Handle) (rest : List Handle) (w : World) :
    (dropHandles (h :: rest)).run.run w =
      (((dropHandle h).run.run w).1.bind fun _ =>
        ((dropHandles rest).run.run ((dropHandle h).run.run w).2).1,
        ((dropHandles rest).run.run ((dropHandle h).run.run w).2).2) := rfl

theorem ends_guarding {handles : List Handle} {act : Act α} {w : World} {ok : α → World → Prop}
    (h : Ends act w ok fun _ => True) : Ends (guarding handles act) w ok fun _ => True := by
  unfold Ends at h ⊢
  rw [run_guarding]
  rcases hact : act.run.run w with ⟨outcome, w'⟩
  rw [hact] at h
  cases outcome with
  | ok a => exact h
  | error failure => cases failure <;> trivial

theorem ends_cloneHandles (hs : List Handle) {w : World} {held : Multiset Ref}
    (hw : w.Sound held) :
    Ends (cloneHandles hs) w
      (fun _ w' => w'.Sound ((hs.map Handle.ref : List Ref) + held)) fun _ => True := by
  induction hs generalizing w held with
  | nil =>
      show w.Sound (0 + held)
      rw [zero_add]
      exact hw
  | cons h rest ih =>
      unfold cloneHandles
      rw [ends_bind]
      refine ends_mono (fun _ w' hw' => ?_) (fun _ h => h) (ends_cloneHandle h hw)
      apply ends_guarding
      refine ends_mono (fun _ w'' hw'' => ?_) (fun _ h => h) (ih hw')
      have hparts : ((rest.map Handle.ref : List Ref) : Multiset Ref) + ({h.ref} + held) =
          ((h :: rest).map Handle.ref : List Ref) + held := by
        rw [add_left_comm, ← add_assoc, Multiset.singleton_add, Multiset.cons_coe]
        rfl
      rw [hparts] at hw''
      exact hw''

theorem ends_dropHandle {h : Handle} {w : World} {held : Multiset Ref}
    (hw : w.Sound ({h.ref} + held)) (hopen : ¬ w.IsShut h) :
    Ends (dropHandle h) w (fun _ w' => w'.Sound held ∧ w.SameGates w') fun _ => True := by
  unfold dropHandle
  rw [ends_bind]
  refine ends_mono (fun connection w' hconnection => ?_) (fun _ h => h) (ends_connectionOf h w)
  rcases hconnection with ⟨hsame, bridge, hbridge, hconnection⟩
  rw [hsame, ends_bind, ends_get]
  split
  · rename_i hphase
    exact absurd ⟨bridge, connection, hbridge, hconnection, hphase⟩ hopen
  · have hstart : w.Sound (((Request.release h.ref).returned.toList : Multiset Ref) + held) := hw
    apply ends_ofAttempt
    refine Attempt.returns_mono (fun given w' h => ?_) (returns_answer connection _ hstart)
    rcases h with ⟨hw', hgates⟩
    rw [show (Request.release _).acquired given = [] from rfl, Multiset.coe_nil, zero_add] at hw'
    exact ⟨hw', hgates⟩

theorem ends_dropHandles {hs : List Handle} {w : World} {held : Multiset Ref}
    (hw : w.Sound ((hs.map Handle.ref : List Ref) + held)) (hopen : ∀ h ∈ hs, ¬ w.IsShut h) :
    Ends (dropHandles hs) w (fun _ w' => w'.Sound held) fun _ => True := by
  induction hs generalizing w held with
  | nil =>
      rw [List.map_nil, Multiset.coe_nil, zero_add] at hw
      exact hw
  | cons h rest ih =>
      have hfirst : w.Sound ({h.ref} + ((rest.map Handle.ref : List Ref) + held)) := by
        rw [← add_assoc, Multiset.singleton_add, Multiset.cons_coe]
        exact hw
      have hdrop := ends_dropHandle hfirst (hopen h List.mem_cons_self)
      unfold Ends at hdrop ⊢
      rw [run_dropHandles_cons]
      rcases houtcome : (dropHandle h).run.run w with ⟨outcome, w'⟩
      rw [houtcome] at hdrop
      cases outcome with
      | ok _ =>
          rcases hdrop with ⟨hw', hgates⟩
          exact ih hw' fun other hother hshut =>
            hopen other (List.mem_cons_of_mem h hother) (hgates.isShut hshut)
      | error failure => cases failure <;> trivial

end World
end Session
end ForeignBridge
