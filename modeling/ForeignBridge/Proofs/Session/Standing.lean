import ForeignBridge.Proofs.Session.Undoing
import ForeignBridge.Session.Run

/-!
# What stands in a session

In a session bridges are asked, a runtime is used past them, and host values are evaluated, put into
variables and dropped.  Of all this only the requests to a bridge, and some operations past the
bridges, can write to objects or run code.  What else is done in a world lets stand what is said of
the objects of one of its runtimes, if acquiring references and giving them back does.
-/

namespace ForeignBridge

namespace Attempt.Upholds

variable {σ α β : Type} {I : σ → Prop} {fine : Panic → Prop}

theorem mapM {f : α → Attempt σ β} (hf : ∀ a, (f a).Upholds I fine) (items : List α) :
    (items.mapM f).Upholds I fine := by
  induction items with
  | nil =>
      rw [List.mapM_nil]
      exact pure
  | cons a rest ih =>
      rw [List.mapM_cons]
      exact bind (hf a) fun _ => bind ih fun _ => pure

end Attempt.Upholds

namespace Simulation

open Attempt Session

section Steps

variable {I : Simulation → Prop} {fine : Panic → Prop}

theorem upholds_locate (designation : Designation) : (locate designation).Upholds I fine := by
  cases designation with
  | number id => exact Upholds.pure
  | name text => exact Upholds.get_bind fun _ hs => hs

theorem upholds_request (form : RequestForm) : (form.request locate).Upholds I fine := by
  cases form with
  | null => exact Upholds.pure
  | newScalar _ | newString _ | importModule _ | errorPending | takeError => exact Upholds.pure
  | newTuple items => exact Upholds.bind (Upholds.mapM upholds_locate items) fun _ => Upholds.pure
  | setAttr _ _ _ | call _ _ | getItem _ _ =>
      exact Upholds.bind (upholds_locate _) fun _ =>
        Upholds.bind (upholds_locate _) fun _ => Upholds.pure
  | setItem _ _ _ =>
      exact Upholds.bind (upholds_locate _) fun _ => Upholds.bind (upholds_locate _) fun _ =>
        Upholds.bind (upholds_locate _) fun _ => Upholds.pure
  | _ => exact Upholds.bind (upholds_locate _) fun _ => Upholds.pure

theorem upholds_dumpWith (hI : Mild I fine)
    {dumpItems : List Ref → Attempt Simulation (Option (List Dump))}
    (hitems : ∀ items, (dumpItems items).Upholds I fine) (ref : Ref) :
    (dumpWith dumpItems ref).Upholds I fine := by
  unfold dumpWith
  apply upholds_access_bind hI
  intro object
  cases object.items? with
  | some items => exact Upholds.bind (hitems items) fun _ => Upholds.get_bind fun _ hs => hs
  | none => exact Upholds.bind Upholds.pure fun _ => Upholds.get_bind fun _ hs => hs

theorem upholds_dump (hI : Mild I fine) (depth : Nat) (ref : Ref) :
    (dump depth ref).Upholds I fine := by
  induction depth generalizing ref with
  | zero =>
      unfold dump
      exact upholds_dumpWith hI (fun _ => Upholds.pure) ref
  | succ depth ih =>
      unfold dump
      refine upholds_dumpWith hI (fun items => ?_) ref
      rw [map_eq_pure_bind]
      exact Upholds.bind (Upholds.mapM ih items) fun _ => Upholds.pure

end Steps

/-- An operation past the bridges that is no request and builds nothing. -/
def still : DirectStep → Bool
  | .ask _ | .build _ | .registerModule _ _ => false
  | _ => true

section Standing

variable {P : Heap Object → Prop}

/-- What starting and stopping may change is not in the objects. -/
theorem upholds_of_agrees {α : Type} {attempt : Attempt Simulation α}
    (h : ∀ first, attempt.Upholds (Agrees first) fun _ => True) :
    attempt.Upholds (fun s => P s.heap) fun _ => True := by
  intro s hs
  have hstanding : ∀ s', Agrees s s' → P s'.heap := by
    intro s' hagrees
    rw [hagrees.heap]
    exact hs
  exact meets_mono (fun _ s' hagrees => hstanding s' hagrees)
    (fun _ s' hagrees => ⟨trivial, hstanding s' hagrees.2⟩) (h s s (Agrees.refl s))

variable (hP : Steady (fun s => P s.heap) fun _ => True)

include hP

theorem upholds_performStep_of_still {step : DirectStep} (hstep : still step = true) :
    (performStep step).Upholds (fun s => P s.heap) fun _ => True := by
  have hread : ∀ f : Simulation → Session.Answer,
      Upholds (fun s => P s.heap) (fun _ => True) (get >>= fun s => pure (f s)) :=
    fun f => Upholds.get_bind fun _ hs => hs
  cases step with
  | ask _ | build _ | registerModule _ _ => cases hstep
  | name => exact Upholds.pure
  | attr object name =>
      exact Upholds.bind (upholds_locate object) fun ref =>
        Upholds.bind (upholds_look hP.toMild ref _) fun _ => Upholds.pure
  | start paths =>
      exact Upholds.bind (upholds_of_agrees fun _ => upholds_start paths) fun _ => Upholds.pure
  | stop => exact Upholds.bind (upholds_of_agrees upholds_stop) fun _ => Upholds.pure
  | retain object =>
      exact Upholds.bind (upholds_locate object) fun ref =>
        Upholds.bind (upholds_retain hP.toMild ref) fun _ => Upholds.pure
  | release object =>
      exact Upholds.bind (upholds_locate object) fun ref =>
        Upholds.bind (upholds_release hP ref) fun _ => Upholds.pure
  | raise diagnostic =>
      exact Upholds.bind (upholds_raise hP.toMild _ _) fun _ => Upholds.pure
  | isRunning | isStopped | startCount | searchPaths | liveCount => exact hread _
  | refuseStart refuses =>
      exact Upholds.bind (Upholds.modify fun _ hs => hs) fun _ => Upholds.pure
  | owners object | isLive object =>
      exact Upholds.get_bind fun s hs =>
        Upholds.bind (upholds_locate object) (fun _ => Upholds.pure) s hs
  | kind object =>
      exact Upholds.bind (upholds_locate object) fun ref => upholds_look hP.toMild ref _
  | dump object depth =>
      exact Upholds.bind (upholds_locate object) fun ref =>
        Upholds.bind (upholds_dump hP.toMild depth ref) fun _ => Upholds.pure

end Standing

end Simulation

namespace Session
namespace World

open Attempt
open Simulation (Object)

variable {α : Type} {index place : Nat} {w : World}

/-!
# Runtimes in a world
-/

/-- There is a simulated runtime at a place of a world, and something holds of its objects. -/
def Houses (index : Nat) (P : Heap Object → Prop) (w : World) : Prop :=
  ∃ rig, w.runtimes[index]? = some (.simulated rig) ∧ P rig.simulation.heap

section Places

variable {P Q : Heap Object → Prop}

theorem Houses.mono (hw : w.Houses index P) (himp : ∀ h, P h → Q h) : w.Houses index Q := by
  rcases hw with ⟨rig, hrig, hheap⟩
  exact ⟨rig, hrig, himp _ hheap⟩

/-- Elsewhere there may be no runtime, or another one. -/
theorem Houses.ne (hw : w.Houses index P) (h : ∀ rig, w.runtimes[place]? ≠ some (.simulated rig)) :
    place ≠ index := by
  rintro rfl
  rcases hw with ⟨rig, hrig, -⟩
  exact h rig hrig

theorem getElem?_set_self {rig : Rig} (hrig : w.runtimes[index]? = some (.simulated rig))
    (replaced : Runtime) : (w.runtimes.setIfInBounds index replaced)[index]? = some replaced :=
  Array.getElem?_setIfInBounds_self_of_lt (Array.getElem?_eq_some_iff.1 hrig).1

/-- What holds after a runtime was replaced. -/
theorem houses_set (hw : w.Houses index P) {runtime : Runtime}
    (hsame : place = index → ∃ rig, runtime = .simulated rig ∧ Q rig.simulation.heap)
    (hother : place ≠ index → ∀ h, P h → Q h) :
    Houses index Q { w with runtimes := w.runtimes.setIfInBounds place runtime } := by
  rcases hw with ⟨rig, hrig, hheap⟩
  by_cases hplace : place = index
  · rcases hsame hplace with ⟨rig', hrig', hheap'⟩
    refine ⟨rig', ?_, hheap'⟩
    rw [hplace, hrig']
    exact getElem?_set_self hrig _
  · exact ⟨rig, (Array.getElem?_setIfInBounds_ne hplace).trans hrig, hother hplace _ hheap⟩

/-- What is done in a runtime changes what holds there, and nothing elsewhere. -/
theorem houses_inRuntime {onRig : Attempt Rig α} {onInterpreter : StateM Interpreter α}
    (hw : w.Houses index P)
    (hsame : place = index → ∀ rig, w.runtimes[index]? = some (.simulated rig) →
      P rig.simulation.heap → Q (onRig.outcome rig).2.simulation.heap)
    (hother : place ≠ index → ∀ h, P h → Q h) :
    ((inRuntime place (Runtime.perform onRig onInterpreter)).outcome w).2.Houses index Q := by
  cases hplace : w.runtimes[place]? with
  | none =>
      rw [outcome_inRuntime_none hplace]
      exact hw.mono (hother (hw.ne fun rig hrig => by cases hplace.symm.trans hrig))
  | some runtime =>
      rw [outcome_inRuntime hplace]
      refine houses_set hw (fun heq => ?_) hother
      rcases hw with ⟨rig, hrig, hheap⟩
      rw [heq, hrig] at hplace
      cases hplace
      exact ⟨(onRig.outcome rig).2, rfl, hsame heq rig hrig hheap⟩

theorem upholds_inRuntime_of_rig {onRig : Attempt Rig α} {onInterpreter : StateM Interpreter α}
    (h : onRig.Upholds (fun rig => P rig.simulation.heap) fun _ => True) :
    (inRuntime place (Runtime.perform onRig onInterpreter)).Upholds (Houses index P) fun _ => True :=
  fun _ hw => meets_iff_state.2 (houses_inRuntime hw
    (fun _ rig _ hheap => meets_iff_state.1 (h rig hheap)) fun _ _ hheap => hheap)

end Places

section Standing

variable {P : Heap Object → Prop}

theorem upholds_startRuntime (paths : List String) :
    (inRuntime place (Runtime.start paths)).Upholds (Houses index P) fun _ => True := by
  apply upholds_inRuntime_of_rig
  rw [map_eq_pure_bind]
  have hstart : (Simulation.start paths).Upholds (fun s => P s.heap) fun _ => True :=
    Simulation.upholds_of_agrees fun _ => Simulation.upholds_start paths
  exact Upholds.bind (upholds_inSimulation hstart) fun _ => Upholds.pure

theorem upholds_stopRuntime :
    (inRuntime place Runtime.stop).Upholds (Houses index P) fun _ => True :=
  upholds_inRuntime_of_rig
    (upholds_inSimulation (Simulation.upholds_of_agrees Simulation.upholds_stop))

theorem abides_ensure_standing (lifecycle : LifecycleId) (paths : List String) :
    Abides (Houses index P) (fun _ => True) (ensure lifecycle place paths) :=
  abides_ensure_of_start (fun _ _ hw => hw) (fun _ _ hw => hw) (fun _ => trivial)
    upholds_startRuntime lifecycle paths

theorem abides_shutdown_standing (lifecycle : LifecycleId) :
    Abides (Houses index P) (fun _ => True) (shutdown lifecycle place) :=
  abides_shutdown_of_stop (fun _ _ hw => hw) (fun _ _ hw => hw) upholds_stopRuntime lifecycle

theorem abides_leave_standing (bridge : Nat) :
    Abides (Houses index P) (fun _ => True) (leave bridge) :=
  abides_leave_of_stop (fun _ _ hw => hw) (fun _ _ hw => hw) (fun _ => upholds_stopRuntime) bridge

theorem abides_enter (bridge : Nat) : Abides (Houses index P) (fun _ => True) (enter bridge) :=
  abides_enter_of_start (fun _ _ hw => hw) (fun _ _ hw => hw) (fun _ => trivial)
    (fun _ => upholds_startRuntime) bridge

/-- The faults of a runtime may be changed. -/
theorem abides_changeRig {change : Rig → Rig}
    (hchange : ∀ rig, (change rig).simulation = rig.simulation) :
    Abides (Houses index P) (fun _ => True) (changeRig place change) := by
  intro w hw
  unfold changeRig
  rw [meets_bind, meets_get]
  split
  · rename_i rig hrig
    refine houses_set hw (fun heq => ?_) fun _ _ hheap => hheap
    rcases hw with ⟨rig', hrig', hheap⟩
    rw [heq, hrig'] at hrig
    cases hrig
    refine ⟨change rig, rfl, ?_⟩
    rw [hchange]
    exact hheap
  · exact ⟨excused_malformed, hw⟩

variable (hP : Simulation.Steady (fun s => P s.heap) fun _ => True)

include hP

theorem upholds_answer_of_steady (connection : Connection) {r : Request}
    (hr : Simulation.Op.steady (.request r) = true) :
    (answer connection r).Upholds (Houses index P) fun _ => True :=
  upholds_answer_of_asked (upholds_inRuntime_of_rig
    (upholds_rigAnswer_of_ordinary hP (upholds_ordinary_of_steady hP hr)))

theorem tends_houses : Tends (Houses index P) fun _ => True where
  misuse _ _ := trivial
  retain connection _ := upholds_answer_of_steady hP connection rfl
  release connection _ := upholds_answer_of_steady hP connection rfl
  log _ _ hw := hw

end Standing

/-!
# Written values
-/

section Evaluation

variable {J : World → Prop} {fine : Panic → Prop}

theorem abides_ofForm (outcome : Except FormFault α) : Abides J fine (ofForm outcome) := by
  cases outcome with
  | ok result => exact Abides.pure
  | error fault =>
      cases fault with
      | numeric _ => exact Abides.throw nofun
      | conversion _ => exact Abides.throw excused_bridge

theorem abides_valueOf (name : String) : Abides J fine (valueOf name) := by
  unfold valueOf
  apply Abides.get_bind
  intro w
  split
  · exact Abides.pure
  · exact Abides.throw excused_malformed

theorem abides_handleOf (name : String) : Abides J fine (handleOf name) := by
  unfold handleOf
  apply Abides.bind (abides_valueOf name)
  intro value
  cases value with
  | foreign h => exact Abides.pure
  | _ => exact Abides.throw excused_malformed

variable (hJ : Tends J fine)

include hJ

theorem abides_consuming {handles : List Handle} {act : Act α} (h : Abides J fine act) :
    Abides J fine (consuming handles act) :=
  Abides.bind (abides_guarding hJ h) fun _ => Abides.bind (abides_dropHandles hJ handles) fun _ =>
    Abides.pure

mutual

/-- To evaluate a form copies handles and drops them. -/
theorem abides_evaluate : ∀ form : ValueForm, Abides J fine (evaluate form)
  | .undefined => Abides.pure
  | .scalar _ => Abides.bind (abides_ofForm _) fun _ => Abides.pure
  | .text _ => Abides.pure
  | .cell items => Abides.bind (abides_evaluateAll items) fun _ => Abides.pure
  | .matrix _ => Abides.bind (abides_ofForm _) fun _ => Abides.pure
  | .variable name =>
    Abides.bind (abides_valueOf name) fun value =>
      Abides.bind (abides_cloneHandles hJ value.handles) fun _ => Abides.pure
  | .repeated 0 form =>
    Abides.bind (abides_evaluate form) fun value =>
      Abides.bind (abides_dropHandles hJ value.handles) fun _ => Abides.pure
  | .repeated (_ + 1) form =>
    Abides.bind (abides_evaluate form) fun _ =>
      Abides.bind (abides_guarding hJ (abides_cloneHandles hJ _)) fun _ => Abides.pure
  | .nested _ form => Abides.bind (abides_evaluate form) fun _ => Abides.pure

theorem abides_evaluateAll : ∀ forms : List ValueForm, Abides J fine (evaluateAll forms)
  | [] => Abides.pure
  | form :: forms =>
    Abides.bind (abides_evaluate form) fun _ =>
      Abides.bind (abides_guarding hJ (abides_evaluateAll forms)) fun _ => Abides.pure

end

theorem abides_evaluateAccessor (form : AccessorForm) : Abides J fine (evaluateAccessor form) := by
  cases form with
  | field name => exact Abides.pure
  | call arguments | index arguments =>
      exact Abides.bind (abides_evaluateAll hJ arguments) fun _ => Abides.pure

theorem abides_evaluateChain (forms : List AccessorForm) : Abides J fine (evaluateChain forms) := by
  induction forms with
  | nil => exact Abides.pure
  | cons form rest ih =>
      unfold evaluateChain
      apply Abides.bind (abides_evaluateAccessor hJ form)
      intro link
      exact Abides.bind (abides_guarding hJ ih) fun _ => Abides.pure

omit hJ in
theorem abides_evaluateReceiver : ∀ form : ReceiverForm, Abides J fine (evaluateReceiver form)
  | .variable name => Abides.bind (abides_handleOf name) fun _ => Abides.pure
  | .path _ => Abides.pure

theorem abides_evaluateEntry (form : EntryForm) : Abides J fine (evaluateEntry form) := by
  cases form with
  | importModule name => exact Abides.pure
  | construct module className arguments =>
      exact Abides.bind (abides_handleOf module) fun _ =>
        Abides.bind (abides_evaluateAll hJ arguments) fun _ => Abides.pure
  | invoke on method arguments =>
      exact Abides.bind (abides_evaluateReceiver on) fun _ =>
        Abides.bind (abides_evaluateAll hJ arguments) fun _ => Abides.pure
  | getField on field => exact Abides.bind (abides_evaluateReceiver on) fun _ => Abides.pure
  | setField on field value =>
      exact Abides.bind (abides_evaluateReceiver on) fun _ =>
        Abides.bind (abides_evaluate hJ value) fun _ => Abides.pure
  | read root chain =>
      exact Abides.bind (abides_handleOf root) fun _ =>
        Abides.bind (abides_evaluateChain hJ chain) fun _ => Abides.pure
  | assign root chain value =>
      exact Abides.bind (abides_handleOf root) fun _ =>
        Abides.bind (abides_evaluateChain hJ chain) fun _ =>
          Abides.bind (abides_guarding hJ (abides_evaluate hJ value)) fun _ => Abides.pure
  | members handle => exact Abides.bind (abides_handleOf handle) fun _ => Abides.pure

theorem abides_withValue (form : ValueForm) {act : Value → Act α}
    (h : ∀ value, Abides J fine (act value)) : Abides J fine (withValue form act) :=
  Abides.bind (abides_evaluate hJ form) fun value => abides_consuming hJ (h value)

theorem abides_countSkipped (format : StorageFormat) (handles : List Handle) :
    Abides J fine (countSkipped format handles) := by
  have hlogs : Abides J fine (handles.forM fun h => log (.saveSkipped format h.className)) := by
    induction handles with
    | nil => exact Abides.pure
    | cons h rest ih => exact Abides.bind (abides_log hJ.log _) fun _ => ih
  exact Abides.bind hlogs fun _ => Abides.pure

variable (hbind : ∀ w bindings, J w → J { w with bindings })

include hbind

theorem abides_assign (name : String) (value : Value) : Abides J fine (assign name value) := by
  unfold assign
  apply Abides.get_bind
  intro w
  apply Abides.bind (Abides.modify fun w hw => hbind w _ hw)
  intro _
  cases w.bindings.find? name with
  | some previous => exact abides_dropHandles hJ previous.handles
  | none => exact Abides.pure

theorem abides_answerValue (value : Value) (into : Option String) :
    Abides J fine (answerValue value into) := by
  unfold answerValue
  cases into with
  | some name =>
      exact Abides.bind (abides_assign hJ hbind name value) fun _ =>
        Abides.get_bind fun _ => Abides.pure
  | none =>
      exact Abides.get_bind fun _ => Abides.bind (abides_dropHandles hJ value.handles) fun _ =>
        Abides.pure

theorem abides_finish : Abides J fine finish := by
  unfold finish
  apply Abides.get_bind
  intro w
  dsimp only
  apply Abides.bind (Abides.modify fun w hw => hbind w _ hw)
  intro _
  exact Abides.bind (abides_dropHandles hJ _) fun _ => Abides.pure

/-- A step that makes no request to a bridge, and none past the bridges. -/
def still : Step → Bool
  | .enter _ _ _ | .handleMembers _ | .direct _ _ _ => false
  | _ => true

end Evaluation

section Still

variable {P : Heap Object → Prop} (hP : Simulation.Steady (fun s => P s.heap) fun _ => True)

include hP

theorem abides_take_of_still {step : Step} (hstep : still step = true) :
    Abides (Houses index P) (fun _ => True) (take step) := by
  have hJ : Tends (Houses index P) fun _ => True := tends_houses hP
  have hbind : ∀ (w : World) bindings, w.Houses index P → Houses index P { w with bindings } :=
    fun _ _ hw => hw
  cases step with
  | enter _ _ _ | handleMembers _ | direct _ _ _ => cases hstep
  | start bridge => exact Abides.bind (abides_enter bridge) fun _ => Abides.pure
  | leave bridge => exact Abides.bind (abides_leave_standing bridge) fun _ => Abides.pure
  | available bridge =>
      exact Abides.get_bind fun _ => Abides.bind (abides_bridge bridge) fun _ => Abides.pure
  | isForeign form => exact abides_withValue hJ form fun _ => Abides.pure
  | bind form into =>
      exact Abides.bind (abides_evaluate hJ form) fun value => abides_answerValue hJ hbind value into
  | drop name =>
      apply Abides.get_bind
      intro w
      cases w.bindings.find? name with
      | none => exact Abides.pure
      | some value =>
          exact Abides.bind (Abides.modify fun w hw => hbind w _ hw) fun _ =>
            Abides.bind (abides_dropHandles hJ value.handles) fun _ => Abides.pure
  | report form => exact abides_withValue hJ form fun _ => Abides.pure
  | equal a b =>
      exact abides_withValue hJ a fun _ => abides_withValue hJ b fun _ => Abides.pure
  | describe name =>
      exact Abides.bind (abides_handleOf name) fun _ => Abides.get_bind fun _ => Abides.pure
  | isInstance name className => exact Abides.bind (abides_handleOf name) fun _ => Abides.pure
  | sameObject a b =>
      exact Abides.bind (abides_handleOf a) fun _ =>
        Abides.bind (abides_handleOf b) fun _ => Abides.pure
  | save name format | load name format =>
      exact Abides.bind (abides_handleOf name) fun _ => Abides.bind (abides_log hJ.log _) fun _ =>
        Abides.pure
  | countSkipped form format =>
      exact abides_withValue hJ form fun value =>
        Abides.bind (abides_countSkipped hJ format value.handles) fun _ => Abides.pure
  | lifecycleState lifecycle => exact Abides.get_bind fun _ => Abides.pure
  | processState => exact Abides.get_bind fun _ => Abides.pure
  | lifecycleEnsure lifecycle runtime paths =>
      exact Abides.bind (abides_ensure_standing lifecycle paths) fun _ => Abides.pure
  | lifecycleShutdown lifecycle runtime =>
      exact Abides.bind (abides_shutdown_standing lifecycle) fun _ => Abides.pure
  | sharedLifecycle => exact Abides.pure
  | addFault runtime fault =>
      exact Abides.bind (abides_changeRig fun _ => rfl) fun _ => Abides.pure
  | clearFaults runtime =>
      exact Abides.bind (abides_changeRig fun _ => rfl) fun _ => Abides.pure
  | refused fault => exact Abides.throw nofun

end Still

end World
end Session
end ForeignBridge
