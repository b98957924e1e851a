import ForeignBridge.Interpreter.Geometry
import ForeignBridge.Session.Direct
import ForeignBridge.Session.Evaluation
import ForeignBridge.Session.Log
import ForeignBridge.Simulation.Geometry

/-!
# Sessions

A session makes a world and takes steps in it.  After every step it says what the step answered or
why it failed, how many objects live in each simulated runtime and whether an error is pending
there, and what was logged.  At the end all variables are dropped.
-/

namespace ForeignBridge
namespace Session

namespace World

/-! ## Steps -/

def addFault (fault : Fault) (rig : Rig) : Rig := { rig with faults := rig.faults ++ [fault] }

def clearFaults (rig : Rig) : Rig := { rig with faults := [] }

def changeRig (index : Nat) (change : Rig → Rig) : Act Unit := do
  match (← get).runtimes[index]? with
  | some (.simulated rig) =>
    modify fun w => { w with runtimes := w.runtimes.setIfInBounds index (.simulated (change rig)) }
  | _ => throw (.malformed "no such simulated runtime")

def enterStep (bridge : Nat) (form : EntryForm) (into : Option String) : Act Answer := do
  let (entry, copies) ← evaluateEntry form
  let reply ← guarding copies (cross bridge fun context => context.serve entry)
  match reply with
  | .value value =>
    let answer ← answerValue value into
    dropHandles copies
    return answer
  | .names names =>
    dropHandles copies
    return .names names
  | .nothing =>
    dropHandles copies
    return .nothing

/-- Counts the handles that saving a value leaves out, each of which is logged. -/
def countSkipped (format : StorageFormat) (handles : List Handle) : Act Nat := do
  handles.forM fun h => log (.saveSkipped format h.className)
  return handles.length

def take : Step → Act Answer
  | .enter bridge entry into => enterStep bridge entry into
  | .start bridge => do
    let _ ← enter bridge
    return .nothing
  | .leave bridge => do
    leave bridge
    return .nothing
  | .available index => do
    let w ← get
    let connection := (← bridge index).connection
    return .available (connection.map fun c => w.runtimeName c.runtime)
  | .isForeign form => withValue form fun value => return .flag value.isForeign
  | .bind form into => do answerValue (← evaluate form) into
  | .drop name => do
    match (← get).bindings.find? name with
    | some value =>
      modify fun w => { w with bindings := w.bindings.erase name }
      dropValue value
      return .flag true
    | none => return .flag false
  | .report form => withValue form fun value => return .report (.of value)
  | .equal a b => withValue a fun a => withValue b fun b => return .flag (a.eq b)
  | .describe name => do
    let h ← handleOf name
    return .handle h ((← get).debugText h)
  | .handleMembers name => do
    let h ← handleOf name
    return .names (← cross h.context fun context => context.memberNames h)
  | .isInstance name className => do return .flag ((← handleOf name).className == className)
  | .sameObject a b => do return .flag ((← handleOf a).sameObject (← handleOf b))
  | .save name format => do
    let h ← handleOf name
    log (.saveSkipped format h.className)
    return .flag true
  | .load name format => do
    let h ← handleOf name
    log (.loadSkipped format h.className)
    return .flag true
  | .countSkipped form format =>
    withValue form fun value => do return .count (← countSkipped format value.handles)
  | .lifecycleState lifecycle => do return .phase ((← get).phaseOf lifecycle)
  | .processState => do return .text ((← get).phaseOf .process).name
  | .lifecycleEnsure lifecycle runtime paths => do
    ensure lifecycle runtime paths
    return .nothing
  | .lifecycleShutdown lifecycle runtime => do
    shutdown lifecycle runtime
    return .nothing
  | .sharedLifecycle => return .flag true
  | .addFault runtime fault => do
    changeRig runtime (addFault fault)
    return .nothing
  | .clearFaults runtime => do
    changeRig runtime clearFaults
    return .nothing
  | .direct runtime step into => direct runtime into step
  | .refused fault => throw (.numeric fault)

/-- Drops all variables in the order of their names. -/
def finish : Act Answer := do
  let handles := (← get).bindings.values.flatMap Value.handles
  modify fun w => { w with bindings := .empty }
  dropHandles handles
  return .finished

end World

/-! ## Entries -/

/-- What is said after a step. -/
structure Record where
  outcome : Except Failure Answer
  /-- The live objects of each simulated runtime, and whether an error is pending there. -/
  runtimes : List (Nat × Bool)
  events : List Event
  refText : Ref → String

structure BridgePlan where
  connection : Option Connection
  settings : Settings
  /-- Whether the bridge looked for a runtime that comes with it and found none. -/
  searched : Bool

structure Plan where
  runtimes : List Runtime
  bridges : List BridgePlan
  /-- The least severe events that are logged. -/
  level : Severity

namespace Plan

def world (plan : Plan) : World where
  runtimes := plan.runtimes.toArray
  phases := []
  bridges := (plan.bridges.map fun b => ⟨b.connection, b.settings⟩).toArray
  bindings := .empty
  events := (plan.bridges.filter BridgePlan.searched).map fun _ => .noRuntime
  nesting := 999

end Plan

/-- A simulated runtime in which modules are registered already. -/
def simulatedRuntime (modules : List Simulation.Script) : Runtime :=
  let register : Attempt Simulation Unit :=
    modules.forM fun script => discard (Simulation.run Simulation.callDepth script)
  .simulated ⟨(register.outcome Simulation.fresh).2, [], Simulation.callDepth⟩

def interpretedRuntime : Runtime := .interpreted (.fresh [Interpreter.Geometry.directory])

def observe (level : Severity) (act : Act Answer) (w : World) : Record × World :=
  let (outcome, w) := act.run.run w
  let runtimes := w.runtimes.toList.filterMap fun
    | .simulated rig => some (rig.simulation.heap.liveCount, rig.simulation.pending.isSome)
    | .interpreted _ => none
  let events := w.events.reverse.filter fun event => event.severity.rank ≤ level.rank
  let refText := match w.runtimes[0]? with
    | some runtime => runtime.refText
    | none => Ref.text
  (⟨outcome, runtimes, events, refText⟩, { w with events := [] })

/-- Takes steps one after another, and drops all variables at the end. -/
def observeAll (level : Severity) : List Step → World → List Record
  | [], w => [(observe level World.finish w).1]
  | step :: steps, w =>
    let (record, w) := observe level (World.take step) w
    record :: observeAll level steps w

def run (plan : Plan) (steps : List Step) : List Record :=
  observeAll plan.level steps plan.world

end Session
end ForeignBridge
