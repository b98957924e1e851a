import ForeignBridge.Crossing.Entry
import ForeignBridge.Crossing.Run
import ForeignBridge.Interpreter.Answer
import ForeignBridge.Session.Fault

/-!
# Worlds

A world holds foreign runtimes, the lifecycles that gate their use, the bridges over them, and the
variables of the host.  A runtime is started by the first use of a bridge on its lifecycle, and
stopped for good by leaving any of them.  Copying and dropping a host value acquires and gives back
the references of its handles.
-/

namespace ForeignBridge
namespace Session

inductive Phase where
  | idle | started | finished
  deriving DecidableEq, Repr

namespace Phase

def name : Phase → String
  | idle => "Uninitialized"
  | started => "Initialized"
  | finished => "Finalized"

end Phase

/-- The name of a lifecycle, one of which belongs to the whole process. -/
inductive LifecycleId where
  | process
  | named (name : String)
  deriving DecidableEq, Repr

inductive Runtime where
  | simulated (rig : Rig)
  | interpreted (interpreter : Interpreter)

namespace Runtime

def name : Runtime → String
  | simulated _ => "sim"
  | interpreted _ => "python"

/-- A computation on a runtime, given what it is on each kind of runtime. -/
def perform {α : Type} (onRig : Attempt Rig α) (onInterpreter : StateM Interpreter α) :
    Attempt Runtime α :=
  ExceptT.mk fun
  | simulated rig =>
    let (outcome, rig) := onRig.outcome rig
    (outcome, simulated rig)
  | interpreted interpreter =>
    let (result, interpreter) := onInterpreter.run interpreter
    (.ok result, interpreted interpreter)

def answer (r : Request) : Attempt Runtime r.Answer :=
  perform (Rig.answer r) (Interpreter.answer r)

/-- Starts the runtime with more search paths.  The answer says whether it runs and which paths it
could not add.  An interpreter runs from the start. -/
def start (paths : List String) : Attempt Runtime (Bool × List String) :=
  perform ((·, []) <$> Rig.inSimulation (Simulation.start paths))
    ((true, ·) <$> Interpreter.extendSearchPath paths)

/-- Stops the runtime.  An interpreter is no longer used then. -/
def stop : Attempt Runtime Unit := perform (Rig.inSimulation Simulation.stop) (return ())

/-- How references of the runtime are written: only those of a simulated runtime are numbered. -/
def refText : Runtime → Ref → String
  | simulated _, ref => ref.text
  | interpreted _, _ => "RawRef(_)"

end Runtime

structure Connection where
  /-- The place of the runtime in the world. -/
  runtime : Nat
  lifecycle : LifecycleId
  /-- Whether the runtime is asked for the kinds of its numbers. -/
  typed : Bool

/-- A bridge, which may have no runtime. -/
structure Bridge where
  connection : Option Connection
  settings : Settings

/-- Runtimes, lifecycles, bridges and variables, and the events since they were last read. -/
structure World where
  runtimes : Array Runtime
  phases : List (LifecycleId × Phase)
  bridges : Array Bridge
  bindings : Table Value
  /-- The last event first. -/
  events : List Event
  /-- How often a conversion goes on with a sequence inside a sequence. -/
  nesting : Nat

inductive Failure where
  | bridge (error : BridgeError)
  | numeric (fault : NumericFault)
  | panic (panic : Panic)
  /-- The step names something that is not there. -/
  | malformed (reason : String)

abbrev Act (α : Type) := ExceptT Failure (StateM World) α

namespace World

variable {α : Type}

def record (event : Event) : StateM World Unit :=
  modify fun w => { w with events := event :: w.events }

def log (event : Event) : Act Unit := ExceptT.lift (record event)

/-- Panics count as failures of a step. -/
def ofAttempt (attempt : Attempt World α) : Act α := ExceptT.mk do
  match ← attempt.run with
  | .ok result => return .ok result
  | .error panic => return .error (.panic panic)

/-! ## Runtimes and lifecycles -/

def inRuntime (index : Nat) (attempt : Attempt Runtime α) : Attempt World α := ExceptT.mk fun w =>
  match w.runtimes[index]? with
  | some runtime =>
    let (outcome, runtime) := attempt.outcome runtime
    (outcome, { w with runtimes := w.runtimes.setIfInBounds index runtime })
  | none => (.error (.usedAfterShutdown "no"), w)

def runtimeName (index : Nat) (w : World) : String :=
  ((w.runtimes[index]?).map Runtime.name).getD ""

def answer (connection : Connection) (r : Request) : Attempt World r.Answer :=
  match r with
  | .numericKind object =>
    if connection.typed then inRuntime connection.runtime (Runtime.answer (.numericKind object))
    else return none
  | r => inRuntime connection.runtime (Runtime.answer r)

def phaseOf (lifecycle : LifecycleId) (w : World) : Phase :=
  (w.phases.lookup lifecycle).getD .idle

def setPhase (lifecycle : LifecycleId) (phase : Phase) : Act Unit :=
  modify fun w => { w with phases := (lifecycle, phase) :: w.phases.filter (·.1 != lifecycle) }

/-- Starts a runtime through a lifecycle, unless that is done already. -/
def ensure (lifecycle : LifecycleId) (runtime : Nat) (paths : List String) : Act Unit := do
  let w ← get
  let name := w.runtimeName runtime
  match w.phaseOf lifecycle with
  | .started => return ()
  | .finished => throw (.panic (.usedAfterShutdown name))
  | .idle =>
    let (running, refused) ← ofAttempt (inRuntime runtime (Runtime.start paths))
    refused.forM fun path => log (.pathNotAdded path)
    if running then
      setPhase lifecycle .started
      log (.started name paths)
    else throw (.bridge (.foreignRuntime .start s!"{name} runtime failed to start"))

/-- Stops a runtime through a lifecycle that started it. -/
def shutdown (lifecycle : LifecycleId) (runtime : Nat) : Act Unit := do
  let w ← get
  if w.phaseOf lifecycle = .started then
    ofAttempt (inRuntime runtime Runtime.stop)
    setPhase lifecycle .finished
    log (.stopped (w.runtimeName runtime))

/-! ## Bridges -/

def bridge (index : Nat) : Act Bridge := do
  match (← get).bridges[index]? with
  | some bridge => return bridge
  | none => throw (.malformed "no such bridge")

/-- The started runtime of a bridge. -/
def enter (index : Nat) : Act Connection := do
  let bridge ← bridge index
  match bridge.connection with
  | none => throw (.bridge (.notAvailable "built without a foreign runtime backend"))
  | some connection =>
    ensure connection.lifecycle connection.runtime bridge.settings.searchPaths
    return connection

def leave (index : Nat) : Act Unit := do
  match (← bridge index).connection with
  | none => return ()
  | some connection => shutdown connection.lifecycle connection.runtime

/-- Runs a crossing of a bridge, whose runtime is started first. -/
def cross (index : Nat) (crossing : Context → Crossing α) : Act α := do
  let connection ← enter index
  let w ← get
  let context : Context :=
    ⟨index, w.runtimeName connection.runtime, (← bridge index).settings, w.nesting⟩
  match ← ofAttempt (Program.run (answer connection) record (crossing context).run) with
  | .ok result => return result
  | .error error => throw (.bridge error)

/-! ## Host values -/

def connectionOf (h : Handle) : Act Connection := do
  match (← bridge h.context).connection with
  | some connection => return connection
  | none => throw (.malformed "a handle without a runtime")

def cloneHandle (h : Handle) : Act Unit := do
  let connection ← connectionOf h
  if (← get).phaseOf connection.lifecycle = .finished then
    throw (.panic (.clonedAfterShutdown h.ref))
  else ofAttempt (answer connection (.retain h.ref))

/-- Gives the reference of a handle back, or leaks it if the runtime was shut down. -/
def dropHandle (h : Handle) : Act Unit := do
  let connection ← connectionOf h
  if (← get).phaseOf connection.lifecycle = .finished then log (.leaked h.ref)
  else ofAttempt (answer connection (.release h.ref))

/-- Drops handles one by one, also after one of them panics. -/
def dropHandles : List Handle → Act Unit
  | [] => return ()
  | h :: rest => ExceptT.mk do
    let outcome ← (dropHandle h).run
    let others ← (dropHandles rest).run
    return outcome.bind fun _ => others

def dropValue (v : Value) : Act Unit := dropHandles v.handles

def guarding (handles : List Handle) (act : Act α) : Act α := ExceptT.mk do
  match ← act.run with
  | .ok result => return .ok result
  | .error failure =>
    let _ ← (dropHandles handles).run
    return .error failure

def consuming (handles : List Handle) (act : Act α) : Act α := do
  let result ← guarding handles act
  dropHandles handles
  return result

/-- Copies handles one by one; if one cannot be copied the copies before it are dropped. -/
def cloneHandles : List Handle → Act Unit
  | [] => return ()
  | h :: rest => do
    cloneHandle h
    guarding [h] (cloneHandles rest)

/-! ## Variables -/

def valueOf (name : String) : Act Value := do
  match (← get).bindings.find? name with
  | some value => return value
  | none => throw (.malformed s!"no variable {name}")

def handleOf (name : String) : Act Handle := do
  match ← valueOf name with
  | .foreign h => return h
  | _ => throw (.malformed s!"{name} is not a handle")

/-- Puts a value into a variable and drops the one that was in it. -/
def assign (name : String) (value : Value) : Act Unit := do
  let previous := (← get).bindings.find? name
  modify fun w => { w with bindings := w.bindings.insert name value }
  match previous with
  | some previous => dropValue previous
  | none => return ()

end World
end Session
end ForeignBridge
