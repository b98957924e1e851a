import ForeignBridge.Host.Form
import ForeignBridge.Session.World
import ForeignBridge.Simulation.Form

/-!
# Steps

What a session does, one step after another: requests to bridges, work on host values and their
handles, changes of lifecycles, faults, and operations on a runtime past all bridges; and what a
step answers.
-/

namespace ForeignBridge
namespace Session

/-! ## What is written in a step -/

inductive AccessorForm where
  | field (name : String)
  | call (arguments : List ValueForm)
  | index (arguments : List ValueForm)

/-- A written receiver: a variable that holds a handle, or a dotted name. -/
inductive ReceiverForm where
  | variable (name : String)
  | path (path : String)

inductive EntryForm where
  | importModule (name : String)
  | construct (module : String) (className : String) (arguments : List ValueForm)
  | invoke (on : ReceiverForm) (method : String) (arguments : List ValueForm)
  | getField (on : ReceiverForm) (field : String)
  | setField (on : ReceiverForm) (field : String) (value : ValueForm)
  | read (root : String) (chain : List AccessorForm)
  | assign (root : String) (chain : List AccessorForm) (value : ValueForm)
  | members (handle : String)

/-- A written request to a runtime past all bridges, which points out the objects that it is
about. -/
inductive RequestForm where
  | kindOf (object : Simulation.Designation)
  | numericKind (object : Simulation.Designation)
  | typeName (object : Simulation.Designation)
  | memberNames (object : Simulation.Designation)
  | isCallable (object : Simulation.Designation)
  | supportsIndexing (object : Simulation.Designation)
  | intValue (object : Simulation.Designation)
  | floatValue (object : Simulation.Designation)
  | boolValue (object : Simulation.Designation)
  | stringBytes (object : Simulation.Designation)
  | sequenceLength (object : Simulation.Designation)
  | sequenceItem (object : Simulation.Designation) (index : Nat)
  | null
  | newScalar (value : Scalar)
  | newString (text : String)
  | newTuple (items : List Simulation.Designation)
  | importModule (name : String)
  | getAttr (object : Simulation.Designation) (name : String)
  | setAttr (object : Simulation.Designation) (name : String) (value : Simulation.Designation)
  | call (callable arguments : Simulation.Designation)
  | getItem (object key : Simulation.Designation)
  | setItem (object key value : Simulation.Designation)
  | retain (object : Simulation.Designation)
  | release (object : Simulation.Designation)
  | errorPending
  | takeError

/-- An operation on a runtime past all bridges.  Those that are no requests are operations of a
simulated runtime, except for the question for its name. -/
inductive DirectStep where
  | ask (form : RequestForm)
  | name
  | build (form : Simulation.Form)
  | registerModule (name : String) (entries : List (String × Simulation.Form))
  | attr (object : Simulation.Designation) (name : String)
  | start (paths : List String)
  | stop
  | retain (object : Simulation.Designation)
  | release (object : Simulation.Designation)
  | raise (diagnostic : Diagnostic)
  | isRunning
  | isStopped
  | startCount
  | searchPaths
  | refuseStart (refuses : Bool)
  | liveCount
  | owners (object : Simulation.Designation)
  | isLive (object : Simulation.Designation)
  | kind (object : Simulation.Designation)
  | dump (object : Simulation.Designation) (depth : Nat)

inductive Step where
  | enter (bridge : Nat) (entry : EntryForm) (into : Option String)
  | start (bridge : Nat)
  | leave (bridge : Nat)
  | available (bridge : Nat)
  | isForeign (value : ValueForm)
  | bind (value : ValueForm) (into : Option String)
  | drop (name : String)
  | report (value : ValueForm)
  | equal (a b : ValueForm)
  | describe (handle : String)
  | handleMembers (handle : String)
  | isInstance (handle className : String)
  | sameObject (a b : String)
  | save (handle : String) (format : StorageFormat)
  | load (handle : String) (format : StorageFormat)
  | countSkipped (value : ValueForm) (format : StorageFormat)
  | lifecycleState (lifecycle : LifecycleId)
  | processState
  | lifecycleEnsure (lifecycle : LifecycleId) (runtime : Nat) (paths : List String)
  | lifecycleShutdown (lifecycle : LifecycleId) (runtime : Nat)
  | sharedLifecycle
  | addFault (runtime : Nat) (fault : Fault)
  | clearFaults (runtime : Nat)
  | direct (runtime : Nat) (step : DirectStep) (into : Option String)
  /-- A step in which a number is written that its kind does not hold. -/
  | refused (fault : NumericFault)

/-! ## What a step answers -/

/-- What can be said of a value without its runtime. -/
structure Report where
  typeName : String
  display : String
  scalar : Option Scalar
  className : Option String

def Report.of (v : Value) : Report :=
  ⟨v.typeName, v.display, v.scalar?, v.handle?.map Handle.className⟩

/-- A look at an object from outside, down to a depth. -/
inductive Dump where
  | object (kind : ForeignKind) (owners : Nat) (int : Option Int) (float : Option Double)
      (bool : Option Bool) (text : Option String) (numeric : Option NumericKind)
      (items : Option (List Dump))

inductive Answer where
  | nothing
  | flag (b : Bool)
  | text (s : String)
  | optionalText (s : Option String)
  | count (n : Nat)
  | optionalCount (n : Option Nat)
  | names (names : List String)
  | optionalNames (names : Option (List String))
  /-- A value, with the handle variables that hold the same object for each of its handles. -/
  | value (v : Value) (same : Handle → List String)
  | report (report : Report)
  | available (runtime : Option String)
  | handle (h : Handle) (debug : String)
  | phase (phase : Phase)
  | object (ref : Option Ref)
  | kind (kind : ForeignKind)
  | numericKind (kind : Option NumericKind)
  | int (value : Option Int)
  | float (x : Double)
  | bytes (bytes : Option (List UInt8))
  | diagnostic (diagnostic : Option Diagnostic)
  | dump (dump : Dump)
  | finished

end Session
end ForeignBridge
