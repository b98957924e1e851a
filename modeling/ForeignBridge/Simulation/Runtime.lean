import ForeignBridge.Heap.Release
import ForeignBridge.Simulation.Object
import ForeignBridge.Text.Utf8

/-!
# The simulated runtime

A foreign runtime in a value: a heap of objects, a registry of modules, and one pending error.  Its
requests are served only while it runs; builders and peeking work at any time.  Whoever uses it
wrongly, by a request outside its life or by a reference to a dead object, is answered by a panic.
-/

namespace ForeignBridge

inductive SimulationPhase where
  | fresh | running | stopped
  deriving DecidableEq, Repr

structure Simulation where
  heap : Heap Simulation.Object
  modules : Table Ref
  phase : SimulationPhase
  startCount : Nat
  refusesStart : Bool
  searchPaths : List String
  pending : Option Diagnostic
  /-- The function of every call so far, the last one first. -/
  called : List Ref
  /-- The names given to objects from outside, which own nothing. -/
  names : Table Ref

namespace Simulation

variable {α : Type}

/-- The null object, which every simulated runtime owns once. -/
def nullRef : Ref := ⟨1⟩

/-- A runtime that was never started and holds only the null object. -/
def fresh : Simulation where
  heap := Heap.singleton .null
  modules := .empty
  phase := .fresh
  startCount := 0
  refusesStart := false
  searchPaths := []
  pending := none
  called := []
  names := .empty

/-! ## The heap -/

def allocate (object : Object) : Attempt Simulation Ref := do
  let s ← get
  let (ref, heap) := s.heap.allocate object
  set { s with heap }
  return ref

def access (ref : Ref) : Attempt Simulation Object := do
  match (← get).heap.get? ref with
  | some object => return object
  | none => throw (.deadAccess ref)

def retain (ref : Ref) : Attempt Simulation Unit := do
  let s ← get
  match s.heap.retain? ref with
  | some heap => set { s with heap }
  | none => throw (.deadRetain ref)

def release (ref : Ref) : Attempt Simulation Unit := do
  let s ← get
  let released := s.heap.release ref
  set { s with heap := released.heap }
  match released.dead with
  | some dead => throw (.deadRelease dead)
  | none => return ()

/-- Gives back a reference in whose place another one came, if there was one. -/
def releaseOld : Option Ref → Attempt Simulation Unit
  | some previous => release previous
  | none => return ()

def store (ref : Ref) (object : Object) : Attempt Simulation Unit :=
  modify fun s => { s with heap := s.heap.setContent ref object }

/-- Makes an error pending, instead of one that was. -/
def raise (kind message : String) : Attempt Simulation Unit :=
  modify fun s => { s with pending := some ⟨kind, message⟩ }

def failWith (kind message : String) (sentinel : α) : Attempt Simulation α := do
  raise kind message
  return sentinel

/-- The answer of a reference to an object that something else owns. -/
def lend (ref : Ref) : Attempt Simulation (Option Ref) := do
  retain ref
  return some ref

/-! ## Looking at objects -/

/-- The name of an object's type, which for instances is the name of their class. -/
def displayType (ref : Ref) : Attempt Simulation String := do
  let object ← access ref
  match object.class? with
  | some cls =>
    match ← access cls with
    | .classOf name _ => return name
    | other => return other.builtinType
  | none => return object.builtinType

def typeName (ref : Ref) : Attempt Simulation String := do
  let target := match ← access ref with
    | .boundMethod _ function => function
    | _ => ref
  match (← access target).ownName? with
  | some name => return name
  | none => displayType ref

/-- The names of an object's own attributes, and after them those of its class. -/
def memberNames (ref : Ref) : Attempt Simulation (List String) := do
  let object ← access ref
  let own := (object.attrs?.map Table.names).getD []
  match object.class? with
  | some cls => return own ++ (((← access cls).attrs?.map Table.names).getD [])
  | none => return own

def intValue (ref : Ref) : Attempt Simulation (Option Int) := do
  match ← access ref with
  | .int value _ => return some value
  | .bool b => return some (if b then 1 else 0)
  | _ =>
    let type ← displayType ref
    failWith "TypeError" s!"'{type}' object cannot be interpreted as an integer" none

def floatValue (ref : Ref) : Attempt Simulation Double := do
  match ← access ref with
  | .float x _ => return x
  | .int value _ => return Binary.ofInt value
  | .bool b => return Binary.ofInt (if b then 1 else 0)
  | _ =>
    let type ← displayType ref
    failWith "TypeError" s!"must be real number, not {type}" (Binary.ofInt (-1))

def stringBytes (ref : Ref) : Attempt Simulation (Option (List UInt8)) := do
  match ← access ref with
  | .bytes bytes => return some bytes
  | .text text => return some (Utf8.encode text)
  | .units units =>
    match Utf16.decode? units with
    | some text => return some (Utf8.encode text)
    | none => failWith "UnicodeEncodeError" "surrogates not allowed" none
  | _ =>
    let type ← displayType ref
    failWith "TypeError" s!"expected str or bytes, got '{type}'" none

def sequenceLength (ref : Ref) : Attempt Simulation (Option Nat) := do
  match (← access ref).items? with
  | some items => return some items.length
  | none =>
    let type ← displayType ref
    failWith "TypeError" s!"object of type '{type}' has no len()" none

def sequenceItem (ref : Ref) (index : Nat) : Attempt Simulation (Option Ref) := do
  match ((← access ref).items?).bind (·[index]?) with
  | some item => lend item
  | none =>
    let type ← displayType ref
    failWith "IndexError" s!"{type} index out of range" none

/-! ## Modules and attributes -/

def importModule (name : String) : Attempt Simulation (Option Ref) := do
  match (← get).modules.find? name with
  | some found => lend found
  | none => failWith "ModuleNotFoundError" s!"No module named '{name}'" none

/-- Registers a new module, whose reference the registry owns, instead of one of the same name. -/
def registerModule (name : String) (entries : List (String × Ref)) :
    Attempt Simulation Ref := do
  let ref ← allocate (.moduleOf name (.ofList entries))
  let s ← get
  set { s with modules := s.modules.insert name ref }
  releaseOld (s.modules.find? name)
  return ref

def attr (ref : Ref) (name : String) : Attempt Simulation (Option Ref) := do
  return (← access ref).attrs?.bind (·.find? name)

def classAttr (object : Object) (name : String) : Attempt Simulation (Option Ref) :=
  match object.class? with
  | some cls => attr cls name
  | none => return none

/-- Reads an attribute: of the object itself, or of its class, whose functions are bound to the
object. -/
def getAttr (ref : Ref) (name : String) : Attempt Simulation (Option Ref) := do
  let object ← access ref
  match object.attrs?.bind (·.find? name) with
  | some own => lend own
  | none =>
    match ← classAttr object name with
    | some found =>
      match ← access found with
      | .function _ _ =>
        retain ref
        retain found
        return some (← allocate (.boundMethod ref found))
      | _ => lend found
    | none =>
      let type ← displayType ref
      failWith "AttributeError" s!"'{type}' object has no attribute '{name}'" none

def setAttr (ref : Ref) (name : String) (value : Ref) : Attempt Simulation Bool := do
  match (← access ref).attrs? with
  | none =>
    let type ← displayType ref
    failWith "AttributeError" s!"'{type}' object attribute '{name}' is read-only" false
  | some _ =>
    retain value
    let object ← access ref
    let attrs := object.attrs?.getD .empty
    store ref (object.withAttrs (attrs.insert name value))
    releaseOld (attrs.find? name)
    return true

/-! ## Items -/

/-- The position that an index names among a number of items; a negative one counts from the
end. -/
def resolveIndex (index : Int) (count : Nat) : Option Nat :=
  let position := if index < 0 then index + count else index
  if 0 ≤ position ∧ position < count then some position.toNat else none

def getItem (ref key : Ref) : Attempt Simulation (Option Ref) := do
  let type ← displayType ref
  let key ← access key
  match ← access ref with
  | .tuple items | .list items =>
    match key.int? with
    | some index =>
      match (resolveIndex index items.length).bind (items[·]?) with
      | some item => lend item
      | none => failWith "IndexError" s!"{type} index out of range" none
    | none => failWith "TypeError" s!"{type} indices must be integers" none
  | .bag attrs =>
    match key.text?.bind attrs.find? with
    | some found => lend found
    | none => failWith "KeyError" (key.text?.getD "") none
  | _ => failWith "TypeError" s!"'{type}' object is not subscriptable" none

/-- Puts an owned reference in an item's place, or gives it back and fails. -/
def setItem (ref key value : Ref) : Attempt Simulation Bool := do
  let type ← displayType ref
  let key ← access key
  retain value
  let refuse := fun (kind message : String) => do
    release value
    failWith kind message false
  match ← access ref with
  | .list items =>
    match key.int?.bind (resolveIndex · items.length) with
    | some position =>
      store ref (.list (items.set position value))
      releaseOld items[position]?
      return true
    | none => refuse "IndexError" "list assignment index out of range"
  | .bag attrs =>
    match key.text? with
    | some name =>
      store ref (.bag (attrs.insert name value))
      releaseOld (attrs.find? name)
      return true
    | none => refuse "TypeError" "attribute-bag keys must be str"
  | _ => refuse "TypeError" s!"'{type}' object does not support item assignment"

/-! ## Calls -/

/-- Runs the body of a function, which counts as one more call of it. -/
def callFunction (runScript : Script → Attempt Simulation (Option Ref)) (function : Ref)
    (body : Nat → List Ref → Script) (arguments : List Ref) : Attempt Simulation (Option Ref) := do
  modify fun s => { s with called := function :: s.called }
  runScript (body ((← get).called.count function) arguments)

/-- The function that a class calls on its new instances, with its body. -/
def initialiserOf (attrs : Table Ref) :
    Attempt Simulation (Option (Ref × (Nat → List Ref → Script))) := do
  match attrs.find? "__init__" with
  | some ref =>
    match ← access ref with
    | .function _ body => return some (ref, body)
    | _ => return none
  | none => return none

/-- Builds an instance of a class, which its initialiser, if it has one, is called on first. -/
def instantiate (runScript : Script → Attempt Simulation (Option Ref)) (cls : Ref) (name : String)
    (attrs : Table Ref) (arguments : List Ref) : Attempt Simulation (Option Ref) := do
  let initialiser ← initialiserOf attrs
  retain cls
  let object ← allocate (.instanceOf cls .empty)
  match initialiser with
  | some (ref, body) =>
    match ← callFunction runScript ref body (object :: arguments) with
    | some result =>
      release result
      return some object
    | none =>
      release object
      return none
  | none =>
    if arguments.isEmpty then return some object
    else
      release object
      failWith "TypeError" s!"{name}() takes no arguments" none

/-- Calls a function, a bound method or a class with the items of a sequence. -/
def call (runScript : Script → Attempt Simulation (Option Ref)) (callable arguments : Ref) :
    Attempt Simulation (Option Ref) := do
  let notCallable := do
    let type ← displayType callable
    failWith "TypeError" s!"'{type}' object is not callable" none
  match (← access arguments).items? with
  | none => failWith "TypeError" "argument list must be a tuple" none
  | some arguments =>
    match ← access callable with
    | .function _ body => callFunction runScript callable body arguments
    | .boundMethod receiver function =>
      match ← access function with
      | .function _ body => callFunction runScript function body (receiver :: arguments)
      | _ => notCallable
    | .classOf name attrs => instantiate runScript callable name attrs arguments
    | _ => notCallable

/-! ## Requests and operations -/

def requireRunning (operation : String) : Attempt Simulation Unit := do
  match (← get).phase with
  | .running => return ()
  | .fresh => throw (.notStarted operation)
  | .stopped => throw (.stopped operation)

def serve (runScript : Script → Attempt Simulation (Option Ref)) :
    (r : Request) → Attempt Simulation r.Answer
  | .kindOf ref => do return (← access ref).kind
  | .numericKind ref => do return (← access ref).numericKind?
  | .typeName ref => do return some (← typeName ref)
  | .memberNames ref => do return some (← memberNames ref)
  | .isCallable ref => do return (← access ref).isCallable
  | .supportsIndexing ref => do return (← access ref).supportsIndexing
  | .intValue ref => intValue ref
  | .floatValue ref => floatValue ref
  | .boolValue ref => do return (← access ref).truth
  | .stringBytes ref => stringBytes ref
  | .sequenceLength ref => sequenceLength ref
  | .sequenceItem ref index => sequenceItem ref index
  | .null => do
    retain nullRef
    return nullRef
  | .newScalar value => do return some (← allocate (.ofScalar value))
  | .newString text => do return some (← allocate (.text text))
  | .newTuple items => do
    items.forM retain
    return some (← allocate (.tuple items))
  | .importModule name => importModule name
  | .getAttr ref name => getAttr ref name
  | .setAttr ref name value => setAttr ref name value
  | .call callable arguments => call runScript callable arguments
  | .getItem ref key => getItem ref key
  | .setItem ref key value => setItem ref key value
  | .retain ref => retain ref
  | .release ref => release ref
  | .errorPending => do return (← get).pending.isSome
  | .takeError => do
    let s ← get
    set { s with pending := none }
    return s.pending

def answer (runScript : Script → Attempt Simulation (Option Ref)) (r : Request) :
    Attempt Simulation r.Answer := do
  requireRunning r.method
  serve runScript r

def designated (designation : Designation) : Attempt Simulation (Option Ref) := do
  match designation with
  | .number id => return some ⟨id⟩
  | .name text => return (← get).names.find? text

def perform (runScript : Script → Attempt Simulation (Option Ref)) :
    (op : Op) → Attempt Simulation op.Answer
  | .request r => answer runScript r
  | .newInt value => allocate (.int value none)
  | .newFloat x => allocate (.float x none)
  | .newBool b => allocate (.bool b)
  | .newBytes bytes => allocate (.bytes bytes)
  | .newText text => allocate (.text text)
  | .newUnits units => allocate (.units units)
  | .newTuple items => allocate (.tuple items)
  | .newList items => allocate (.list items)
  | .newBag entries => allocate (.bag (.ofList entries))
  | .newClass name entries => allocate (.classOf name (.ofList entries))
  | .registerModule name entries => registerModule name entries
  | .raise diagnostic => raise diagnostic.kind diagnostic.message
  | .retain ref => retain ref
  | .release ref => release ref
  | .kind ref => do return (← access ref).kind
  | .attr ref name => attr ref name
  | .items ref => do return (← access ref).items?
  | .intOf ref => do return (← access ref).int?
  | .floatOf ref => do return (← access ref).float?
  | .boolOf ref => do return (← access ref).bool?
  | .textOf ref => do return (← access ref).text?
  | .scalarKind ref => do return (← access ref).scalarKind?
  | .designated designation => designated designation

def runWith (perform : (op : Op) → Attempt Simulation op.Answer) :
    Script → Attempt Simulation (Option Ref)
  | .done result => return result
  | .perform op next => do runWith perform (next (← perform op))
  | .newFunction name body next => do runWith perform (next (← allocate (.function name body)))

/-- Runs a script, in which calls may be nested up to a depth. -/
def run : Nat → Script → Attempt Simulation (Option Ref)
  | 0 => fun _ => throw .calledTooDeep
  | depth + 1 => runWith (perform (run depth))

def callDepth : Nat := 10000

/-! ## Life -/

/-- Starts the runtime, unless it refuses, and adds to its search paths. -/
def start (paths : List String) : Attempt Simulation Bool := do
  let s ← get
  if s.phase = .stopped then throw (.stopped "initialize")
  else
    let s := { s with startCount := s.startCount + 1 }
    if s.refusesStart then
      set s
      return false
    else
      set { s with phase := .running, searchPaths := s.searchPaths ++ paths }
      return true

def stop : Attempt Simulation Unit := do
  requireRunning "finalize"
  modify fun s => { s with phase := .stopped }

end Simulation
end ForeignBridge
