import ForeignBridge.Interpreter.Answer
import ForeignBridge.Session.Step

/-!
# Operations past the bridges

What a step does to a runtime itself.  Objects are pointed out by the names that earlier operations
gave them, in a simulated runtime also by their numbers.
-/

namespace ForeignBridge
namespace Session

/-! ## Requests -/

def RequestForm.request {m : Type → Type} [Monad m] (locate : Simulation.Designation → m Ref) :
    RequestForm → m Request
  | .kindOf object => return .kindOf (← locate object)
  | .numericKind object => return .numericKind (← locate object)
  | .typeName object => return .typeName (← locate object)
  | .memberNames object => return .memberNames (← locate object)
  | .isCallable object => return .isCallable (← locate object)
  | .supportsIndexing object => return .supportsIndexing (← locate object)
  | .intValue object => return .intValue (← locate object)
  | .floatValue object => return .floatValue (← locate object)
  | .boolValue object => return .boolValue (← locate object)
  | .stringBytes object => return .stringBytes (← locate object)
  | .sequenceLength object => return .sequenceLength (← locate object)
  | .sequenceItem object index => return .sequenceItem (← locate object) index
  | .null => return .null
  | .newScalar value => return .newScalar value
  | .newString text => return .newString text
  | .newTuple items => return .newTuple (← items.mapM locate)
  | .importModule name => return .importModule name
  | .getAttr object name => return .getAttr (← locate object) name
  | .setAttr object name value => return .setAttr (← locate object) name (← locate value)
  | .call callable arguments => return .call (← locate callable) (← locate arguments)
  | .getItem object key => return .getItem (← locate object) (← locate key)
  | .setItem object key value =>
    return .setItem (← locate object) (← locate key) (← locate value)
  | .retain object => return .retain (← locate object)
  | .release object => return .release (← locate object)
  | .errorPending => return .errorPending
  | .takeError => return .takeError

def answerOf : (r : Request) → r.Answer → Answer
  | .kindOf _, kind => .kind kind
  | .numericKind _, kind => .numericKind kind
  | .typeName _, name => .optionalText name
  | .memberNames _, names => .optionalNames names
  | .isCallable _, b | .supportsIndexing _, b | .boolValue _, b | .setAttr _ _ _, b
  | .setItem _ _ _, b | .errorPending, b => .flag b
  | .intValue _, value => .int value
  | .floatValue _, x => .float x
  | .stringBytes _, octets => .bytes octets
  | .sequenceLength _, n => .optionalCount n
  | .null, ref => .object (some ref)
  | .sequenceItem _ _, ref | .newScalar _, ref | .newString _, ref | .newTuple _, ref
  | .importModule _, ref | .getAttr _ _, ref | .call _ _, ref | .getItem _ _, ref => .object ref
  | .retain _, _ | .release _, _ => .nothing
  | .takeError, diagnostic => .diagnostic diagnostic

/-- The names after an operation, whose answer gets one if it is a reference. -/
def Answer.named (into : Option String) (names : Table Ref) : Answer → Table Ref
  | .object (some ref) => (into.map fun name => names.insert name ref).getD names
  | _ => names

end Session

/-! ## Simulated runtimes -/

namespace Simulation

open Session

/-- The object that a designation points out; a name that was not given points at nothing. -/
def locate (designation : Designation) : Attempt Simulation Ref := do
  return (← designated designation).getD ⟨0⟩

/-- A look at an object, given how its items are looked at. -/
def dumpWith (dumpItems : List Ref → Attempt Simulation (Option (List Dump))) (ref : Ref) :
    Attempt Simulation Dump := do
  let object ← access ref
  let items ← match object.items? with
    | some items => dumpItems items
    | none => pure none
  return .object object.kind ((← get).heap.owners ref) object.int? object.float? object.bool?
    object.text? object.scalarKind? items

def dump : Nat → Ref → Attempt Simulation Dump
  | 0 => dumpWith fun _ => return none
  | depth + 1 => dumpWith fun items => some <$> items.mapM (dump depth)

def performStep : DirectStep → Attempt Simulation Session.Answer
  | .ask form => do
    let r ← form.request locate
    return answerOf r (← answer (run callDepth) r)
  | .name => return .text "sim"
  | .build form => do return .object (← run callDepth form.script)
  | .registerModule name entries => do
    return .object (← run callDepth (moduleScript name entries))
  | .attr object name => do return .object (← attr (← locate object) name)
  | .start paths => do return .flag (← start paths)
  | .stop => do
    stop
    return .nothing
  | .retain object => do
    retain (← locate object)
    return .nothing
  | .release object => do
    release (← locate object)
    return .nothing
  | .raise diagnostic => do
    raise diagnostic.kind diagnostic.message
    return .nothing
  | .isRunning => do return .flag ((← get).phase = .running)
  | .isStopped => do return .flag ((← get).phase = .stopped)
  | .startCount => do return .count (← get).startCount
  | .searchPaths => do return .names (← get).searchPaths
  | .refuseStart refuses => do
    modify fun s => { s with refusesStart := refuses }
    return .nothing
  | .liveCount => do return .count (← get).heap.liveCount
  | .owners object => do return .count ((← get).heap.owners (← locate object))
  | .isLive object => do return .flag ((← get).heap.isLive (← locate object))
  | .kind object => do return .kind (← access (← locate object)).kind
  | .dump object depth => do return .dump (← dump depth (← locate object))

/-- Performs an operation, whose answer may be given a name. -/
def direct (into : Option String) (step : DirectStep) : Attempt Simulation Session.Answer := do
  let answer ← performStep step
  modify fun s => { s with names := answer.named into s.names }
  return answer

end Simulation

/-! ## The interpreter -/

namespace Interpreter

open Session

def locate : Simulation.Designation → ExceptT Failure (StateM Interpreter) Ref
  | .name text => do
    match (← get).names.find? text with
    | some ref => return ref
    | none => throw (.malformed s!"no object {text}")
  | .number _ => throw (.malformed "objects of the interpreter have no numbers")

/-- The names after a request.  The one through which an object is released is forgotten. -/
def namesAfter : RequestForm → Table Ref → Table Ref
  | .release (.name text), names => names.erase text
  | _, names => names

/-- Of a reference only whether there is one can be told. -/
def concealed : Session.Answer → Session.Answer
  | .object ref => .flag ref.isSome
  | answer => answer

def direct (into : Option String) :
    DirectStep → ExceptT Failure (StateM Interpreter) Session.Answer
  | .ask form => do
    let r ← form.request locate
    let answer := answerOf r (← Interpreter.answer r)
    modify fun s => { s with names := answer.named into (namesAfter form s.names) }
    return concealed answer
  | .name => return .text "python"
  | _ => throw (.malformed "not an operation of the interpreter")

end Interpreter

/-! ## Runtimes in a world -/

namespace Session
namespace World

def direct (index : Nat) (into : Option String) (step : DirectStep) : Act Answer :=
  ExceptT.mk fun w =>
  match w.runtimes[index]? with
  | some (.simulated rig) =>
    let (outcome, rig) := (Rig.inSimulation (Simulation.direct into step)).outcome rig
    (outcome.mapError .panic,
      { w with runtimes := w.runtimes.setIfInBounds index (.simulated rig) })
  | some (.interpreted interpreter) =>
    let (outcome, interpreter) := (Interpreter.direct into step).run.run interpreter
    (outcome, { w with runtimes := w.runtimes.setIfInBounds index (.interpreted interpreter) })
  | none => (.error (.malformed "no such runtime"), w)

end World
end Session
end ForeignBridge
