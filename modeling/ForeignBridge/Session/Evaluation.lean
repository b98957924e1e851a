import ForeignBridge.Session.Step
import ForeignBridge.Text.Quoted

/-!
# Evaluation of written steps

The values and requests that are written in a step, in which variables stand for copies of their
values, and the answers that give a value to the session.
-/

namespace ForeignBridge
namespace Session

namespace World

variable {α : Type}

/-! ## Evaluation -/

def ofForm {α : Type} (outcome : Except FormFault α) : Act α :=
  match outcome with
  | .ok result => return result
  | .error (.numeric fault) => throw (.numeric fault)
  | .error (.conversion fault) => throw (.bridge (.typeConversion fault))

mutual

/-- The value of a form, whose handles are copies. -/
def evaluate : ValueForm → Act Value
  | .undefined => return .undefined
  | .scalar form => do return .scalar (← ofForm (form.evaluate.mapError .numeric))
  | .text s => return .text s
  | .cell items => do return .cell (← evaluateAll items)
  | .matrix form => do return .matrix (← ofForm form.evaluate)
  | .variable name => do
    let value ← valueOf name
    cloneHandles value.handles
    return value
  | .repeated count form => do
    let value ← evaluate form
    let copies := List.replicate count value
    match count with
    | 0 => dropValue value
    | count + 1 =>
      guarding value.handles (cloneHandles (List.replicate count value.handles).flatten)
    return .cell copies
  | .nested depth form => do return (← evaluate form).nest depth

/-- The values of several forms; if one has none, the copies made for those before it are
dropped. -/
def evaluateAll : List ValueForm → Act (List Value)
  | [] => return []
  | form :: forms => do
    let value ← evaluate form
    let values ← guarding value.handles (evaluateAll forms)
    return value :: values

end

def chainHandles (chain : List Accessor) : List Handle :=
  chain.flatMap fun
    | .field _ => []
    | .call arguments | .index arguments => Value.handlesAll arguments

def evaluateAccessor : AccessorForm → Act Accessor
  | .field name => return .field name
  | .call arguments => do return .call (← evaluateAll arguments)
  | .index arguments => do return .index (← evaluateAll arguments)

def evaluateChain : List AccessorForm → Act (List Accessor)
  | [] => return []
  | form :: forms => do
    let link ← evaluateAccessor form
    let links ← guarding (chainHandles [link]) (evaluateChain forms)
    return link :: links

def evaluateReceiver : ReceiverForm → Act Receiver
  | .variable name => do return .handle (← handleOf name)
  | .path path => return .name path

/-- A request to a bridge, and the handles that were copied to make it. -/
def evaluateEntry : EntryForm → Act (Entry × List Handle)
  | .importModule name => return (.importModule name, [])
  | .construct module className arguments => do
    let module ← handleOf module
    let arguments ← evaluateAll arguments
    return (.construct module className arguments, Value.handlesAll arguments)
  | .invoke on method arguments => do
    let on ← evaluateReceiver on
    let arguments ← evaluateAll arguments
    return (.invoke on method arguments, Value.handlesAll arguments)
  | .getField on field => do return (.getField (← evaluateReceiver on) field, [])
  | .setField on field value => do
    let on ← evaluateReceiver on
    let value ← evaluate value
    return (.setField on field value, value.handles)
  | .read root chain => do
    let root ← handleOf root
    let chain ← evaluateChain chain
    return (.read root chain, chainHandles chain)
  | .assign root chain value => do
    let root ← handleOf root
    let chain ← evaluateChain chain
    let value ← guarding (chainHandles chain) (evaluate value)
    return (.assign root chain value, chainHandles chain ++ value.handles)
  | .members handle => do return (.members (← handleOf handle), [])

/-- Evaluates a form for a computation, and drops the value afterwards. -/
def withValue (form : ValueForm) (act : Value → Act α) : Act α := do
  let value ← evaluate form
  consuming value.handles (act value)

/-! ## Answers with values -/

def runtimeOf (w : World) (h : Handle) : Option Nat :=
  ((w.bridges[h.context]?).bind Bridge.connection).map Connection.runtime

/-- The names of the variables that hold a handle of the same object of the same runtime. -/
def sameHandles (w : World) (h : Handle) : List String :=
  w.bindings.entries.filterMap fun (name, value) =>
    match value with
    | .foreign other =>
      if other.sameObject h && w.runtimeOf other == w.runtimeOf h then some name else none
    | _ => none

/-- Answers with a new value, which goes into a variable or is dropped. -/
def answerValue (value : Value) (into : Option String) : Act Answer := do
  match into with
  | some name => assign name value
  | none => pure ()
  let w ← get
  match into with
  | some _ => pure ()
  | none => dropValue value
  return .value value w.sameHandles

def refText (w : World) (h : Handle) : String :=
  match (w.runtimeOf h).bind (w.runtimes[·]?) with
  | some runtime => runtime.refText h.ref
  | none => h.ref.text

def debugText (w : World) (h : Handle) : String :=
  "ForeignHandle \x7b class_name: " ++ Quoted.quote h.className ++ ", reference: ForeignRef("
    ++ w.refText h ++ ") \x7d"

end World
end Session
end ForeignBridge
