import ForeignBridge.Crossing.Report
import ForeignBridge.Host.Value

/-!
# From the host to the runtime

Every host value except an array of three or more proper dimensions and a handle of another bridge
has a foreign counterpart: the null object, a number of its own kind, a string, a tuple of the
counterparts of its elements or rows, or the object that a handle names.  The counterpart is always
a new reference.  Nothing is kept if any part of a value has none.
-/

namespace ForeignBridge
namespace Context

variable (ctx : Context)

/-- A number of exactly the scalar's kind. -/
def scalarToForeign (s : Scalar) : Crossing Ref := do
  Crossing.note (.unpackingScalar s.kind)
  ctx.checkRef .unpackScalar (← Crossing.ask (.newScalar s))

def textToForeign (text : String) : Crossing Ref := do
  ctx.checkRef .unpackString (← Crossing.ask (.newString text))

/-- A tuple of owned references, which are given back: the tuple holds references of its own. -/
def buildTuple (items : List Ref) : Crossing Ref :=
  Crossing.owningAll items do
    ctx.checkRef .buildSequence (← Crossing.ask (.newTuple items))

def matrixToForeign (m : Matrix) : Crossing Ref :=
  match m.rows? with
  | none => refuse (.dimensions m.dims.length)
  | some rows => do
    let row := fun (leaves : List Scalar) => do
      ctx.buildTuple (← Crossing.acquireEach ctx.scalarToForeign leaves)
    ctx.buildTuple (← Crossing.acquireEach row rows)

def handleToForeign (h : Handle) : Crossing Ref := do
  if h.context = ctx.id then
    Crossing.ask (.retain h.ref)
    return h.ref
  else refuse .otherRuntime

/-- The texts of a non-empty list of strings. -/
def allTexts? (items : List Value) : Option (List String) :=
  match items with
  | [] => none
  | _ => items.mapM Value.text?

mutual

def toForeign : Value → Crossing Ref
  | .undefined => Crossing.ask .null
  | .scalar s => ctx.scalarToForeign s
  | .text s => ctx.textToForeign s
  | .cell items =>
    match allTexts? items with
    | some texts => do ctx.buildTuple (← Crossing.acquireEach ctx.textToForeign texts)
    | none => do ctx.buildTuple (← toForeignEach items)
  | .matrix m => ctx.matrixToForeign m
  | .foreign h => ctx.handleToForeign h

/-- The counterparts of several values, or none at all. -/
def toForeignEach : List Value → Crossing (List Ref)
  | [] => return []
  | value :: values => do
    let ref ← toForeign value
    let refs ← Crossing.keeping [ref] (toForeignEach values)
    return ref :: refs

end

def tupleToForeign (values : List Value) : Crossing Ref := do
  ctx.buildTuple (← ctx.toForeignEach values)

end Context
end ForeignBridge
