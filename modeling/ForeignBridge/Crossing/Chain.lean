import ForeignBridge.Crossing.ToForeign
import ForeignBridge.Crossing.ToHost

/-!
# Access chains

The host reads and writes inside foreign objects by chains such as `a.b(1).c`.  Results on the way
stay foreign references; only the end of a read is converted.  A call on an object that cannot be
called looks up an item instead, and items are counted from one.
-/

namespace ForeignBridge

inductive Accessor where
  /-- `.name` -/
  | field (name : String)
  /-- `(arguments)`: a call, or a lookup in an object that cannot be called. -/
  | call (arguments : List Value)
  /-- `\x7barguments\x7d`: a lookup. -/
  | index (arguments : List Value)

namespace Context

variable {α : Type} (ctx : Context)

/-! ## Single requests -/

def importModule (name : String) : Crossing Ref := do
  Crossing.note (.importing name)
  ctx.checkRef .importModule (← Crossing.ask (.importModule name))

/-- Imports a module if it can be imported; a failure is cleared and not reported. -/
def tryImport (name : String) : Crossing (Option Ref) := do
  let found ← Crossing.ask (.importModule name)
  match ← clearError with
  | some diagnostic =>
    Crossing.releaseAll found.toList
    Crossing.note (.notImportable name diagnostic)
    return none
  | none => return found

def getAttr (target : Ref) (name : String) : Crossing Ref := do
  Crossing.note (.gettingAttr target name)
  ctx.checkRef .getField (← Crossing.ask (.getAttr target name))

def setAttr (target : Ref) (name : String) (value : Ref) : Crossing Unit := do
  Crossing.note (.settingAttr target name)
  ctx.checkStatus .setField (← Crossing.ask (.setAttr target name value))

def callWith (target : Ref) (arguments : List Value) : Crossing Ref := do
  let tuple ← ctx.tupleToForeign arguments
  Crossing.owning tuple do
    Crossing.note (.calling target arguments.length)
    ctx.checkRef .call (← Crossing.ask (.call target tuple))

/-! ## Positions -/

/-- The integer that a scalar is, if a signed word of 64 bits holds it.  A float counts if it has
no fraction; one below that range counts as its least value, which is no position either. -/
def wordOf (s : Scalar) : Option Int :=
  match s with
  | .bool _ => none
  | .int i => if NumericKind.int64.Holds i.value then some i.value else none
  | .real x =>
    match x.toDouble.integer? with
    | some n => if n < 0x8000000000000000 then some (max n (-0x8000000000000000)) else none
    | none => none

/-- The position, counted from zero, that the arguments of a lookup name, counting from one. -/
def positionOf (arguments : List Value) : Except Unsupported Int :=
  match arguments with
  | [position] =>
    match position.scalar?.bind wordOf with
    | some n => if 1 ≤ n then .ok (n - 1) else .error (.indexValue position.typeName)
    | none => .error (.indexValue position.typeName)
  | _ => .error (.indexCount arguments.length)

def keyToForeign (arguments : List Value) : Crossing Ref :=
  match positionOf arguments with
  | .ok position =>
    match HostInt.ofInt .int64 position with
    | .ok key => ctx.scalarToForeign (.int key)
    | .error fault => throw (.ofNumeric fault)
  | .error fault => throw (.unsupported fault)

def getItem (target : Ref) (arguments : List Value) : Crossing Ref := do
  let key ← ctx.keyToForeign arguments
  Crossing.owning key do
    Crossing.note (.gettingItem target)
    ctx.checkRef .index (← Crossing.ask (.getItem target key))

def setItem (target : Ref) (arguments : List Value) (value : Ref) : Crossing Unit := do
  let key ← ctx.keyToForeign arguments
  Crossing.owning key do
    Crossing.note (.settingItem target)
    ctx.checkStatus .assignIndex (← Crossing.ask (.setItem target key value))

def refuseKind (object : Ref) (fault : ForeignKind → Unsupported) : Crossing α := do
  throw (.unsupported (fault (← Crossing.ask (.kindOf object))))

/-! ## Chains -/

def step (target : Ref) : Accessor → Crossing Ref
  | .field name => ctx.getAttr target name
  | .call arguments => do
    if ← Crossing.ask (.isCallable target) then ctx.callWith target arguments
    else if ← Crossing.ask (.supportsIndexing target) then ctx.getItem target arguments
    else refuseKind target .notCallable
  | .index arguments => do
    if ← Crossing.ask (.supportsIndexing target) then ctx.getItem target arguments
    else refuseKind target .notIndexable

def walk (target : Ref) : List Accessor → Crossing Ref
  | [] => return target
  | link :: links => do
    let next ← Crossing.owning target (ctx.step target link)
    walk next links

def assign (target : Ref) (value : Value) : Accessor → Crossing Unit
  | .field name => do
    let ref ← ctx.toForeign value
    Crossing.owning ref (ctx.setAttr target name ref)
  | .call arguments | .index arguments => do
    if ← Crossing.ask (.supportsIndexing target) then
      let ref ← ctx.toForeign value
      Crossing.owning ref (ctx.setItem target arguments ref)
    else refuseKind target .notAssignable

def acquire (h : Handle) : Crossing Ref := do
  Crossing.ask (.retain h.ref)
  return h.ref

/-- Reads through a chain.  The empty chain reads the handle itself. -/
def readChain (root : Handle) (chain : List Accessor) : Crossing Value := do
  let target ← acquire root
  match chain with
  | [] => return .foreign root
  | _ => ctx.toHost (← ctx.walk target chain)

/-- Writes through a chain, which must have a last link, and returns the handle it began with. -/
def assignChain (root : Handle) (chain : List Accessor) (value : Value) : Crossing Handle :=
  match chain.getLast? with
  | none => throw (.unsupported .noIndex)
  | some last => do
    let target ← acquire root
    let target ← ctx.walk target chain.dropLast
    Crossing.owning target do
      ctx.assign target value last
      let _ ← acquire root
      return root

end Context
end ForeignBridge
