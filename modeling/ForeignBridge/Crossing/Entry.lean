import ForeignBridge.Crossing.Chain

/-!
# Entry points

What the host can ask of a bridge whose runtime is started.  An object to work on is given by a
handle of this bridge or by a dotted name, which names a module as far as one can be imported, the
longest first, and attributes from there on.
-/

namespace ForeignBridge

inductive Receiver where
  | handle (h : Handle)
  | name (path : String)

inductive Entry where
  | importModule (name : String)
  | construct (module : Handle) (className : String) (arguments : List Value)
  | invoke (on : Receiver) (method : String) (arguments : List Value)
  | getField (on : Receiver) (field : String)
  | setField (on : Receiver) (field : String) (value : Value)
  | read (root : Handle) (chain : List Accessor)
  | assign (root : Handle) (chain : List Accessor) (value : Value)
  | members (h : Handle)

inductive Reply where
  | value (v : Value)
  | names (names : List String)
  | nothing

namespace Context

variable {α : Type} (ctx : Context)

/-! ## Receivers -/

def segments (path : String) : List String := (path.toList.splitOn '.').map String.ofList

/-- Imports the longest prefix of at most `count + 1` segments that can be imported, and returns
it with the segments that are left.  Only a failure of the first segment alone is reported. -/
def importLongest (segments : List String) : Nat → Crossing (Ref × List String)
  | 0 => do
    let module ← ctx.importModule (segments.head?.getD "")
    return (module, segments.drop 1)
  | count + 1 => do
    match ← tryImport (".".intercalate (segments.take (count + 2))) with
    | some module => return (module, segments.drop (count + 2))
    | none => importLongest segments count

def resolveName (path : String) : Crossing Ref := do
  let segments := segments path
  if segments.any String.isEmpty then throw (.unsupported (.qualifiedName path))
  else
    let (module, rest) ← ctx.importLongest segments (segments.length - 1)
    ctx.walk module (rest.map Accessor.field)

def requireOwn (h : Handle) : Crossing Unit :=
  if h.context = ctx.id then return () else refuse .otherRuntime

def resolve : Receiver → Crossing Ref
  | .handle h => do
    ctx.requireOwn h
    acquire h
  | .name path => ctx.resolveName path

/-! ## Members -/

/-- The public names among the members of an object, sorted and without duplicates. -/
def publicNames (names : List String) : List String :=
  ((names.filter fun name => name.toList.head? != some '_').mergeSort fun a b => a ≤ b).eraseReps

def memberNames (h : Handle) : Crossing (List String) := do
  let answer ← Crossing.ask (.memberNames h.ref)
  return publicNames (← ctx.checkValue .members answer)

/-! ## Requests of the host -/

def serve : Entry → Crossing Reply
  | .importModule name => do
    return .value (.foreign (← ctx.wrap (← ctx.importModule name)))
  | .construct module className arguments => do
    let module ← ctx.resolve (.handle module)
    Crossing.owning module do
      let constructor ← ctx.getAttr module className
      Crossing.owning constructor do
        let object ← ctx.callWith constructor arguments
        return .value (.foreign (← ctx.wrap object))
  | .invoke on method arguments => do
    let target ← ctx.resolve on
    Crossing.owning target do
      let callable ← ctx.getAttr target method
      Crossing.owning callable do
        return .value (← ctx.toHost (← ctx.callWith callable arguments))
  | .getField on field => do
    let target ← ctx.resolve on
    Crossing.owning target do
      return .value (← ctx.toHost (← ctx.getAttr target field))
  | .setField on field value => do
    let target ← ctx.resolve on
    Crossing.owning target do
      let ref ← ctx.toForeign value
      Crossing.owning ref (ctx.setAttr target field ref)
      return .nothing
  | .read root chain => do
    ctx.requireOwn root
    return .value (← ctx.readChain root chain)
  | .assign root chain value => do
    ctx.requireOwn root
    return .value (.foreign (← ctx.assignChain root chain value))
  | .members h => do
    ctx.requireOwn h
    return .names (← ctx.memberNames h)

end Context
end ForeignBridge
