import ForeignBridge.Heap.Release
import ForeignBridge.Interpreter.Source

/-!
# State of the interpreter

The interpreter owns one object each of the small plain values, which it hands out instead of new
ones.  Whatever fails raises an error; the references that were held on the way are given back
before it goes on its way up.
-/

namespace ForeignBridge

structure Interpreter where
  heap : Heap Interpreter.Object
  modules : Table Ref
  /-- The directories in which modules are looked for, if their paths are searched. -/
  directories : List Interpreter.Directory
  pending : Option Diagnostic
  names : Table Ref

namespace Interpreter

/-! ## Unique objects -/

/-- The contents of the objects that exist once only, in the order of their numbers. -/
def uniqueContents : List Content :=
  [.null, .bool false, .bool true]
    ++ (List.range 262).map (fun n => .int (n - 5))
    ++ [.tuple [], .text [], .bytes []]
    ++ (List.range 256).map (fun n => .text [n])
    ++ (List.range 256).map (fun n => .bytes [UInt8.ofNat n])
    ++ Builtin.all.map .builtinType

def uniqueRef? : Content → Option Ref
  | .null => some ⟨1⟩
  | .bool b => some ⟨if b then 3 else 2⟩
  | .int value => if -5 ≤ value ∧ value ≤ 256 then some ⟨(value + 9).toNat⟩ else none
  | .tuple [] => some ⟨266⟩
  | .text [] => some ⟨267⟩
  | .bytes [] => some ⟨268⟩
  | .text [code] => if code < 256 then some ⟨269 + code⟩ else none
  | .bytes [octet] => some ⟨525 + octet.toNat⟩
  | .builtinType which => some ⟨781 + Builtin.all.idxOf which⟩
  | _ => none

def nullRef : Ref := ⟨1⟩

/-- An interpreter that has only the unique objects. -/
def bare (directories : List Directory) : Interpreter where
  heap := ⟨(none :: uniqueContents.map fun content =>
    some ⟨1, ⟨content, none, none⟩, Nat.one_pos⟩).toArray⟩
  modules := .empty
  directories := directories
  pending := none
  names := .empty

/-! ## Objects -/

def object (ref : Ref) : StateM Interpreter Object := do return ((← get).heap.get? ref).getD default

def content (ref : Ref) : StateM Interpreter Content := do return (← object ref).content

def allocate (object : Object) : StateM Interpreter Ref := do
  let s ← get
  let (ref, heap) := s.heap.allocate object
  set { s with heap }
  return ref

def setObject (ref : Ref) (object : Object) : StateM Interpreter Unit :=
  modify fun s => { s with heap := s.heap.setContent ref object }

def retain (ref : Ref) : StateM Interpreter Ref := do
  let s ← get
  set { s with heap := (s.heap.retain? ref).getD s.heap }
  return ref

def retainAll (refs : List Ref) : StateM Interpreter Unit :=
  refs.forM fun ref => discard (retain ref)

/-- A reference to an object of a plain content: the unique one or a new one. -/
def make (content : Content) : StateM Interpreter Ref :=
  match uniqueRef? content with
  | some ref => retain ref
  | none => allocate ⟨content, none, none⟩

def classInfo? (heap : Heap Object) (object : Object) : Option Class := do
  match (← heap.get? (← object.cls)).content with
  | .classOf info => some info
  | _ => none

/-- Subtracts one from a variable of a module, if that is a number. -/
def countDown (module : Ref) (name : String) : StateM Interpreter Unit := do
  let object ← object module
  match object.attrs with
  | none => return ()
  | some attrs =>
    match attrs.find? name with
    | none => return ()
    | some count =>
      let less ← match ← content count with
        | .int value => pure (some (.int (value - 1)))
        | .bool b => pure (some (.int (if b then 0 else -1)))
        | .float x => pure (some (.float (x.add (Binary.ofInt (-1)))))
        | _ => pure none
      match less with
      | none => return ()
      | some less =>
        let ref ← make less
        setObject module { object with attrs := some (attrs.insert name ref) }
        modify fun s => { s with heap := (s.heap.release count).heap }

/-- Gives a reference back.  The tallies of the classes whose instances die go down. -/
def release (ref : Ref) : StateM Interpreter Unit := do
  let s ← get
  let released := s.heap.release ref
  set { s with heap := released.heap }
  released.freed.forM fun object =>
    match (classInfo? s.heap object).bind Class.tally with
    | some (module, name) => countDown module name
    | none => return ()

def releaseAll (refs : List Ref) : StateM Interpreter Unit := refs.forM release

def typeName (ref : Ref) : StateM Interpreter String := do
  let s ← get
  let object := (s.heap.get? ref).getD default
  return ((classInfo? s.heap object).map Class.name).getD object.content.builtin.name

/-! ## Errors -/

/-- A computation that may raise an error. -/
abbrev Act (α : Type) := ExceptT Diagnostic (StateM Interpreter) α

variable {α : Type}

def raise (kind message : String) : Act α := throw ⟨kind, message⟩

def owning (refs : List Ref) (act : Act α) : Act α := ExceptT.mk do
  let outcome ← act.run
  releaseAll refs
  return outcome

def keeping (refs : List Ref) (act : Act α) : Act α := ExceptT.mk do
  match ← act.run with
  | .ok result => return .ok result
  | .error error =>
    releaseAll refs
    return .error error

/-- The answer of a computation, or a sentinel if it raises an error, which stays behind. -/
def settle (sentinel : α) (act : Act α) : StateM Interpreter α := do
  match ← act.run with
  | .ok result => return result
  | .error error =>
    modify fun s => { s with pending := some error }
    return sentinel

/-- Makes objects one after another; after a failure those made before are given back. -/
def makeEach {β : Type} (build : β → Act Ref) : List β → Act (List Ref)
  | [] => return []
  | item :: items => do
    let ref ← build item
    let refs ← keeping [ref] (makeEach build items)
    return ref :: refs

end Interpreter
end ForeignBridge
