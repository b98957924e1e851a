import ForeignBridge.Crossing.Request
import ForeignBridge.Foreign.Panic
import ForeignBridge.Interpreter.Import
import ForeignBridge.Interpreter.Words

/-!
# Answers of the interpreter

How the interpreter serves the requests of a bridge.  The attributes of a dictionary are its items
under text keys.  A request that fails leaves an error pending and answers with a sentinel.
-/

namespace ForeignBridge
namespace Interpreter

/-! ## What an object is -/

/-- The name of an object's type, or its own name if it is a function. -/
def publicTypeName (ref : Ref) : StateM Interpreter String := do
  match ← content ref with
  | .function code _ _ _ => return code.name
  | .primitive p _ => return p.name
  | .method _ target =>
    match ← content target with
    | .function code _ _ _ => return code.name
    | _ => typeName ref
  | _ => typeName ref

def isCallable (ref : Ref) : StateM Interpreter Bool := do
  match ← content ref with
  | .function _ _ _ _ | .method _ _ | .primitive _ _ | .builtinType _ | .classOf _ => return true
  | _ => return (← classAttr ref "__call__").isSome

/-- Whether an object has items.  An error that is pending is forgotten over the search for those
of an object that has none. -/
def supportsIndexing (ref : Ref) : StateM Interpreter Bool := do
  let has ← hasAttr ref "__getitem__"
  if !has then modify fun s => { s with pending := none }
  return has

/-! ## Members -/

/-- The texts that are written as strings.  An error that is pending is forgotten over one that is
not. -/
def strings (texts : List CodePoints) : StateM Interpreter (List String) := do
  if texts.any (·.any CodePoints.isSurrogate) then modify fun s => { s with pending := none }
  return texts.filterMap CodePoints.toString?

def textKeys (refs : List Ref) : StateM Interpreter (List CodePoints) := do
  return (← refs.mapM content).filterMap fun
    | .text codes => some codes
    | _ => none

/-- The names of the members of an object: the text keys of a dictionary, what the listing of the
object's class says, or the names of its attributes. -/
def memberNames (ref : Ref) : Act (List String) := do
  match ← content ref with
  | .dict entries => strings (← textKeys (entries.map Prod.fst))
  | _ =>
    match ← classAttr ref "__dir__" with
    | some function =>
      let result ← callSpecial call ref function []
      let texts ← textKeys (((← content result).items?).getD [])
      release result
      strings (texts.mergeSort fun a b => !List.lex b a)
    | none => listing ref

/-! ## Values -/

def stringBytes (ref : Ref) : Act (List UInt8) := do
  match ← content ref with
  | .bytes octets => return octets
  | .text codes =>
    match codes.encode with
    | .ok octets => return octets
    | .error complaint => raise "UnicodeEncodeError" complaint
  | _ => raise "TypeError" "bad argument type for built-in operation"

/-! ## Sequences -/

/-- Whether an object is a dictionary of no written class, which has no sequence of items. -/
def isPlainDict (ref : Ref) : StateM Interpreter Bool := do
  let object ← object ref
  match object.content with
  | .dict _ => return object.cls.isNone
  | _ => return false

def sequenceLength (ref : Ref) : Act Nat := do
  if ← isPlainDict ref then raise "TypeError" "dict is not a sequence"
  else sizeOf ref

def sequenceItem (ref : Ref) (index : Nat) : Act Ref := do
  let viaKey : Act Ref := do
    let key ← make (.int index)
    owning [key] (getItem call ref key)
  if (← classAttr ref "__getitem__").isSome then viaKey
  else if ← isPlainDict ref then raise "TypeError" "dict is not a sequence"
  else
    match ← content ref with
    | .dict _ => viaKey
    | sequence =>
      if isSequence sequence then itemAt sequence index
      else raise "TypeError" s!"'{← typeName ref}' object does not support indexing"

/-! ## Names -/

/-- Refuses a name that ends before its length does. -/
def checkName (name : String) : Act Unit :=
  if name.toList.contains '\x00' then raise "ValueError" "embedded null character in name"
  else return ()

def findNamed (name : String) (entries : List (Ref × Ref)) : StateM Interpreter (Option Ref) := do
  let key ← make (.text (.ofString name))
  let found ← findEntry key entries
  release key
  return found

/-- A new reference to an attribute, which in a dictionary is an item. -/
def getMember (ref : Ref) (name : String) : Act Ref := do
  checkName name
  match ← content ref with
  | .dict entries =>
    match ← findNamed name entries with
    | some found => retain found
    | none => raise "AttributeError" s!"'{← typeName ref}' object has no attribute '{name}'"
  | _ => getAttr ref name

def setMember (ref : Ref) (name : String) (value : Ref) : Act Unit := do
  checkName name
  match ← content ref with
  | .dict _ =>
    let key ← make (.text (.ofString name))
    insertEntry ref key value
    release key
  | _ => setAttr ref name value

/-! ## Requests -/

def settleRef (act : Act Ref) : StateM Interpreter (Option Ref) := settle none (some <$> act)

def settleDone (act : Act Unit) : StateM Interpreter Bool := settle false (act *> return true)

def contentOfScalar : Scalar → Content
  | .bool b => .bool b
  | .int i => .int i.value
  | .real x => .float x.toDouble

def answer : (r : Request) → StateM Interpreter r.Answer
  | .kindOf ref => do return (← content ref).kind
  | .numericKind _ => return none
  | .typeName ref => do return some (← publicTypeName ref)
  | .memberNames ref => settle none (some <$> memberNames ref)
  | .isCallable ref => isCallable ref
  | .supportsIndexing ref => supportsIndexing ref
  | .intValue ref => words.intValue ref
  | .floatValue ref => settle (Binary.ofInt (-1)) (floatOf ref)
  | .boolValue ref => do return (← content ref).truth
  | .stringBytes ref => settle none (some <$> stringBytes ref)
  | .sequenceLength ref => settle none (some <$> sequenceLength ref)
  | .sequenceItem ref index => settleRef (sequenceItem ref index)
  | .null => make .null
  | .newScalar value => do return some (← make (contentOfScalar value))
  | .newString text => do return some (← make (.text (.ofString text)))
  | .newTuple items => do return some (← makeSharing (.tuple items))
  | .importModule name => settleRef (checkName name *> importModule name)
  | .getAttr ref name => settleRef (getMember ref name)
  | .setAttr ref name value => settleDone (setMember ref name value)
  | .call callee arguments => settleRef do
    call callee (((← content arguments).items?).getD [])
  | .getItem ref key => settleRef (getItem call ref key)
  | .setItem ref key value => settleDone (setItem ref key value)
  | .retain ref => discard (retain ref)
  | .release ref => release ref
  | .errorPending => do return (← get).pending.isSome
  | .takeError => do
    let s ← get
    set { s with pending := none }
    return s.pending

end Interpreter
end ForeignBridge
