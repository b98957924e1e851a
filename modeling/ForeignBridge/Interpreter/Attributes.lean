import ForeignBridge.Interpreter.Items
import ForeignBridge.Interpreter.Listing

/-!
# Attributes

An attribute is looked for in the object itself and then in its class.  A function found in the
class becomes a method, which remembers the object.
-/

namespace ForeignBridge
namespace Interpreter

/-! ## Reading -/

def ownAttr (ref : Ref) (name : String) : StateM Interpreter (Option Ref) := do
  return (← object ref).attrs.bind (·.find? name)

def classAttr (ref : Ref) (name : String) : StateM Interpreter (Option Ref) := do
  match (← object ref).cls with
  | some cls => ownAttr cls name
  | none => return none

/-- A new reference to an attribute of a class, as an instance sees it. -/
def bindTo (receiver found : Ref) : StateM Interpreter Ref := do
  match ← content found with
  | .function _ _ _ _ =>
    allocate ⟨.method (← retain receiver) (← retain found), none, none⟩
  | _ => retain found

def providedAttr (ref : Ref) (name : String) : StateM Interpreter (Option Ref) := do
  match ← content ref, name with
  | .list _, "count" =>
    return some (← allocate ⟨.primitive .countItems (some (← retain ref)), none, none⟩)
  | .exception _ arguments, "args" => return some (← makeSharing (.tuple arguments))
  | _, _ => return none

def missingAttr (ref : Ref) (name : String) : StateM Interpreter String := do
  let owner ← match ← content ref with
    | .moduleOf moduleName _ _ => pure s!"module '{moduleName}'"
    | .builtinType which => pure s!"type object '{which.name}'"
    | .classOf info => pure s!"type object '{info.name}'"
    | .method _ _ => pure "'function' object"
    | _ => pure s!"'{← typeName ref}' object"
  return s!"{owner} has no attribute '{name}'"

/-- A new reference to an attribute.  A method has those of its function. -/
def getAttr (ref : Ref) (name : String) : Act Ref := do
  let owner := match ← content ref with
    | .method _ target => target
    | _ => ref
  match ← ownAttr owner name with
  | some found => retain found
  | none =>
    match ← classAttr owner name with
    | some found => bindTo owner found
    | none =>
      match ← providedAttr owner name with
      | some found => return found
      | none => raise "AttributeError" (← missingAttr ref name)

/-! ## Writing -/

def typeHas (ref : Ref) (name : String) : StateM Interpreter Bool := do
  return (← classAttr ref name).isSome
    || (← content ref).builtin.attributeNames.contains name

/-- Sets an attribute of an object that can have attributes of its own. -/
def setAttr (ref : Ref) (name : String) (value : Ref) : Act Unit := do
  let found ← object ref
  match found.attrs, found.content with
  | some attrs, _ =>
    discard (retain value)
    setObject ref { found with attrs := some (attrs.insert name value) }
    (attrs.find? name).forM fun old => release old
  | none, .builtinType which =>
    raise "TypeError" s!"cannot set '{name}' attribute of immutable type '{which.name}'"
  | none, _ =>
    let type ← typeName ref
    if ← typeHas ref name then
      raise "AttributeError" s!"'{type}' object attribute '{name}' is read-only"
    else raise "AttributeError" s!"'{type}' object has no attribute '{name}'"

/-! ## Listing -/

/-- The names that every written class has, and those of what its instances have of their own. -/
def Class.providedNames (info : Class) : List String :=
  ["__doc__", "__module__"] ++ (if info.isOpen then ["__dict__"] else [])
    ++ (if info.isOpen ∧ info.base ≠ .int then ["__weakref__"] else [])

def moduleNames (isPackage : Bool) : List String :=
  ["__builtins__", "__cached__", "__doc__", "__file__", "__loader__", "__name__", "__package__",
    "__spec__"] ++ if isPackage then ["__path__"] else []

def Content.providedNames : Content → List String
  | .moduleOf _ _ isPackage => moduleNames isPackage
  | .builtinType which => which.attributeNames
  | .classOf info => info.providedNames ++ info.base.attributeNames
  | other => other.builtin.attributeNames

def classNames (ref : Ref) : StateM Interpreter (List String) := do
  match (← object ref).cls with
  | some cls =>
    let found ← object cls
    let provided := match found.content with
      | .classOf info => info.providedNames
      | _ => []
    return (found.attrs.map Table.names).getD [] ++ provided
  | none => return []

/-- Texts in ascending order, each once. -/
def sortedNames (names : List String) : List String := (Table.ofList (names.map (·, ()))).names

/-- The names of an object's attributes, unless its class has a listing of its own. -/
def listing (ref : Ref) : StateM Interpreter (List String) := do
  let found ← object ref
  let own := (found.attrs.map Table.names).getD []
  return sortedNames (own ++ (← classNames ref) ++ found.content.providedNames)

def hasAttr (ref : Ref) (name : String) : StateM Interpreter Bool := do
  return (← ownAttr ref name).isSome || (← classAttr ref name).isSome
    || (← content ref).providedNames.contains name

end Interpreter
end ForeignBridge
