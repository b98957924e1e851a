import ForeignBridge.Crossing.Request
import ForeignBridge.Heap.Basic
import ForeignBridge.Heap.Table
import ForeignBridge.Text.Utf16

/-!
# Objects of the simulated runtime

The simulated runtime keeps numbers, strings, sequences, attribute bags, modules, classes and their
instances, functions and bound methods.  The body of a function is a script: a tree of operations
of the runtime, which a call runs with the arguments and with the number of times that the function
was called so far.
-/

namespace ForeignBridge
namespace Simulation

/-- How an object is pointed out from outside: by number, or by a name given to it earlier. -/
inductive Designation where
  | number (id : Nat)
  | name (text : String)
  deriving DecidableEq, Repr

/-- An operation of the simulated runtime.  The builders take over the references in their
arguments; the peeking operations lend the references they answer. -/
inductive Op where
  | request (r : Request)
  | newInt (value : Int)
  | newFloat (x : Double)
  | newBool (b : Bool)
  | newBytes (bytes : List UInt8)
  | newText (text : String)
  | newUnits (units : List UInt16)
  | newTuple (items : List Ref)
  | newList (items : List Ref)
  | newBag (entries : List (String × Ref))
  | newClass (name : String) (entries : List (String × Ref))
  | registerModule (name : String) (entries : List (String × Ref))
  | raise (diagnostic : Diagnostic)
  | retain (object : Ref)
  | release (object : Ref)
  | kind (object : Ref)
  | attr (object : Ref) (name : String)
  | items (object : Ref)
  | intOf (object : Ref)
  | floatOf (object : Ref)
  | boolOf (object : Ref)
  | textOf (object : Ref)
  | scalarKind (object : Ref)
  | designated (designation : Designation)

namespace Op

abbrev Answer : Op → Type
  | request r => r.Answer
  | newInt _ | newFloat _ | newBool _ | newBytes _ | newText _ | newUnits _ | newTuple _
  | newList _ | newBag _ | newClass _ _ | registerModule _ _ => Ref
  | raise _ | retain _ | release _ => Unit
  | kind _ => ForeignKind
  | attr _ _ | designated _ => Option Ref
  | items _ => Option (List Ref)
  | intOf _ => Option Int
  | floatOf _ => Option Double
  | boolOf _ => Option Bool
  | textOf _ => Option String
  | scalarKind _ => Option NumericKind

end Op

/-- The body of a function: operations of the runtime, of which each may depend on the answers to
the earlier ones, and at the end a new reference or a failure. -/
inductive Script where
  | done (result : Option Ref)
  | perform (op : Op) (next : op.Answer → Script)
  | newFunction (name : String) (body : Nat → List Ref → Script) (next : Ref → Script)

inductive Object where
  | null
  | bool (b : Bool)
  | int (value : Int) (kind : Option NumericKind)
  | float (x : Double) (kind : Option NumericKind)
  | bytes (octets : List UInt8)
  | text (chars : String)
  | units (codes : List UInt16)
  | tuple (items : List Ref)
  | list (items : List Ref)
  | bag (attrs : Table Ref)
  | moduleOf (name : String) (attrs : Table Ref)
  | classOf (name : String) (attrs : Table Ref)
  | instanceOf (cls : Ref) (attrs : Table Ref)
  | function (name : String) (body : Nat → List Ref → Script)
  | boundMethod (receiver : Ref) (target : Ref)

namespace Object

def kind : Object → ForeignKind
  | null => .null
  | bool _ => .bool
  | int _ _ => .integer
  | float _ _ => .float
  | bytes _ => .bytes
  | text _ | units _ => .unicode
  | tuple _ | list _ => .sequence
  | bag _ => .attributeBag
  | moduleOf _ _ | classOf _ _ | instanceOf _ _ | function _ _ | boundMethod _ _ => .object

def builtinType : Object → String
  | null => "NoneType"
  | bool _ => "bool"
  | int _ _ => "int"
  | float _ _ => "float"
  | bytes _ => "bytes"
  | text _ | units _ => "str"
  | tuple _ => "tuple"
  | list _ => "list"
  | bag _ => "dict"
  | moduleOf _ _ => "module"
  | classOf _ _ => "type"
  | instanceOf _ _ => "object"
  | function _ _ => "function"
  | boundMethod _ _ => "method"

def attrs? : Object → Option (Table Ref)
  | bag attrs | moduleOf _ attrs | classOf _ attrs | instanceOf _ attrs => some attrs
  | _ => none

def withAttrs (attrs : Table Ref) : Object → Object
  | bag _ => bag attrs
  | moduleOf name _ => moduleOf name attrs
  | classOf name _ => classOf name attrs
  | instanceOf cls _ => instanceOf cls attrs
  | object => object

def items? : Object → Option (List Ref)
  | tuple items | list items => some items
  | _ => none

def class? : Object → Option Ref
  | instanceOf cls _ => some cls
  | _ => none

/-- The name that functions, classes and modules carry. -/
def ownName? : Object → Option String
  | function name _ | classOf name _ | moduleOf name _ => some name
  | _ => none

def isCallable : Object → Bool
  | function _ _ | boundMethod _ _ | classOf _ _ => true
  | _ => false

def supportsIndexing : Object → Bool
  | tuple _ | list _ | bag _ => true
  | _ => false

def int? : Object → Option Int
  | int value _ => some value
  | _ => none

def float? : Object → Option Double
  | float x _ => some x
  | _ => none

def bool? : Object → Option Bool
  | bool b => some b
  | _ => none

def text? : Object → Option String
  | text chars => some chars
  | units codes => Utf16.decode? codes
  | _ => none

def numericKind? : Object → Option NumericKind
  | int _ kind | float _ kind => kind
  | _ => none

/-- The kind that a number was tagged with; truth values are logical. -/
def scalarKind? : Object → Option NumericKind
  | bool _ => some .logical
  | object => object.numericKind?

def truth : Object → Bool
  | null => false
  | bool b => b
  | int value _ => value != 0
  | float x _ => !x.isZero
  | bytes octets => !octets.isEmpty
  | text chars => !chars.isEmpty
  | units codes => !codes.isEmpty
  | tuple items | list items => !items.isEmpty
  | bag attrs => !attrs.isEmpty
  | _ => true

def ofScalar : Scalar → Object
  | .bool b => bool b
  | .int i => int i.value (some i.kind)
  | .real x => float x.toDouble (some x.kind)

/-- The references that an object owns. -/
def children : Object → List Ref
  | tuple items | list items => items
  | bag attrs | moduleOf _ attrs | classOf _ attrs => attrs.values
  | instanceOf cls attrs => attrs.values ++ [cls]
  | boundMethod receiver target => [receiver, target]
  | _ => []

instance : Linked Object := ⟨children⟩

end Object
end Simulation
end ForeignBridge
