import ForeignBridge.Foreign.Reference
import ForeignBridge.Heap.Basic
import ForeignBridge.Heap.Table
import ForeignBridge.Number.Binary
import ForeignBridge.Text.CodePoints

/-!
# Objects of the interpreter

Every object has a content.  Instances of classes written in the interpreted language also have
their class, and most objects that are not plain values have attributes of their own.  The body of
a function is a piece of code: a few statements and an expression for the result.
-/

namespace ForeignBridge
namespace Interpreter

/-! ## Types -/

inductive Builtin where
  | object | type | null | bool | int | float | str | bytes | tuple | list | dict
  | moduleType | function | method | primitive
  | baseException | exception | lookupError | valueError | keyError
  deriving DecidableEq, Repr

namespace Builtin

def all : List Builtin :=
  [object, type, null, bool, int, float, str, bytes, tuple, list, dict, moduleType, function,
    method, primitive, baseException, exception, lookupError, valueError, keyError]

def name : Builtin → String
  | object => "object"
  | type => "type"
  | null => "NoneType"
  | bool => "bool"
  | int => "int"
  | float => "float"
  | str => "str"
  | bytes => "bytes"
  | tuple => "tuple"
  | list => "list"
  | dict => "dict"
  | moduleType => "module"
  | function => "function"
  | method => "method"
  | primitive => "builtin_function_or_method"
  | baseException => "BaseException"
  | exception => "Exception"
  | lookupError => "LookupError"
  | valueError => "ValueError"
  | keyError => "KeyError"

/-- A type and the types above it. -/
def lineage : Builtin → List Builtin
  | object => [object]
  | bool => [bool, int, object]
  | exception => [exception, baseException, object]
  | lookupError => [lookupError, exception, baseException, object]
  | valueError => [valueError, exception, baseException, object]
  | keyError => [keyError, lookupError, exception, baseException, object]
  | type => [type, object]
  | other => [other, object]

def isException (b : Builtin) : Bool := b.lineage.contains baseException

end Builtin

/-! ## Code -/

inductive Operator where
  | add | multiply
  deriving DecidableEq, Repr

namespace Operator

def symbol : Operator → String
  | add => "+"
  | multiply => "*"

end Operator

inductive Expr where
  /-- An argument of the call. -/
  | parameter (index : Nat)
  /-- An object that the function keeps. -/
  | constant (index : Nat)
  /-- A variable of the function's module. -/
  | global (name : String)
  | attribute (object : Expr) (name : String)
  | item (container key : Expr)
  | call (callee : Expr) (arguments : List Expr)
  | binary (op : Operator) (left right : Expr)
  | size (object : Expr)
  | typeName (object : Expr)
  | type (which : Builtin)
  | float (x : Double)
  | bytes (octets : List UInt8)
  | tuple (items : List Expr)
  | list (items : List Expr)
  | dict (keys values : List Expr)

inductive Statement where
  | setGlobal (name : String) (value : Expr)
  | setAttribute (object : Expr) (name : String) (value : Expr)
  | setItem (container key value : Expr)
  | raise (exception : Expr)
  /-- Raises an error if one value is greater than another. -/
  | failAbove (value bound : Expr) (error : Diagnostic)
  | fail (error : Diagnostic)

/-- A function without the objects that it keeps. -/
structure Code where
  name : String
  /-- The name with the class around the function. -/
  qualifiedName : String
  parameters : List String
  /-- Whether all arguments form the only parameter. -/
  variadic : Bool
  statements : List Statement
  result : Option Expr

/-! ## Objects -/

/-- The functions that are not written in the interpreted language. -/
inductive Primitive where
  | length | character | squareRoot | joinPaths | countItems
  deriving DecidableEq, Repr

namespace Primitive

def name : Primitive → String
  | length => "len"
  | character => "chr"
  | squareRoot => "sqrt"
  | joinPaths => "join"
  | countItems => "count"

/-- The name in complaints about the number of arguments. -/
def qualifiedName : Primitive → String
  | squareRoot => "math.sqrt"
  | countItems => "list.count"
  | other => other.name

end Primitive

structure Class where
  name : String
  module : String
  base : Builtin
  /-- Whether instances have attributes of their own. -/
  isOpen : Bool
  /-- A variable of a module that goes down by one when an instance dies. -/
  tally : Option (Ref × String)

inductive Content where
  | null
  | bool (b : Bool)
  | int (value : Int)
  | float (x : Double)
  | text (codes : CodePoints)
  | bytes (octets : List UInt8)
  | tuple (items : List Ref)
  | list (items : List Ref)
  /-- Keys and values in the order in which the keys came. -/
  | dict (entries : List (Ref × Ref))
  /-- A module, with what is written of where it comes from. -/
  | moduleOf (name origin : String) (isPackage : Bool)
  | builtinType (which : Builtin)
  | classOf (info : Class)
  | function (code : Code) (module : Ref) (defaults constants : List Ref)
  | method (receiver target : Ref)
  | primitive (p : Primitive) (receiver : Option Ref)
  | exception (which : Builtin) (arguments : List Ref)
  /-- Nothing but attributes. -/
  | plain

namespace Content

/-- The type of an object that is no instance of a written class. -/
def builtin : Content → Builtin
  | null => .null
  | bool _ => .bool
  | int _ => .int
  | float _ => .float
  | text _ => .str
  | bytes _ => .bytes
  | tuple _ => .tuple
  | list _ => .list
  | dict _ => .dict
  | moduleOf _ _ _ => .moduleType
  | builtinType _ | classOf _ => .type
  | function _ _ _ _ => .function
  | method _ _ => .method
  | primitive .joinPaths _ => .function
  | primitive _ _ => .primitive
  | exception which _ => which
  | plain => .object

def children : Content → List Ref
  | tuple items | list items => items
  | dict entries => entries.flatMap fun (key, value) => [key, value]
  | classOf info => (info.tally.map Prod.fst).toList
  | function _ module defaults constants => module :: defaults ++ constants
  | method receiver target => [receiver, target]
  | primitive _ receiver => receiver.toList
  | exception _ arguments => arguments
  | _ => []

def int? : Content → Option Int
  | int value => some value
  | bool b => some (if b then 1 else 0)
  | _ => none

def items? : Content → Option (List Ref)
  | tuple items | list items => some items
  | _ => none

def size? : Content → Option Nat
  | text codes => some codes.length
  | bytes octets => some octets.length
  | tuple items | list items => some items.length
  | dict entries => some entries.length
  | _ => none

def kind : Content → ForeignKind
  | null => .null
  | bool _ => .bool
  | int _ => .integer
  | float _ => .float
  | bytes _ => .bytes
  | text _ => .unicode
  | tuple _ | list _ => .sequence
  | dict _ => .attributeBag
  | _ => .object

def truth : Content → Bool
  | null => false
  | bool b => b
  | int value => value != 0
  | float x => !x.isZero
  | content => content.size? != some 0

end Content

/-- An object: its content, the written class of which it is an instance, and its own
attributes. -/
structure Object where
  content : Content
  cls : Option Ref := none
  attrs : Option (Table Ref) := none

instance : Inhabited Object := ⟨⟨.null, none, none⟩⟩

instance : Linked Object where
  children object :=
    object.cls.toList ++ object.content.children ++ (object.attrs.map Table.values).getD []

end Interpreter
end ForeignBridge
