import ForeignBridge.Interpreter.Object

/-!
# Sources of modules

The source of a module binds names to what is defined, from top to bottom.  Directories hold
sources under the names by which modules are imported.
-/

namespace ForeignBridge
namespace Interpreter

/-- A value that is written out in a source.  Functions keep one object for each of theirs. -/
inductive Literal where
  | null
  | bool (b : Bool)
  | int (value : Int)
  | text (codes : CodePoints)
  | bytes (octets : List UInt8)
  | tuple (items : List Literal)

inductive Definition where
  /-- The value of an expression with its literals. -/
  | value (literals : List Literal) (result : Expr)
  | function (code : Code) (defaults literals : List Literal)
  /-- A class, and the variable of the module that goes down by one when an instance dies. -/
  | classOf (name : String) (base : Builtin) (isOpen : Bool) (tally : Option String)
      (entries : List (String × Definition))
  | dict (entries : List (String × Definition))
  | primitive (p : Primitive)
  /-- A module that is loaded already. -/
  | loaded (name : String)

structure ModuleSource where
  name : String
  /-- What is written of where the module comes from. -/
  origin : String
  isPackage : Bool
  definitions : List (String × Definition)
  /-- The error with which loading ends. -/
  failure : Option Diagnostic

/-- A directory on the search path, with the sources of the modules in it. -/
structure Directory where
  path : String
  sources : List ModuleSource

namespace Directory

def find? (d : Directory) (name : String) : Option ModuleSource :=
  d.sources.find? (·.name == name)

/-- The names along a path, without those that stay in the same directory. -/
def pathNames (path : String) : List String :=
  ((path.toList.splitOn '/').map String.ofList).filter fun name => name ≠ "" ∧ name ≠ "."

def isAt (d : Directory) (path : String) : Bool :=
  path.startsWith "/" == d.path.startsWith "/" && pathNames path == pathNames d.path

end Directory
end Interpreter
end ForeignBridge
