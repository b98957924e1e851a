import ForeignBridge.Interpreter.Attributes
import ForeignBridge.Number.Root

/-!
# Calls

Functions, methods, classes and their instances are called with a list of arguments, which stay
with the caller.  A call inside a call is one level deeper; the depth of calls is bounded.
-/

namespace ForeignBridge

namespace Interpreter

/-! ## Arguments -/

/-- Names in quotes, the last one after an `and`. -/
def enumerated : List String → String
  | [] => ""
  | [a] => a
  | [a, b] => a ++ " and " ++ b
  | names => ", ".intercalate (names.dropLast ++ ["and " ++ names.getLast?.getD ""])

def plural (count : Nat) : String := if count = 1 then "" else "s"

def tooMany (code : Code) (defaults given : Nat) : String :=
  let most := code.parameters.length
  let takes :=
    if defaults = 0 then s!"{most} positional argument{plural most}"
    else s!"from {most - defaults} to {most} positional arguments"
  let were := if given = 1 then "was" else "were"
  s!"{code.qualifiedName}() takes {takes} but {given} {were} given"

def tooFew (code : Code) (missing : List String) : String :=
  let count := missing.length
  let names := missing.map fun name => "'" ++ name ++ "'"
  s!"{code.qualifiedName}() missing {count} required positional argument{plural count}: "
    ++ enumerated names

/-- The arguments of a call, with the last ones filled in. -/
def completeArguments (code : Code) (defaults arguments : List Ref) : Act (List Ref) :=
  let required := code.parameters.length - defaults.length
  let given := arguments.length
  if code.parameters.length < given then raise "TypeError" (tooMany code defaults.length given)
  else if given < required then
    raise "TypeError" (tooFew code ((code.parameters.take required).drop given))
  else return arguments ++ defaults.drop (given - required)

/-! ## Items of any object -/

/-- Runs a function that the class of an object has under a name. -/
def callSpecial (call : Ref → List Ref → Act Ref) (receiver function : Ref)
    (arguments : List Ref) : Act Ref := do
  let method ← bindTo receiver function
  owning [method] (call method arguments)

def getItem (call : Ref → List Ref → Act Ref) (container key : Ref) : Act Ref := do
  match ← classAttr container "__getitem__" with
  | some function => callSpecial call container function [key]
  | none =>
    let content ← content container
    match content with
    | .classOf info => raise "TypeError" s!"type '{info.name}' is not subscriptable"
    | .builtinType which => raise "TypeError" s!"type '{which.name}' is not subscriptable"
    | _ =>
      if content.size?.isSome then itemOf content key
      else raise "TypeError" s!"'{← typeName container}' object is not subscriptable"

/-! ## Bodies -/

structure Frame where
  module : Ref
  constants : List Ref
  arguments : List Ref

section Body

variable (call : Ref → List Ref → Act Ref) (frame : Frame)

mutual

def evaluate : Expr → Act Ref
  | .parameter index => retain ((frame.arguments[index]?).getD nullRef)
  | .constant index => retain ((frame.constants[index]?).getD nullRef)
  | .global name => do
    match ← ownAttr frame.module name with
    | some found => retain found
    | none => raise "NameError" s!"name '{name}' is not defined"
  | .attribute expr name => do
    let object ← evaluate expr
    owning [object] (getAttr object name)
  | .item container key => do
    let container ← evaluate container
    let key ← keeping [container] (evaluate key)
    owning [container, key] (getItem call container key)
  | .call callee arguments => do
    let callee ← evaluate callee
    let arguments ← keeping [callee] (evaluateAll arguments)
    owning (callee :: arguments) (call callee arguments)
  | .binary op left right => do
    let left ← evaluate left
    let right ← keeping [left] (evaluate right)
    owning [left, right] (combine op left right)
  | .size expr => do
    let object ← evaluate expr
    make (.int (← owning [object] (sizeOf object)))
  | .typeName expr => do
    let object ← evaluate expr
    let name ← typeName object
    release object
    make (.text (.ofString name))
  | .type which => make (.builtinType which)
  | .float x => make (.float x)
  | .bytes octets => make (.bytes octets)
  | .tuple items => do make (.tuple (← evaluateAll items))
  | .list items => do make (.list (← evaluateAll items))
  | .dict keys values => do
    let keys ← evaluateAll keys
    let values ← keeping keys (evaluateAll values)
    make (.dict (keys.zip values))

/-- New references to the values of expressions; if one has none, those before it are given
back. -/
def evaluateAll : List Expr → Act (List Ref)
  | [] => return []
  | expr :: exprs => do
    let ref ← evaluate expr
    let refs ← keeping [ref] (evaluateAll exprs)
    return ref :: refs

end

def raiseObject (exception : Ref) : Act Unit := do
  match ← content exception with
  | .exception which arguments => throw ⟨← typeName exception, ← saying which arguments⟩
  | _ => raise "TypeError" "exceptions must derive from BaseException"

def execute : Statement → Act Unit
  | .setGlobal name value => do
    let value ← evaluate call frame value
    owning [value] (setAttr frame.module name value)
  | .setAttribute expr name value => do
    let value ← evaluate call frame value
    let object ← keeping [value] (evaluate call frame expr)
    owning [value, object] (setAttr object name value)
  | .setItem container key value => do
    let value ← evaluate call frame value
    let container ← keeping [value] (evaluate call frame container)
    let key ← keeping [value, container] (evaluate call frame key)
    owning [value, container, key] (Interpreter.setItem container key value)
  | .raise exception => do
    let exception ← evaluate call frame exception
    owning [exception] (raiseObject exception)
  | .failAbove value bound error => do
    let value ← evaluate call frame value
    let bound ← keeping [value] (evaluate call frame bound)
    if ← owning [value, bound] (isAbove value bound) then throw error
  | .fail error => throw error

def runBody (code : Code) : Act Ref := do
  code.statements.forM (execute call frame)
  match code.result with
  | some result => evaluate call frame result
  | none => make .null

end Body

def callCode (call : Ref → List Ref → Act Ref) (code : Code) (module : Ref)
    (defaults constants arguments : List Ref) : Act Ref := do
  if code.variadic then
    let all ← makeSharing (.tuple arguments)
    owning [all] (runBody call ⟨module, constants, [all]⟩ code)
  else
    let arguments ← completeArguments code defaults arguments
    runBody call ⟨module, constants, arguments⟩ code

/-! ## Primitives -/

def onlyArgument (p : Primitive) : List Ref → Act Ref
  | [argument] => return argument
  | arguments =>
    raise "TypeError"
      s!"{p.qualifiedName}() takes exactly one argument ({arguments.length} given)"

def integerOf (ref : Ref) : Act Int := do
  match (← content ref).int? with
  | some value => return value
  | none => raise "TypeError" s!"'{← typeName ref}' object cannot be interpreted as an integer"

/-- Joins a path with one more part, which replaces it if it begins at the root. -/
def joinPath (path part : CodePoints) : CodePoints :=
  let separator := '/'.toNat
  if part.head? = some separator then part
  else if path.isEmpty || path.getLast? = some separator then path ++ part
  else path ++ separator :: part

def pathParts : List Ref → Act (List CodePoints)
  | [] => return []
  | part :: parts => do
    match ← content part with
    | .text codes => return codes :: (← pathParts parts)
    | _ =>
      raise "TypeError" ("join() argument must be str, bytes, or os.PathLike object, not '"
        ++ (← typeName part) ++ "'")

def callPrimitive (p : Primitive) (receiver : Option Ref) (arguments : List Ref) : Act Ref := do
  match p with
  | .length => make (.int (← sizeOf (← onlyArgument p arguments)))
  | .character =>
    let code ← integerOf (← onlyArgument p arguments)
    if code < -0x80000000 ∨ 0x80000000 ≤ code then
      raise "OverflowError" "Python int too large to convert to C int"
    else if code < 0 ∨ 0x110000 ≤ code then raise "ValueError" "chr() arg not in range(0x110000)"
    else make (.text [code.toNat])
  | .squareRoot =>
    match (← floatOf (← onlyArgument p arguments)).sqrt? with
    | some root => make (.float root)
    | none => raise "ValueError" "math domain error"
  | .joinPaths =>
    match arguments with
    | [] => raise "TypeError" "join() missing 1 required positional argument: 'a'"
    | first :: parts =>
      match ← content first with
      | .text path => make (.text ((← pathParts parts).foldl joinPath path))
      | _ =>
        raise "TypeError"
          s!"expected str, bytes or os.PathLike object, not {← typeName first}"
  | .countItems =>
    let wanted ← onlyArgument p arguments
    let items := ((← content (receiver.getD nullRef)).items?).getD []
    make (.int (← items.filterM fun item => equal item wanted).length)

/-! ## Construction -/

def truncated (x : Double) : Act Int := do
  match x.units? with
  | none => raise "ValueError" "cannot convert float NaN to integer"
  | some units =>
    if x.isFinite then return units.tdiv (Int.pow 2 (BinaryFormat.unitExponent .binary64))
    else raise "OverflowError" "cannot convert float infinity to integer"

def isBlank (code : Nat) : Bool :=
  (9 ≤ code && code ≤ 13) || (0x1c ≤ code && code ≤ 0x20) || code == 0x85 || code == 0xa0

/-- The number that decimal digits form, which single underscores may separate. -/
def digitsValue? (codes : CodePoints) : Option Nat :=
  let parts := (String.ofList (codes.map Char.ofNat)).splitOn "_"
  if parts.all fun part => !part.isEmpty && part.all Char.isDigit then
    some ((codes.filter (· != '_'.toNat)).foldl (fun n code => n * 10 + (code - '0'.toNat)) 0)
  else none

/-- The integer that a text denotes, with blanks and a sign before the digits. -/
def parsedInt? (codes : CodePoints) : Option Int :=
  let trimmed := ((codes.dropWhile isBlank).reverse.dropWhile isBlank).reverse
  match trimmed with
  | 45 :: digits => (digitsValue? digits).map fun n => -(n : Int)
  | 43 :: digits | digits => (digitsValue? digits).map Int.ofNat

def intOfArguments : List Ref → Act Int
  | [] => return 0
  | [argument] => do
    let content ← content argument
    let parse := fun (codes : CodePoints) => do
      match parsedInt? codes with
      | some value => return value
      | none =>
        raise "ValueError" s!"invalid literal for int() with base 10: {← written argument}"
    match content with
    | .float x => truncated x
    | .text codes => parse codes
    | .bytes octets => parse (octets.map UInt8.toNat)
    | other =>
      match other.int? with
      | some value => return value
      | none =>
        raise "TypeError" ("int() argument must be a string, a bytes-like object or a real number, "
          ++ s!"not '{← typeName argument}'")
  | arguments => raise "TypeError" s!"int() takes at most 2 arguments ({arguments.length} given)"

def textOfArguments : List Ref → Act CodePoints
  | [] => return []
  | [argument] => displayed argument
  | arguments => raise "TypeError" s!"str() takes at most 3 arguments ({arguments.length} given)"

/-- The entries of constructor arguments, all of whose keys and values are retained. -/
def entriesOfArguments : List Ref → Act (List (Ref × Ref))
  | [] => return []
  | [argument] => do
    match ← content argument with
    | .dict entries =>
      retainAll (entries.flatMap fun (key, value) => [key, value])
      return entries
    | _ => raise "TypeError" s!"'{← typeName argument}' object is not iterable"
  | arguments => raise "TypeError" s!"dict expected at most 1 argument, got {arguments.length}"

def newContent (which : Builtin) (arguments : List Ref) : Act Content := do
  match which with
  | .int => return .int (← intOfArguments arguments)
  | .str => return .text (← textOfArguments arguments)
  | .dict => return .dict (← entriesOfArguments arguments)
  | .object => return .plain
  | which =>
    if which.isException then
      retainAll arguments
      return .exception which arguments
    else raise "TypeError" s!"cannot create '{which.name}' instances"

def constructBuiltin (which : Builtin) (arguments : List Ref) : Act Ref := do
  let content ← newContent which arguments
  if which.isException then allocate ⟨content, none, some .empty⟩ else make content

/-- Calls a written class.  Its initialiser gets the new instance and the arguments. -/
def instantiate (call : Ref → List Ref → Act Ref) (cls : Ref) (info : Class)
    (arguments : List Ref) : Act Ref := do
  let initialiser ← ownAttr cls "__init__"
  if info.base = .object ∧ initialiser.isNone ∧ arguments ≠ [] then
    raise "TypeError" s!"{info.name}() takes no arguments"
  else
    let content ←
      if info.base = .object then pure Content.plain else newContent info.base arguments
    let attrs := if info.isOpen then some Table.empty else none
    let self ← allocate ⟨content, some (← retain cls), attrs⟩
    match initialiser with
    | none => return self
    | some function =>
      keeping [self] do
        let result ← callSpecial call self function arguments
        let type ← typeName result
        release result
        if type ≠ "NoneType" then
          raise "TypeError" s!"__init__() should return None, not '{type}'"
      return self

/-! ## Calls -/

/-- Calls an object, given how to make the calls inside the call. -/
def callWith (call : Ref → List Ref → Act Ref) (callee : Ref) (arguments : List Ref) :
    Act Ref := do
  match ← content callee with
  | .function code module defaults constants =>
    callCode call code module defaults constants arguments
  | .method receiver target =>
    match ← content target with
    | .function code module defaults constants =>
      callCode call code module defaults constants (receiver :: arguments)
    | _ => call target (receiver :: arguments)
  | .primitive p receiver => callPrimitive p receiver arguments
  | .builtinType which => constructBuiltin which arguments
  | .classOf info => instantiate call callee info arguments
  | _ =>
    match ← classAttr callee "__call__" with
    | some function => callSpecial call callee function arguments
    | none => raise "TypeError" s!"'{← typeName callee}' object is not callable"

/-- Calls an object, in which calls may be nested up to a depth. -/
def callWithin : Nat → Ref → List Ref → Act Ref
  | 0, _, _ => raise "RecursionError" "maximum recursion depth exceeded"
  | depth + 1, callee, arguments => callWith (callWithin depth) callee arguments

def call (callee : Ref) (arguments : List Ref) : Act Ref := callWithin 1000 callee arguments

end Interpreter
end ForeignBridge
