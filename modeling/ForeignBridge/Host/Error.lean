import ForeignBridge.Foreign.Reference
import ForeignBridge.Number.Scalar
import ForeignBridge.Text.Utf8

/-!
# Errors of the bridge

Every failure that the bridge reports to the host is one of five kinds.  Three of them keep their
cause; their wording is in the functions named `text` and `message`.
-/

namespace ForeignBridge

inductive Operation where
  | start | importModule | getField | setField | call | index | assignIndex | members
  | packInteger | packFloat | packString | sequenceLength | sequenceItem
  | unpackScalar | unpackString | buildSequence
  | named (text : String)
  deriving DecidableEq, Repr

namespace Operation

def text : Operation → String
  | start => "initialize"
  | importModule => "import"
  | getField => "get field"
  | setField => "set field"
  | call => "call"
  | index => "index"
  | assignIndex => "indexed assignment"
  | members => "members"
  | packInteger => "pack integer"
  | packFloat => "pack float"
  | packString => "pack string"
  | sequenceLength => "sequence length"
  | sequenceItem => "sequence item"
  | unpackScalar => "unpack scalar"
  | unpackString => "unpack string"
  | buildSequence => "build sequence"
  | named text => text

end Operation

/-- Why a value has no counterpart on the other side. -/
inductive ConversionFault where
  | numeric (fault : NumericFault)
  | elementCount (dims : List Nat) (count : Nat)
  | elementKind (element : NumericKind) (matrix : NumericKind)
  | raggedRows
  | otherRuntime
  | unencodable (diagnostic : Option Diagnostic)
  | malformedText (fault : Utf8.Malformed)
  | dimensions (count : Nat)
  | nestedSequences
  | stated (text : String)
  deriving DecidableEq

namespace ConversionFault

def text : ConversionFault → String
  | numeric fault => fault.message
  | elementCount dims count =>
    let listed := ", ".intercalate (dims.map toString)
    s!"matrix of dims [{listed}] needs {dims.foldr (· * ·) 1} elements, got {count}"
  | elementKind element matrix => s!"{element.name} element in {matrix.name} matrix"
  | raggedRows => "ragged rows in matrix"
  | otherRuntime => "foreign handle belongs to a different runtime"
  | unencodable diagnostic =>
    "string cannot be encoded as UTF-8: " ++ (diagnostic.map Diagnostic.text).getD "no UTF-8 form"
  | malformedText fault => "string is not valid UTF-8: " ++ fault.text
  | dimensions count => s!"{count}-dimensional array has no foreign representation"
  | nestedSequences => "sequences nested more than one level deep are not supported"
  | stated text => text

end ConversionFault

inductive Unsupported where
  | qualifiedName (name : String)
  | indexCount (count : Nat)
  | indexValue (typeName : String)
  | notCallable (kind : ForeignKind)
  | notIndexable (kind : ForeignKind)
  | notAssignable (kind : ForeignKind)
  | noIndex
  | stated (text : String)
  deriving DecidableEq

namespace Unsupported

def text : Unsupported → String
  | qualifiedName name => s!"invalid qualified name '{name}'"
  | indexCount count => s!"exactly one index is supported, got {count}"
  | indexValue typeName => s!"index must be a positive integer, got {typeName}"
  | notCallable kind => s!"{kind.name} object is neither callable nor indexable"
  | notIndexable kind => s!"{kind.name} object does not support indexing"
  | notAssignable kind => s!"{kind.name} object does not support indexed assignment"
  | noIndex => "assignment needs at least one index"
  | stated text => text

end Unsupported

inductive BridgeError where
  | foreignRuntime (operation : Operation) (message : String)
  | typeConversion (fault : ConversionFault)
  | overflow (value : String) (target : String)
  | unsupported (fault : Unsupported)
  | notAvailable (reason : String)
  deriving DecidableEq

namespace BridgeError

def message : BridgeError → String
  | foreignRuntime operation message => s!"{operation.text}: {message}"
  | typeConversion fault => s!"Type conversion error: {fault.text}"
  | overflow value target => s!"Overflow error: {value} does not fit in {target}"
  | unsupported fault => s!"Unsupported operation: {fault.text}"
  | notAvailable reason => s!"Foreign runtime not available: {reason}"

/-- An overflow stays one; every other numeric failure is a conversion failure. -/
def ofNumeric : NumericFault → BridgeError
  | .overflow value target => overflow value.text target.name
  | fault => typeConversion (.numeric fault)

end BridgeError
end ForeignBridge
