import ForeignBridge.Foreign.Reference
import ForeignBridge.Number.Scalar

/-!
# Requests to a foreign runtime

Everything that the bridge can ask of a started runtime, with the type of the answer.  A runtime
that fails answers with the sentinel of that request, and keeps a pending error beside it.  Answers
that are references are owned by the bridge; the arguments of a request stay with it.
-/

namespace ForeignBridge

inductive Request where
  | kindOf (object : Ref)
  | numericKind (object : Ref)
  | typeName (object : Ref)
  | memberNames (object : Ref)
  | isCallable (object : Ref)
  | supportsIndexing (object : Ref)
  | intValue (object : Ref)
  | floatValue (object : Ref)
  | boolValue (object : Ref)
  | stringBytes (object : Ref)
  | sequenceLength (object : Ref)
  | sequenceItem (object : Ref) (index : Nat)
  | null
  | newScalar (value : Scalar)
  | newString (text : String)
  | newTuple (items : List Ref)
  | importModule (name : String)
  | getAttr (object : Ref) (name : String)
  | setAttr (object : Ref) (name : String) (value : Ref)
  | call (callable : Ref) (arguments : Ref)
  | getItem (object : Ref) (key : Ref)
  | setItem (object : Ref) (key : Ref) (value : Ref)
  | retain (object : Ref)
  | release (object : Ref)
  | errorPending
  | takeError
  deriving DecidableEq

namespace Request

def method : Request → String
  | kindOf _ => "kind_of"
  | numericKind _ => "numeric_kind"
  | typeName _ => "type_name"
  | memberNames _ => "member_names"
  | isCallable _ => "is_callable"
  | supportsIndexing _ => "supports_indexing"
  | intValue _ => "int_value"
  | floatValue _ => "float_value"
  | boolValue _ => "bool_value"
  | stringBytes _ => "string_bytes"
  | sequenceLength _ => "sequence_len"
  | sequenceItem _ _ => "sequence_item"
  | null => "none"
  | newScalar _ => "new_scalar"
  | newString _ => "new_string"
  | newTuple _ => "new_tuple"
  | importModule _ => "import"
  | getAttr _ _ => "get_attr"
  | setAttr _ _ _ => "set_attr"
  | call _ _ => "call"
  | getItem _ _ => "get_item"
  | setItem _ _ _ => "set_item"
  | retain _ => "incref"
  | release _ => "decref"
  | errorPending => "error_occurred"
  | takeError => "take_error"

abbrev Answer : Request → Type
  | kindOf _ => ForeignKind
  | numericKind _ => Option NumericKind
  | typeName _ => Option String
  | memberNames _ => Option (List String)
  | isCallable _ | supportsIndexing _ | boolValue _ => Bool
  | intValue _ => Option Int
  | floatValue _ => Double
  | stringBytes _ => Option (List UInt8)
  | sequenceLength _ => Option Nat
  | null => Ref
  | sequenceItem _ _ | newScalar _ | newString _ | newTuple _ | importModule _ | getAttr _ _
  | call _ _ | getItem _ _ => Option Ref
  | setAttr _ _ _ | setItem _ _ _ => Bool
  | retain _ | release _ => Unit
  | errorPending => Bool
  | takeError => Option Diagnostic

/-- The references that the bridge owns after an answer and did not own before. -/
def acquired : (request : Request) → request.Answer → List Ref
  | null, ref => [ref]
  | sequenceItem _ _, ref | newScalar _, ref | newString _, ref | newTuple _, ref
  | importModule _, ref | getAttr _ _, ref | call _ _, ref | getItem _ _, ref => ref.toList
  | retain object, _ => [object]
  | _, _ => []

/-- The reference that the bridge gives back with a request. -/
def returned : Request → Option Ref
  | release object => some object
  | _ => none

end Request
end ForeignBridge
