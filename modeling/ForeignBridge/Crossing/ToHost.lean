import ForeignBridge.Crossing.Report
import ForeignBridge.Host.Value

/-!
# From the runtime to the host

A foreign object becomes a host value by its kind.  Numbers keep the kind that the runtime reports,
text has to be strict UTF-8, attribute bags and opaque objects become handles.  A sequence becomes
a matrix of doubles if it is rectangular and numeric and the settings allow it, and otherwise a
cell, in which sequences of sequences are replaced by placeholders.  Only two levels of a sequence
are ever looked at, so the conversion ends also for a sequence that contains itself.
-/

namespace ForeignBridge
namespace Context

variable (ctx : Context)

/-- A handle that owns a reference.  An object whose class has no name is displayed as an object,
and a failure to name it is forgotten. -/
def wrap (object : Ref) : Crossing Handle := do
  let name ← Crossing.ask (.typeName object)
  let _ ← clearError
  let className := match name with
    | some name => if name.isEmpty then "object" else name
    | none => "object"
  return ⟨ctx.id, object, className⟩

/-! ## Scalars and text -/

/-- Whether a runtime raised an error instead of handing over an integer. -/
def extractionFailed (value : Option Int) : Crossing Bool :=
  if value.isNone then Crossing.ask .errorPending else return false

/-- An integer of the kind that the runtime reports, if that is an integer kind, and an `int64`
otherwise.  An integer that the runtime cannot hand over is an overflow. -/
def integerToHost (object : Ref) : Crossing HostInt := do
  let hint ← Crossing.ask (.numericKind object)
  let kind := (hint.filter NumericKind.isInteger).getD .int64
  let value ← Crossing.ask (.intValue object)
  if ← extractionFailed value then
    let diagnostic ← Crossing.ask .takeError
    throw (.overflow ((diagnostic.map Diagnostic.message).getD "integer") kind.name)
  else
    let value ← ctx.checkValue .packInteger value
    match HostInt.ofInt kind value with
    | .ok i => return i
    | .error fault => throw (.ofNumeric fault)

/-- A float of the kind that the runtime reports, if that is a float kind, and a double
otherwise. -/
def floatToHost (object : Ref) : Crossing HostFloat := do
  let hint ← Crossing.ask (.numericKind object)
  let kind := (hint.filter NumericKind.isFloat).getD .double
  let value ← Crossing.ask (.floatValue object)
  let value ← ctx.checkValue .packFloat (some value)
  match HostFloat.ofDouble kind value with
  | .ok x => return x
  | .error fault => throw (.ofNumeric fault)

def textToHost (object : Ref) : Crossing String := do
  match ← Crossing.ask (.stringBytes object) with
  | none => refuse (.unencodable (← clearError))
  | some bytes =>
    let bytes ← ctx.checkValue .packString (some bytes)
    match Utf8.decode bytes with
    | .ok text => return text
    | .error fault => refuse (.malformedText fault)

def leafToHost (object : Ref) : Crossing Double := do
  match ← Crossing.ask (.kindOf object) with
  | .bool => return (Scalar.bool (← Crossing.ask (.boolValue object))).toDouble
  | .integer => return (← ctx.integerToHost object).toDouble
  | _ => return (← ctx.floatToHost object).toDouble

/-! ## Sequences -/

def itemsFrom (sequence : Ref) (index : Nat) : Nat → Crossing (List Ref)
  | 0 => return []
  | count + 1 => do
    let item ← ctx.checkRef .sequenceItem (← Crossing.ask (.sequenceItem sequence index))
    let items ← Crossing.keeping [item] (itemsFrom sequence (index + 1) count)
    return item :: items

/-- The items of a sequence, each an owned reference. -/
def items (sequence : Ref) : Crossing (List Ref) := do
  let answer ← Crossing.ask (.sequenceLength sequence)
  let count ← ctx.checkValue .sequenceLength answer
  ctx.itemsFrom sequence 0 count

/-- Whether all objects are numbers; the first that is none ends the search. -/
def allNumeric : List Ref → Crossing Bool
  | [] => return true
  | object :: rest => do
    if (← Crossing.ask (.kindOf object)).isNumeric then allNumeric rest else return false

def anySequence : List Ref → Crossing Bool
  | [] => return false
  | object :: rest => do
    if (← Crossing.ask (.kindOf object)) = .sequence then return true else anySequence rest

/-- Whether a row holds only numbers and has the length of the rows before it, if there are any. -/
def rowFits (columns : Option Nat) (leaves : List Ref) : Crossing Bool :=
  if columns.getD leaves.length = leaves.length then allNumeric leaves else return false

/-- The leaves of sequences of one length that hold only numbers, row by row, as owned references;
nothing if some object is no such sequence.  The length is that of the first one unless given. -/
def numericRows (columns : Option Nat) : List Ref → Crossing (Option (List (List Ref)))
  | [] => return some []
  | object :: rest => do
    if (← Crossing.ask (.kindOf object)) = .sequence then
      let leaves ← ctx.items object
      if ← rowFits columns leaves then
        match ← Crossing.keeping leaves (numericRows (some leaves.length) rest) with
        | some rows => return some (leaves :: rows)
        | none => Crossing.releaseAll leaves; return none
      else Crossing.releaseAll leaves; return none
    else return none

def matrixToHost (rows : List Ref) : Crossing (Option Matrix) := do
  match ← ctx.numericRows none rows with
  | none => return none
  | some leaves =>
    Crossing.owningAll leaves.flatten do
      let elements ← leaves.flatten.mapM ctx.leafToHost
      let columns := (leaves.head?.map List.length).getD 0
      match Matrix.ofDoubles rows.length columns elements with
      | .ok m => return some m
      | .error fault => refuse fault

/-- Converts owned references one by one.  After a failure the references that are left and the
handles already made are given back. -/
def convertEach (convert : Ref → Crossing Value) : List Ref → Crossing (List Value)
  | [] => return []
  | object :: rest => do
    let value ← Crossing.keeping rest (convert object)
    let values ← Crossing.keeping (value.handles.map Handle.ref) (convertEach convert rest)
    return value :: values

/-- Converts an owned reference to an object that is no sequence, whose kind is known. -/
def plainToHost (object : Ref) : ForeignKind → Crossing Value
  | .null => Crossing.owning object (return .undefined)
  | .bool => Crossing.owning object do
    return .scalar (.bool (← Crossing.ask (.boolValue object)))
  | .integer => Crossing.owning object do return .scalar (.int (← ctx.integerToHost object))
  | .float => Crossing.owning object do return .scalar (.real (← ctx.floatToHost object))
  | .bytes | .unicode => Crossing.owning object do return .text (← ctx.textToHost object)
  | .sequence | .attributeBag | .object => return .foreign (← ctx.wrap object)

def sequenceToHost (convert : Ref → Crossing Value) (sequence : Ref) : Crossing Value :=
  Crossing.owning sequence do
    let items ← ctx.items sequence
    if ctx.settings.matrixAutoconversion then
      if items.isEmpty then return .matrix .empty
      else
        match ← Crossing.keeping items (ctx.matrixToHost items) with
        | some m => Crossing.releaseAll items; return .matrix m
        | none => return .cell (← convertEach convert items)
    else return .cell (← convertEach convert items)

/-- Converts an owned reference to an item of a sequence, given how to convert an object.  An item
that is a sequence itself becomes a cell; if it holds yet another sequence, a cell of
placeholders. -/
def elementToHost (convert : Ref → Crossing Value) (item : Ref) : Crossing Value := do
  if (← Crossing.ask (.kindOf item)) = .sequence then
    Crossing.owning item do
      let inner ← ctx.items item
      if ← anySequence inner then
        Crossing.note (.nestedSequence inner.length)
        Crossing.releaseAll inner
        return .cell (List.replicate inner.length .undefined)
      else return .cell (← convertEach convert inner)
  else convert item

def objectToHost (convertSequence : Ref → Crossing Value) (object : Ref) : Crossing Value := do
  match ← Crossing.ask (.kindOf object) with
  | .sequence => convertSequence object
  | kind => ctx.plainToHost object kind

/-- Converts an owned reference.  A sequence is converted again inside a sequence only if the
runtime calls the same object once something else and once a sequence; the depth bounds how often
that may happen. -/
def toHostWithin : Nat → Ref → Crossing Value
  | 0 => ctx.objectToHost fun _ => Crossing.abort .nestedTooDeep
  | depth + 1 => ctx.objectToHost (ctx.sequenceToHost (ctx.elementToHost (toHostWithin depth)))

def toHost (object : Ref) : Crossing Value :=
  ctx.toHostWithin (ctx.nesting + 1) object

end Context
end ForeignBridge
