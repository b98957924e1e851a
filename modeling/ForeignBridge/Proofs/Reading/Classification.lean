import ForeignBridge.Host.Value
import ForeignBridge.Simulation.Runtime

/-!
# What the host sees of an object

The value of an object can be read off the heap, without asking for anything and without an owner of
anything.  A number that carries a kind keeps it, text has to be well formed, and what is neither a
plain value nor a sequence is a handle.  A sequence is a matrix if it is a rectangle of numbers, and
otherwise a cell, in which the sequences of sequences are placeholders.

No object is looked at that is deeper than two levels, so a sequence may well contain itself.
-/

namespace ForeignBridge
namespace Simulation

/-- The object behind a reference; a dead one counts as null. -/
def contentOf (h : Heap Object) (ref : Ref) : Object := (h.get? ref).getD .null

/-!
# Numbers
-/

/-- An integer of the kind that it carries, or of kind `int64`, if that kind holds it. -/
def hostInt (value : Int) (tag : Option NumericKind) : Except BridgeError HostInt :=
  if fits : (tag.getD .int64).Holds value then .ok ⟨tag.getD .int64, value, fits⟩
  else .error (.overflow (toString value) (tag.getD .int64).name)

/-- A float is a double unless it is tagged as a single. -/
def hostFloat (x : Double) : Option NumericKind → HostFloat
  | some .single => .single (x.convert .binary32)
  | _ => .double x

namespace Object

/-- The double that a number is widened to. -/
def widened : Object → Double
  | bool b => Binary.ofInt (if b then 1 else 0)
  | int value _ => Binary.ofInt value
  | float x tag => (hostFloat x tag).toDouble
  | _ => Binary.zero

/-- The error of an integer that its kind does not hold. -/
def overflow? : Object → Option BridgeError
  | int value tag =>
    match hostInt value tag with
    | .ok _ => none
    | .error error => some error
  | _ => none

end Object

/-!
# Names
-/

variable (h : Heap Object)

/-- The name of an object's type, which for an instance is that of its class. -/
def typeText (ref : Ref) : String :=
  match (contentOf h ref).class? with
  | some cls =>
    match contentOf h cls with
    | .classOf name _ => name
    | other => other.builtinType
  | none => (contentOf h ref).builtinType

/-- The name that an object goes by: its own one, or else that of its type.  A bound method goes by
the name of its function. -/
def nameText (ref : Ref) : String :=
  let target := match contentOf h ref with
    | .boundMethod _ function => function
    | _ => ref
  (contentOf h target).ownName?.getD (typeText h ref)

/-- The name that a handle displays. -/
def className (ref : Ref) : String :=
  if (nameText h ref).isEmpty then "object" else nameText h ref

/-!
# Values
-/

/-- The value of an object that is no sequence. -/
def plainValue (context : Nat) (ref : Ref) : Except BridgeError Value :=
  match contentOf h ref with
  | .null => .ok .undefined
  | .bool b => .ok (.scalar (.bool b))
  | .int value tag => (hostInt value tag).map fun i => .scalar (.int i)
  | .float x tag => .ok (.scalar (.real (hostFloat x tag)))
  | .bytes octets =>
    ((Utf8.decode octets).mapError fun fault => .typeConversion (.malformedText fault)).map .text
  | .text chars => .ok (.text chars)
  | .units codes =>
    match Utf16.decode? codes with
    | some text => .ok (.text text)
    | none =>
      .error (.typeConversion
        (.unencodable (some ⟨"UnicodeEncodeError", "surrogates not allowed"⟩)))
  | _ => .ok (.foreign ⟨context, ref, className h ref⟩)

/-- Rows of numbers, all of one length. -/
structure Rectangle where
  rows : List (List Ref)
  columns : Nat
  length_eq : ∀ row ∈ rows, row.length = columns
  numeric : ∀ row ∈ rows, ∀ ref ∈ row, (contentOf h ref).kind.isNumeric = true

/-- The matrix of the numbers of a rectangle, row by row and widened to doubles, or the error of the
first of them that does not fit. -/
def Rectangle.matrix {h : Heap Object} (r : Rectangle h) : Except BridgeError Matrix :=
  let leaves := r.rows.flatten.map (contentOf h)
  match leaves.findSome? Object.overflow? with
  | some error => .error error
  | none => .ok {
      kind := .double
      dims := [r.rows.length, r.columns]
      elements := leaves.map fun leaf => .real (.double leaf.widened)
      dims_ne_nil := nofun
      count_eq := by
        rw [Matrix.elementCount_rows r.length_eq, List.length_map, List.length_map]
      kind_eq := by
        intro s hs
        rcases List.mem_map.1 hs with ⟨leaf, -, hleaf⟩
        rw [← hleaf]
        rfl }

/-- The items of objects that are all sequences. -/
def rows? (refs : List Ref) : Option (List (List Ref)) :=
  refs.mapM fun ref => (contentOf h ref).items?

/-- The length of the first of some rows. -/
def widthOf (rows : List (List Ref)) : Nat := (rows.head?.map List.length).getD 0

/-- The rectangle of objects that are sequences of one length and hold only numbers. -/
def rectangle? (refs : List Ref) : Option (Rectangle h) :=
  match rows? h refs with
  | some rows =>
    if fits : (∀ row ∈ rows, row.length = widthOf rows) ∧
        ∀ row ∈ rows, ∀ ref ∈ row, (contentOf h ref).kind.isNumeric = true then
      some ⟨rows, widthOf rows, fits.1, fits.2⟩
    else none
  | none => none

/-- The value of an item of a sequence.  If it is a sequence itself its items are converted, unless
there is a sequence among them. -/
def elementValue (context : Nat) (ref : Ref) : Except BridgeError Value :=
  match (contentOf h ref).items? with
  | some items =>
    if items.any fun item => (contentOf h item).items?.isSome then
      .ok (.cell (List.replicate items.length .undefined))
    else (items.mapM (plainValue h context)).map .cell
  | none => plainValue h context ref

/-- The value of a sequence of objects; of several items that have none the first is reported. -/
def sequenceValue (context : Nat) (autoconversion : Bool) (items : List Ref) :
    Except BridgeError Value :=
  if autoconversion then
    if items.isEmpty then .ok (.matrix .empty)
    else
      match rectangle? h items with
      | some r => r.matrix.map .matrix
      | none => (items.mapM (elementValue h context)).map .cell
  else (items.mapM (elementValue h context)).map .cell

/-- The value of an object. -/
def hostValue (context : Nat) (autoconversion : Bool) (ref : Ref) : Except BridgeError Value :=
  match (contentOf h ref).items? with
  | some items => sequenceValue h context autoconversion items
  | none => plainValue h context ref

end Simulation
end ForeignBridge
