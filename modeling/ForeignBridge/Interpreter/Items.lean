import ForeignBridge.Interpreter.Written

/-!
# Equality, items and arithmetic

Numbers of different types are equal if their values are, containers if their items are.  Items are
counted from zero, and a negative position counts from the end.
-/

namespace ForeignBridge

namespace Interpreter

/-! ## Equality -/

def floatIsInt (x : Double) (value : Int) : Bool :=
  x.isFinite && x.units? == some (value * Int.pow 2 (BinaryFormat.unitExponent .binary64))

/-- Whether two contents are equal, given the equality of what they contain; nothing if that
depends on the objects themselves. -/
def equalContents? (equal : Ref → Ref → Bool) : Content → Content → Option Bool
  | .null, .null => some true
  | .float x, .float y => some (x.eq y)
  | .text a, .text b => some (a == b)
  | .bytes a, .bytes b => some (a == b)
  | .tuple xs, .tuple ys | .list xs, .list ys =>
    some (xs.length == ys.length && (xs.zip ys).all fun (x, y) => equal x y)
  | .dict xs, .dict ys =>
    some (xs.length == ys.length && xs.all fun (key, value) =>
      ys.any fun (otherKey, other) => equal key otherKey && equal value other)
  | .float x, other => other.int?.map (floatIsInt x)
  | other, .float y => other.int?.map (floatIsInt y)
  | a, b =>
    match a.int?, b.int? with
    | some m, some n => some (m == n)
    | _, _ => none

/-- Whether two objects are equal, looking into containers down to a depth.  An object is equal to
itself, even if it holds not-a-number. -/
def equalWithin (heap : Heap Object) : Nat → Ref → Ref → Bool
  | 0, a, b => a == b
  | depth + 1, a, b =>
    a == b ||
      let equal? := equalContents? (equalWithin heap depth)
      (equal? ((heap.get? a).getD default).content ((heap.get? b).getD default).content).getD false

def equal (a b : Ref) : StateM Interpreter Bool := do return equalWithin (← get).heap 1000 a b

/-- An object in an object, looking into tuples, that cannot be a key because it can change. -/
def changeableWithin (heap : Heap Object) : Nat → Ref → Option Ref
  | 0, _ => none
  | depth + 1, ref =>
    match ((heap.get? ref).getD default).content with
    | .list _ | .dict _ => some ref
    | .tuple items => items.findSome? (changeableWithin heap depth)
    | _ => none

def checkKey (key : Ref) : Act Unit := do
  match changeableWithin (← get).heap 1000 key with
  | some culprit => raise "TypeError" s!"unhashable type: '{← typeName culprit}'"
  | none => return ()

/-! ## Dictionaries -/

def findEntry (key : Ref) (entries : List (Ref × Ref)) : StateM Interpreter (Option Ref) := do
  let heap := (← get).heap
  return (entries.find? fun entry => equalWithin heap 1000 entry.1 key).map Prod.snd

/-- Puts a value into a dictionary.  The key that is there already stays. -/
def insertEntry (dict key value : Ref) : StateM Interpreter Unit := do
  let found ← object dict
  match found.content with
  | .dict entries =>
    discard (retain value)
    match ← findEntry key entries with
    | some old =>
      let heap := (← get).heap
      let entries := entries.map fun entry =>
        if equalWithin heap 1000 entry.1 key then (entry.1, value) else entry
      setObject dict { found with content := .dict entries }
      release old
    | none =>
      discard (retain key)
      setObject dict { found with content := .dict (entries ++ [(key, value)]) }
  | _ => return ()

/-! ## Positions -/

def isWord (value : Int) : Bool := -0x8000000000000000 ≤ value && value < 0x8000000000000000

/-- The position that an index means in a sequence of a given length. -/
def positionIn (length : Nat) (index : Int) : Option Nat :=
  let index := if index < 0 then index + length else index
  if 0 ≤ index ∧ index < length then some index.toNat else none

def wordOf (key : Ref) (complaint : String) : Act Int := do
  match (← content key).int? with
  | none => raise "TypeError" complaint
  | some value =>
    if isWord value then return value
    else raise "IndexError" s!"cannot fit '{← typeName key}' into an index-sized integer"

def itemAt (sequence : Content) (index : Int) : Act Ref := do
  let missing : String → Act Ref := raise "IndexError"
  match sequence with
  | .text codes =>
    match (positionIn codes.length index).bind (codes[·]?) with
    | some code => make (.text [code])
    | none => missing "string index out of range"
  | .bytes octets =>
    match (positionIn octets.length index).bind (octets[·]?) with
    | some octet => make (.int octet.toNat)
    | none => missing "index out of range"
  | .tuple items =>
    match (positionIn items.length index).bind (items[·]?) with
    | some item => retain item
    | none => missing "tuple index out of range"
  | .list items =>
    match (positionIn items.length index).bind (items[·]?) with
    | some item => retain item
    | none => missing "list index out of range"
  | _ => missing "index out of range"

def indexComplaint (sequence : Content) (keyType : String) : String :=
  match sequence with
  | .text _ => s!"string indices must be integers, not '{keyType}'"
  | .bytes _ => s!"byte indices must be integers or slices, not {keyType}"
  | .tuple _ => s!"tuple indices must be integers or slices, not {keyType}"
  | _ => s!"list indices must be integers or slices, not {keyType}"

def itemOf (container : Content) (key : Ref) : Act Ref := do
  match container with
  | .dict entries =>
    checkKey key
    match ← findEntry key entries with
    | some value => retain value
    | none => raise "KeyError" (← written key)
  | sequence => itemAt sequence (← wordOf key (indexComplaint sequence (← typeName key)))

/-- Refuses to replace an item.  Sequences and instances of written classes look at the
key first. -/
def refuseItem (container key : Ref) : Act Unit := do
  let found ← object container
  let looks := found.cls.isSome || match found.content with
    | .text _ | .bytes _ | .tuple _ => true
    | _ => false
  if looks ∧ ((← content key).int?).any (!isWord ·) then
    raise "IndexError" s!"cannot fit '{← typeName key}' into an index-sized integer"
  else raise "TypeError" s!"'{← typeName container}' object does not support item assignment"

def setItem (container key value : Ref) : Act Unit := do
  let found ← object container
  match found.content with
  | .dict _ =>
    checkKey key
    insertEntry container key value
  | .list items =>
    let index ← wordOf key (indexComplaint found.content (← typeName key))
    match positionIn items.length index with
    | some position =>
      discard (retain value)
      setObject container { found with content := .list (items.set position value) }
      (items[position]?).forM fun old => release old
    | none => raise "IndexError" "list assignment index out of range"
  | _ => refuseItem container key

def sizeOf (ref : Ref) : Act Nat := do
  match (← content ref).size? with
  | some size => return size
  | none => raise "TypeError" s!"object of type '{← typeName ref}' has no len()"

/-! ## Arithmetic -/

def floatOfInt (value : Int) : Act Double := do
  let x : Double := Binary.ofInt value
  if x.isFinite then return x else raise "OverflowError" "int too large to convert to float"

def floatOf (ref : Ref) : Act Double := do
  match ← content ref with
  | .float x => return x
  | other =>
    match other.int? with
    | some value => floatOfInt value
    | none => raise "TypeError" s!"must be real number, not {← typeName ref}"

/-- A new reference to the sum or product of two numbers, if both are numbers. -/
def combineNumbers? (op : Operator) (a b : Content) : Act (Option Ref) := do
  let onInts : Int → Int → Int := match op with | .add => (· + ·) | .multiply => (· * ·)
  let onFloats : Double → Double → Double :=
    match op with | .add => Binary.add | .multiply => Binary.mul
  match a, b with
  | .float x, .float y => return some (← make (.float (onFloats x y)))
  | .float x, other =>
    match other.int? with
    | some n => return some (← make (.float (onFloats x (← floatOfInt n))))
    | none => return none
  | other, .float y =>
    match other.int? with
    | some m => return some (← make (.float (onFloats (← floatOfInt m) y)))
    | none => return none
  | a, b =>
    match a.int?, b.int? with
    | some m, some n => return some (← make (.int (onInts m n)))
    | _, _ => return none

/-- Two sequences of one type, one after the other. -/
def concatenated? : Content → Content → Option Content
  | .text a, .text b => some (.text (a ++ b))
  | .bytes a, .bytes b => some (.bytes (a ++ b))
  | .tuple a, .tuple b => some (.tuple (a ++ b))
  | .list a, .list b => some (.list (a ++ b))
  | _, _ => none

def repeated? (count : Nat) : Content → Option Content
  | .text a => some (.text (List.replicate count a).flatten)
  | .bytes a => some (.bytes (List.replicate count a).flatten)
  | .tuple a => some (.tuple (List.replicate count a).flatten)
  | .list a => some (.list (List.replicate count a).flatten)
  | _ => none

/-- A reference to an object of a new content, which refers to objects that are owned already. -/
def makeSharing (content : Content) : StateM Interpreter Ref := do
  retainAll ((content.items?).getD [])
  make content

def unsupported (op : Operator) (a b : Ref) : Act Ref := do
  raise "TypeError"
    s!"unsupported operand type(s) for {op.symbol}: '{← typeName a}' and '{← typeName b}'"

def addSequences (a b : Ref) : Act Ref := do
  let other ← typeName b
  match ← content a, ← content b with
  | left, right =>
    match concatenated? left right with
    | some both => makeSharing both
    | none =>
      match left with
      | .text _ => raise "TypeError" s!"can only concatenate str (not \"{other}\") to str"
      | .tuple _ => raise "TypeError" s!"can only concatenate tuple (not \"{other}\") to tuple"
      | .list _ => raise "TypeError" s!"can only concatenate list (not \"{other}\") to list"
      | .bytes _ => raise "TypeError" s!"can't concat {other} to bytes"
      | _ => unsupported .add a b

def repeatSequence (sequence : Content) (count : Ref) : Act Ref := do
  match (← content count).int? with
  | none => raise "TypeError" s!"can't multiply sequence by non-int of type '{← typeName count}'"
  | some n =>
    if !isWord n then
      raise "OverflowError" s!"cannot fit '{← typeName count}' into an index-sized integer"
    else if 0x100000000 < (sequence.size?).getD 0 * n.toNat then raise "MemoryError" ""
    else makeSharing ((repeated? n.toNat sequence).getD sequence)

def isSequence : Content → Bool
  | .text _ | .bytes _ | .tuple _ | .list _ => true
  | _ => false

def combine (op : Operator) (a b : Ref) : Act Ref := do
  let left ← content a
  let right ← content b
  match ← combineNumbers? op left right with
  | some result => return result
  | none =>
    match op with
    | .add => addSequences a b
    | .multiply =>
      if isSequence left then repeatSequence left b
      else if isSequence right then repeatSequence right a
      else unsupported op a b

def isAbove (a b : Ref) : Act Bool := do
  let refuse : Act Bool := do
    raise "TypeError" ("'>' not supported between instances of '" ++ (← typeName a) ++ "' and '"
      ++ (← typeName b) ++ "'")
  let units : Content → Option (Option Int) := fun
    | .float x => some x.units?
    | other => other.int?.map fun value =>
      some (value * Int.pow 2 (BinaryFormat.unitExponent .binary64))
  match units (← content a), units (← content b) with
  | some (some m), some (some n) => return n < m
  | some _, some _ => return false
  | _, _ => refuse

end Interpreter
end ForeignBridge
