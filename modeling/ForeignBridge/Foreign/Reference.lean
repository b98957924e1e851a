/-!
# References to foreign objects

A reference is a number that a foreign runtime gives out for one of its objects.  It is never zero.
Beside it stand the kinds into which a runtime sorts its objects, and the diagnostic that it keeps
for a failure.
-/

namespace ForeignBridge

/-- The number by which a foreign runtime names an object. -/
structure Ref where
  id : Nat
  deriving DecidableEq, Repr

namespace Ref

/-- Zero names no object. -/
def ofBits? (bits : Nat) : Option Ref := if bits = 0 then none else some ⟨bits⟩

def text (ref : Ref) : String :=
  "RawRef(0x" ++ String.ofList (Nat.toDigits 16 ref.id) ++ ")"

end Ref

/-- What a foreign object is, as far as its conversion is concerned. -/
inductive ForeignKind where
  | null | bool | integer | float | bytes | unicode | sequence | attributeBag | object
  deriving DecidableEq, Repr

namespace ForeignKind

def all : List ForeignKind :=
  [null, bool, integer, float, bytes, unicode, sequence, attributeBag, object]

def name : ForeignKind → String
  | null => "null"
  | bool => "bool"
  | integer => "integer"
  | float => "float"
  | bytes => "bytes"
  | unicode => "unicode"
  | sequence => "sequence"
  | attributeBag => "attribute-bag"
  | object => "object"

def ofName? (name : String) : Option ForeignKind := all.find? (·.name == name)

def isNumeric : ForeignKind → Bool
  | bool | integer | float => true
  | _ => false

def isString : ForeignKind → Bool
  | bytes | unicode => true
  | _ => false

end ForeignKind

/-- A pending failure of a foreign runtime: the name of its kind and what it says. -/
structure Diagnostic where
  kind : String
  message : String
  deriving DecidableEq, Repr

namespace Diagnostic

/-- The kind and the message, or the one of them that is not empty. -/
def text (d : Diagnostic) : String :=
  if d.kind.isEmpty then d.message
  else if d.message.isEmpty then d.kind
  else s!"{d.kind}: {d.message}"

end Diagnostic
end ForeignBridge
