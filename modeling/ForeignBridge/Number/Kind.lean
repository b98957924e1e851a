/-!
# Numeric kinds

The host language has eleven kinds of number: eight integer kinds of a fixed width, two floating
point kinds and the logical kind.  Each has a name, a width in bits, a one-letter code, and, if it
is an integer kind, a range that follows from its width and signedness.
-/

namespace ForeignBridge

/-- The kinds of number of the host language, in table order. -/
inductive NumericKind where
  | int8 | uint8 | int16 | uint16 | int32 | uint32 | int64 | uint64 | single | double | logical
  deriving DecidableEq, Repr

namespace NumericKind

structure Descriptor where
  name : String
  bits : Nat
  signed : Bool
  float : Bool
  code : Char
  deriving DecidableEq, Repr

def descriptor : NumericKind → Descriptor
  | int8 => ⟨"int8", 8, true, false, 'b'⟩
  | uint8 => ⟨"uint8", 8, false, false, 'B'⟩
  | int16 => ⟨"int16", 16, true, false, 'h'⟩
  | uint16 => ⟨"uint16", 16, false, false, 'H'⟩
  | int32 => ⟨"int32", 32, true, false, 'i'⟩
  | uint32 => ⟨"uint32", 32, false, false, 'I'⟩
  | int64 => ⟨"int64", 64, true, false, 'L'⟩
  | uint64 => ⟨"uint64", 64, false, false, 'K'⟩
  | single => ⟨"single", 32, true, true, 'f'⟩
  | double => ⟨"double", 64, true, true, 'd'⟩
  | logical => ⟨"logical", 1, false, false, '?'⟩

def all : List NumericKind :=
  [int8, uint8, int16, uint16, int32, uint32, int64, uint64, single, double, logical]

def name (kind : NumericKind) : String := kind.descriptor.name

def isFloat (kind : NumericKind) : Bool := kind.descriptor.float

/-- The integer kinds are those that are neither floating point nor logical. -/
def isInteger (kind : NumericKind) : Bool := !kind.isFloat && kind != logical

def ofName? (name : String) : Option NumericKind := all.find? (·.name == name)

def ofCode? (code : Char) : Option NumericKind := all.find? (·.descriptor.code == code)

/-! ## Ranges

A signed kind of `b` bits holds `-2^(b-1) … 2^(b-1) - 1`, an unsigned one `0 … 2^b - 1`.
-/

def least (kind : NumericKind) : Int :=
  if kind.descriptor.signed then -(Int.pow 2 (kind.descriptor.bits - 1)) else 0

def greatest (kind : NumericKind) : Int :=
  if kind.descriptor.signed then Int.pow 2 (kind.descriptor.bits - 1) - 1
  else Int.pow 2 kind.descriptor.bits - 1

def range? (kind : NumericKind) : Option (Int × Int) :=
  if kind.isInteger then some (kind.least, kind.greatest) else none

/-- An integer kind holds the values of its range, and no other kind holds an integer. -/
def Holds (kind : NumericKind) (value : Int) : Prop :=
  kind.isInteger = true ∧ kind.least ≤ value ∧ value ≤ kind.greatest

instance (kind : NumericKind) (value : Int) : Decidable (kind.Holds value) :=
  inferInstanceAs (Decidable (_ ∧ _ ∧ _))

theorem mem_all (kind : NumericKind) : kind ∈ all := by
  cases kind <;> decide

end NumericKind
end ForeignBridge
