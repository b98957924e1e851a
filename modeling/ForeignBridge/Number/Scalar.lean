import ForeignBridge.Number.Kind
import ForeignBridge.Number.Shortest

/-!
# Scalars

Numbers of the host language: integers of a fixed kind, which carry the proof that they lie in its
range, floats of either precision, and logical values.  A scalar is built from an integer or a
double only if it can hold it exactly, with two exceptions: a float takes the nearest value, and a
logical scalar the truth of the number.
-/

namespace ForeignBridge

structure HostInt where
  kind : NumericKind
  value : Int
  fits : kind.Holds value
  deriving DecidableEq

inductive HostFloat where
  | single (x : Single)
  | double (x : Double)
  deriving DecidableEq

inductive Scalar where
  | bool (b : Bool)
  | int (i : HostInt)
  | real (x : HostFloat)
  deriving DecidableEq

/-! ## Failures -/

/-- A number that a conversion was asked for. -/
inductive Numeral where
  | integer (value : Int)
  | double (x : Double)
  deriving DecidableEq

namespace Numeral

def text : Numeral → String
  | integer value => toString value
  | double x => x.text

end Numeral

/-- The family of kinds that a constructor takes. -/
inductive NumberFamily where
  | integer
  | float
  deriving DecidableEq, Repr

namespace NumberFamily

def name : NumberFamily → String
  | integer => "integer"
  | float => "float"

end NumberFamily

inductive NumericFault where
  | overflow (value : Numeral) (target : NumericKind)
  | inexact (value : Numeral) (target : NumericKind)
  | kindMismatch (expected : NumberFamily) (got : NumericKind)
  deriving DecidableEq

namespace NumericFault

def message : NumericFault → String
  | overflow value target => s!"Overflow: {value.text} does not fit in {target.name}"
  | inexact value target =>
    s!"Inexact conversion: {value.text} is not representable as {target.name}"
  | kindMismatch expected got => s!"Kind mismatch: expected {expected.name}, got {got.name}"

end NumericFault

/-! ## Integers -/

namespace HostInt

/-- The integer of a kind and value, if the kind is an integer kind that holds the value. -/
def ofInt (kind : NumericKind) (value : Int) : Except NumericFault HostInt :=
  if kind.isInteger then
    if fits : kind.Holds value then .ok ⟨kind, value, fits⟩
    else .error (.overflow (.integer value) kind)
  else .error (.kindMismatch .integer kind)

def toDouble (i : HostInt) : Double := Binary.ofInt i.value

def text (i : HostInt) : String := toString i.value

end HostInt

/-! ## Floats -/

namespace HostFloat

def kind : HostFloat → NumericKind
  | single _ => .single
  | double _ => .double

def toDouble : HostFloat → Double
  | single x => x.convert .binary64
  | double x => x

def text : HostFloat → String
  | single x => x.text
  | double x => x.text

/-- Numbers compare by value within one kind; different kinds are never equal. -/
def eq : HostFloat → HostFloat → Bool
  | single x, single y => x.eq y
  | double x, double y => x.eq y
  | _, _ => false

def greatestSingle : Double :=
  Binary.convert .binary64
    (Binary.ofCode (F := .binary32) false (BinaryFormat.infinity .binary32 - 1))

/-- The float of a kind nearest to a double, if the kind is a float kind and the double does not
exceed its greatest finite number. -/
def ofDouble (kind : NumericKind) (x : Double) : Except NumericFault HostFloat :=
  match kind with
  | .double => .ok (double x)
  | .single =>
    if x.isFinite && (greatestSingle.lt x || x.lt greatestSingle.neg) then
      .error (.overflow (.double x) .single)
    else .ok (single (x.convert .binary32))
  | _ => .error (.kindMismatch .float kind)

end HostFloat

/-! ## Scalars -/

/-- The range of a signed word of 128 bits, the widest integer that a conversion passes on. -/
def clampWide (value : Int) : Int := max (-0x80000000000000000000000000000000)
    (min value 0x7fffffffffffffffffffffffffffffff)

namespace Scalar

def kind : Scalar → NumericKind
  | bool _ => .logical
  | int i => i.kind
  | real x => x.kind

def toDouble : Scalar → Double
  | bool b => Binary.ofInt (if b then 1 else 0)
  | int i => i.toDouble
  | real x => x.toDouble

def text : Scalar → String
  | bool b => if b then "true" else "false"
  | int i => i.text
  | real x => x.text

def eq : Scalar → Scalar → Bool
  | bool a, bool b => a == b
  | int i, int j => i == j
  | real x, real y => x.eq y
  | _, _ => false

/-- The scalar of a kind for an integer.  A single is reached through the nearest double. -/
def ofInt (kind : NumericKind) (value : Int) : Except NumericFault Scalar :=
  if kind.isInteger then (HostInt.ofInt kind value).map int
  else if kind.isFloat then (HostFloat.ofDouble kind (Binary.ofInt value)).map real
  else .ok (bool (value != 0))

/-- The scalar of a kind for a double.  An integral double beyond 128 bits is passed on as the
nearest end of that range. -/
def ofDouble (kind : NumericKind) (x : Double) : Except NumericFault Scalar :=
  if kind.isFloat then (HostFloat.ofDouble kind x).map real
  else if kind.isInteger then
    match x.integer? with
    | some value => (HostInt.ofInt kind (clampWide value)).map int
    | none => .error (.inexact (.double x) kind)
  else .ok (bool !x.isZero)

end Scalar
end ForeignBridge
