import ForeignBridge.Host.Value

/-!
# Written values

How the host writes down a value: literals, cells, arrays to be checked, copies of variables.  A
number is checked against its kind and an array against its dimensions only when it is evaluated.
-/

namespace ForeignBridge

inductive ScalarForm where
  | bool (b : Bool)
  | integer (kind : NumericKind) (value : Int)
  | single (x : Single)
  | double (x : Double)

namespace ScalarForm

def evaluate : ScalarForm → Except NumericFault Scalar
  | bool b => .ok (.bool b)
  | integer kind value => (HostInt.ofInt kind value).map .int
  | single x => .ok (.real (.single x))
  | double x => .ok (.real (.double x))

end ScalarForm

inductive MatrixForm where
  | elements (kind : NumericKind) (dims : List Nat) (elements : List ScalarForm)
  | rows (kind : NumericKind) (rows : List (List ScalarForm))
  | doubles (rows columns : Nat) (elements : List Double)
  | empty

inductive FormFault where
  | numeric (fault : NumericFault)
  | conversion (fault : ConversionFault)

namespace MatrixForm

/-- The array, if its numbers and dimensions are right.  The numbers are checked first. -/
def evaluate : MatrixForm → Except FormFault Matrix
  | elements kind dims written => do
    let scalars ← (written.mapM ScalarForm.evaluate).mapError .numeric
    (Matrix.ofElements kind dims scalars).mapError .conversion
  | rows kind written => do
    let scalars ← (written.mapM (List.mapM ScalarForm.evaluate)).mapError .numeric
    (Matrix.ofRows kind scalars).mapError .conversion
  | doubles height width values => (Matrix.ofDoubles height width values).mapError .conversion
  | empty => .ok .empty

end MatrixForm

inductive ValueForm where
  | undefined
  | scalar (form : ScalarForm)
  | text (s : String)
  | cell (items : List ValueForm)
  | matrix (form : MatrixForm)
  | variable (name : String)
  /-- A cell of equal values. -/
  | repeated (count : Nat) (form : ValueForm)
  /-- A value inside a number of one-element cells. -/
  | nested (depth : Nat) (form : ValueForm)

end ForeignBridge
