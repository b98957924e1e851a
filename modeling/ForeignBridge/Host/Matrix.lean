import ForeignBridge.Host.Error

/-!
# Matrices

Homogeneous arrays of scalars in row-major order.  A matrix carries the proofs that its dimensions
are not empty, that their product is the number of elements, and that every element has the kind
of the matrix.  An array with at most two dimensions other than one has a two-dimensional view.
-/

namespace ForeignBridge

def elementCount (dims : List Nat) : Nat := dims.foldr (· * ·) 1

structure Matrix where
  kind : NumericKind
  dims : List Nat
  elements : List Scalar
  dims_ne_nil : dims ≠ []
  count_eq : elementCount dims = elements.length
  kind_eq : ∀ s ∈ elements, s.kind = kind
  deriving DecidableEq

namespace Matrix

/-- Rows of one length have as many elements as the dimensions say. -/
theorem elementCount_rows {α : Type} {rows : List (List α)} {columns : Nat}
    (h : ∀ row ∈ rows, row.length = columns) :
    elementCount [rows.length, columns] = rows.flatten.length := by
  have hcount : rows.flatten.length = rows.length * columns := by
    induction rows with
    | nil => simp
    | cons row rest ih =>
      have hrest := ih fun other hother => h other (List.mem_cons_of_mem row hother)
      rw [List.flatten_cons, List.length_append, hrest, h row List.mem_cons_self,
        List.length_cons, Nat.succ_mul, Nat.add_comm]
  rw [hcount]
  show rows.length * (columns * 1) = _
  rw [Nat.mul_one]

/-- The matrix of given elements.  The element count is checked before the element kinds. -/
def ofElements (kind : NumericKind) (dims : List Nat) (elements : List Scalar) :
    Except ConversionFault Matrix :=
  if hcount : dims ≠ [] ∧ elementCount dims = elements.length then
    if hkind : ∀ s ∈ elements, s.kind = kind then
      .ok ⟨kind, dims, elements, hcount.1, hcount.2, hkind⟩
    else
      let stranger := elements.find? (fun s => s.kind != kind)
      .error (.elementKind ((stranger.map Scalar.kind).getD kind) kind)
  else .error (.elementCount dims elements.length)

/-- The two-dimensional matrix of given rows, which must have one length. -/
def ofRows (kind : NumericKind) (rows : List (List Scalar)) : Except ConversionFault Matrix :=
  let columns := (rows.head?.map List.length).getD 0
  if rows.all (fun row => row.length == columns) then
    ofElements kind [rows.length, columns] rows.flatten
  else .error .raggedRows

/-- The two-dimensional matrix of doubles in row-major order. -/
def ofDoubles (rows columns : Nat) (elements : List Double) : Except ConversionFault Matrix :=
  ofElements .double [rows, columns] (elements.map fun x => .real (.double x))

def empty : Matrix := ⟨.double, [0, 0], [], by simp, rfl, by simp⟩

def size (m : Matrix) : Nat := m.elements.length

/-- The rows and columns of an array with at most two dimensions other than one.  Leaving out the
dimensions that are one does not change the order of the elements. -/
def shape? (m : Matrix) : Option (Nat × Nat) :=
  match m.dims with
  | [n] => some (1, n)
  | [r, c] => some (r, c)
  | dims =>
    match dims.filter (· != 1) with
    | [] => some (1, 1)
    | [n] => some (1, n)
    | [r, c] => some (r, c)
    | _ => none

def get? (m : Matrix) (row column : Nat) : Option Scalar :=
  match m.shape? with
  | some (rows, columns) =>
    if row < rows ∧ column < columns then m.elements[row * columns + column]? else none
  | none => none

/-- The rows of a list of elements, `columns` of them in each. -/
def rowsOf (columns : Nat) : Nat → List Scalar → List (List Scalar)
  | 0, _ => []
  | rows + 1, elements => elements.take columns :: rowsOf columns rows (elements.drop columns)

def rows? (m : Matrix) : Option (List (List Scalar)) :=
  m.shape?.map fun (rows, columns) => rowsOf columns rows m.elements

/-- Matrices are equal if their kinds, dimensions and elements are. -/
def eq (m n : Matrix) : Bool :=
  m.kind == n.kind && m.dims == n.dims && m.elements.length == n.elements.length
    && (m.elements.zip n.elements).all fun (s, t) => s.eq t

def text (m : Matrix) : String :=
  "[" ++ "x".intercalate (m.dims.map toString) ++ " " ++ m.kind.name ++ "]"

end Matrix
end ForeignBridge
