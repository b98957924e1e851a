import ForeignBridge.Proofs.Crossing.Conversion

/-!
# Normal forms

What a host value becomes on its way to a runtime and back.  On the way there a cell and a matrix
are both read as lists; on the way back a list is classified by its shape.
-/

namespace ForeignBridge
namespace Value

/-!
# Parts of values
-/

mutual

/-- The matrices in a value, in order. -/
def matrices : Value → List Matrix
  | cell items => matricesAll items
  | matrix m => [m]
  | _ => []

def matricesAll : List Value → List Matrix
  | [] => []
  | x :: xs => x.matrices ++ matricesAll xs

end

mutual

/-- A value without the displayed names of its handles. -/
def anonymous : Value → Value
  | cell items => cell (anonymousAll items)
  | foreign h => foreign { h with className := "" }
  | v => v

def anonymousAll : List Value → List Value
  | [] => []
  | x :: xs => x.anonymous :: anonymousAll xs

end

def items? : Value → Option (List Value)
  | cell items => some items
  | _ => none

/-!
# Values as lists
-/

/-- A list of lists of scalars. -/
def ofScalarRows (rows : List (List Scalar)) : Value := cell (rows.map fun row => cell (row.map scalar))

mutual

/-- A value in which every matrix is the list of its rows, down to every depth. -/
def spread : Value → Value
  | cell items => cell (spreadAll items)
  | matrix m => ofScalarRows (m.rows?.getD [])
  | v => v

def spreadAll : List Value → List Value
  | [] => []
  | x :: xs => x.spread :: spreadAll xs

end

/-!
# Classification
-/

def numbers? (v : Value) : Option (List Scalar) := v.items?.bind (·.mapM scalar?)

/-- The numbers of a list of lists of scalars. -/
def scalarRows? (items : List Value) : Option (List (List Scalar)) := items.mapM numbers?

/-- The matrix of doubles that lists of one length form, if they hold only scalars. -/
def rectangle? (items : List Value) : Option Matrix :=
  (scalarRows? items).bind fun rows =>
    (Matrix.ofRows .double (rows.map (·.map fun s => .real (.double s.toDouble)))).toOption

/-- An element that is a list of lists becomes a cell of placeholders. -/
def normalElement : Value → Value
  | cell items =>
    if items.any fun item => item.items?.isSome then cell (List.replicate items.length undefined)
    else cell items
  | v => v

def normalList (autoconversion : Bool) (items : List Value) : Value :=
  if autoconversion then
    if items.isEmpty then matrix .empty
    else
      match rectangle? items with
      | some m => matrix m
      | none => cell (items.map normalElement)
  else cell (items.map normalElement)

/-- What a value becomes on its way to a runtime and back. -/
def normal (autoconversion : Bool) (v : Value) : Value :=
  match v.spread with
  | cell items => normalList autoconversion items
  | w => w

/-!
# Spread values

No matrix is left in a spread value, and its handles are the same.
-/

theorem matricesAll_eq_flatMap (values : List Value) :
    matricesAll values = values.flatMap matrices := by
  induction values with
  | nil => rfl
  | cons v rest ih => rw [matricesAll, ih, List.flatMap_cons]

theorem matrices_ofScalarRows (rows : List (List Scalar)) : (ofScalarRows rows).matrices = [] := by
  have hrow : ∀ row : List Scalar, matricesAll (row.map scalar) = [] := by
    intro row
    rw [matricesAll_eq_flatMap, List.flatMap_map]
    exact List.flatMap_eq_nil_iff.2 fun _ _ => rfl
  unfold ofScalarRows
  rw [matrices, matricesAll_eq_flatMap, List.flatMap_map]
  refine List.flatMap_eq_nil_iff.2 fun row _ => ?_
  rw [matrices, hrow]

theorem handles_ofScalarRows (rows : List (List Scalar)) : (ofScalarRows rows).handles = [] := by
  have hrow : ∀ row : List Scalar, handlesAll (row.map scalar) = [] := by
    intro row
    rw [handlesAll_eq_flatMap, List.flatMap_map]
    exact List.flatMap_eq_nil_iff.2 fun _ _ => rfl
  unfold ofScalarRows
  rw [handles, handlesAll_eq_flatMap, List.flatMap_map]
  refine List.flatMap_eq_nil_iff.2 fun row _ => ?_
  rw [handles, hrow]

mutual

theorem matrices_spread (v : Value) : v.spread.matrices = [] := by
  cases v with
  | cell items =>
      rw [spread, matrices]
      exact matricesAll_spreadAll items
  | matrix m =>
      rw [spread]
      exact matrices_ofScalarRows _
  | undefined | scalar _ | text _ | foreign _ => rfl

theorem matricesAll_spreadAll (values : List Value) : matricesAll (spreadAll values) = [] := by
  cases values with
  | nil => rfl
  | cons v rest =>
      rw [spreadAll, matricesAll, matrices_spread v, matricesAll_spreadAll rest]
      rfl

end

mutual

theorem handles_spread (v : Value) : v.spread.handles = v.handles := by
  cases v with
  | cell items =>
      rw [spread, handles, handles]
      exact handlesAll_spreadAll items
  | matrix m =>
      rw [spread, handles_ofScalarRows]
      rfl
  | undefined | scalar _ | text _ | foreign _ => rfl

theorem handlesAll_spreadAll (values : List Value) :
    handlesAll (spreadAll values) = handlesAll values := by
  cases values with
  | nil => rfl
  | cons v rest =>
      rw [spreadAll, handlesAll, handlesAll, handles_spread v, handlesAll_spreadAll rest]

end

end Value
end ForeignBridge
