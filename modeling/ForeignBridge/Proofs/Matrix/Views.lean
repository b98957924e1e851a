import ForeignBridge.Proofs.Matrix.Indices

/-!
# Arrays and their views

A matrix is made exactly of parts that fit together.  It has a view with rows and columns exactly if
no more than two dimensions matter, and the view shows every element at the coordinates that its index
has along these dimensions.
-/

namespace ForeignBridge
namespace Matrix

/-!
# Parts
-/

/-- The parts of a matrix fit together. -/
structure Regular (kind : NumericKind) (dims : List Nat) (elements : List Scalar) : Prop where
  dims_ne_nil : dims ≠ []
  product : elementCount dims = elements.length
  kinds : ∀ s ∈ elements, s.kind = kind

/-- A matrix is made if something holds, and it has given parts, which fit together. -/
structure Makes (possible : Prop) (kind : NumericKind) (dims : List Nat) (elements : List Scalar)
    (made : Except ConversionFault Matrix) : Prop where
  accepts : (∃ m, made = .ok m) ↔ possible
  gives : ∀ m, made = .ok m → m.kind = kind ∧ m.dims = dims ∧ m.elements = elements ∧
    Regular kind dims elements

theorem makes_ofElements (kind : NumericKind) (dims : List Nat) (elements : List Scalar) :
    Makes (Regular kind dims elements) kind dims elements (ofElements kind dims elements) := by
  by_cases h : Regular kind dims elements
  · have hmade : ofElements kind dims elements =
        .ok ⟨kind, dims, elements, h.dims_ne_nil, h.product, h.kinds⟩ := by
      unfold ofElements
      rw [dif_pos ⟨h.dims_ne_nil, h.product⟩, dif_pos h.kinds]
    rw [hmade]
    constructor
    case accepts => exact ⟨fun _ => h, fun _ => ⟨_, rfl⟩⟩
    case gives =>
      rintro m ⟨⟩
      exact ⟨rfl, rfl, rfl, h⟩
  · have hrefused : ∃ fault, ofElements kind dims elements = .error fault := by
      unfold ofElements
      split
      · rename_i hcount
        rw [dif_neg fun hkinds => h ⟨hcount.1, hcount.2, hkinds⟩]
        exact ⟨_, rfl⟩
      · exact ⟨_, rfl⟩
    rcases hrefused with ⟨fault, hfault⟩
    rw [hfault]
    constructor
    case accepts =>
      constructor
      · rintro ⟨_, ⟨⟩⟩
      · exact fun h' => absurd h' h
    case gives => exact nofun

/-- Rows make a matrix if they have one length and hold nothing but elements of the kind. -/
theorem makes_ofRows (kind : NumericKind) (rows : List (List Scalar)) :
    Makes
      ((∀ row ∈ rows, row.length = (rows.head?.map List.length).getD 0) ∧
        ∀ row ∈ rows, ∀ s ∈ row, s.kind = kind)
      kind [rows.length, (rows.head?.map List.length).getD 0] rows.flatten (ofRows kind rows) := by
  unfold ofRows
  dsimp only
  generalize (rows.head?.map List.length).getD 0 = columns
  by_cases hall : ∀ row ∈ rows, row.length = columns
  · have hfits : rows.all (fun row => row.length == columns) = true := by
      rw [List.all_eq_true]
      exact fun row hrow => beq_iff_eq.2 (hall row hrow)
    have hmade := makes_ofElements kind [rows.length, columns] rows.flatten
    rw [if_pos hfits]
    constructor
    case accepts =>
      rw [hmade.accepts]
      constructor
      · intro h
        exact ⟨hall, fun row hrow s hs => h.kinds s (List.mem_flatten.2 ⟨row, hrow, hs⟩)⟩
      · rintro ⟨-, hkinds⟩
        refine ⟨List.cons_ne_nil _ _, elementCount_rows hall, fun s hs => ?_⟩
        rcases List.mem_flatten.1 hs with ⟨row, hrow, hs⟩
        exact hkinds row hrow s hs
    case gives => exact hmade.gives
  · have hragged : ¬ rows.all (fun row => row.length == columns) = true := by
      rw [List.all_eq_true]
      exact fun h => hall fun row hrow => beq_iff_eq.1 (h row hrow)
    rw [if_neg hragged]
    constructor
    case accepts =>
      constructor
      · rintro ⟨_, ⟨⟩⟩
      · exact fun h => absurd h.1 hall
    case gives => exact nofun

theorem makes_ofDoubles (rows columns : Nat) (elements : List Double) :
    Makes (rows * columns = elements.length) .double [rows, columns]
      (elements.map fun x => .real (.double x)) (ofDoubles rows columns elements) := by
  have hmade := makes_ofElements .double [rows, columns]
    (elements.map fun x => .real (.double x))
  have hproduct : elementCount [rows, columns] = rows * columns := by
    show rows * (columns * 1) = _
    rw [Nat.mul_one]
  constructor
  case accepts =>
    unfold ofDoubles
    rw [hmade.accepts]
    constructor
    · intro h
      rw [← hproduct, h.product, List.length_map]
    · intro h
      refine ⟨List.cons_ne_nil _ _, ?_, fun s hs => ?_⟩
      · rw [hproduct, h, List.length_map]
      · rcases List.mem_map.1 hs with ⟨x, -, rfl⟩
        rfl
  case gives => exact hmade.gives

theorem makes_empty : Makes True .double [0, 0] [] (.ok empty) := by
  have hempty : ofDoubles 0 0 [] = .ok empty := rfl
  have hmade := makes_ofDoubles 0 0 []
  rw [hempty] at hmade
  constructor
  case accepts => exact ⟨fun _ => trivial, fun _ => ⟨_, rfl⟩⟩
  case gives => exact hmade.gives

/-- A matrix as a bridge makes it of sequences: two-dimensional, of doubles, and of fitting parts. -/
def Flat (m : Matrix) : Prop :=
  ∃ rows columns, m.kind = .double ∧ m.dims = [rows, columns] ∧
    Regular .double [rows, columns] m.elements

theorem flat_of_ofDoubles {m : Matrix} {rows columns : Nat} {elements : List Double}
    (h : ofDoubles rows columns elements = .ok m) : m.Flat := by
  rcases (makes_ofDoubles rows columns elements).gives m h with ⟨hkind, hdims, helements, hregular⟩
  rw [← helements] at hregular
  exact ⟨rows, columns, hkind, hdims, hregular⟩

theorem flat_empty : empty.Flat := by
  have hmade : ofDoubles 0 0 [] = .ok empty := rfl
  exact flat_of_ofDoubles hmade

/-!
# Views
-/

/-- The dimensions of the view of an array. -/
def viewDims (dims : List Nat) : List Nat :=
  if dims.length ≤ 2 then dims else dims.filter (· != 1)

/-- Rows and columns, of which there is one where a dimension is missing. -/
def paired? : List Nat → Option (Nat × Nat)
  | [] => some (1, 1)
  | [n] => some (1, n)
  | [r, c] => some (r, c)
  | _ => none

/-- What an index has along the dimensions of the view. -/
def viewIndex (dims index : List Nat) : List Nat :=
  if dims.length ≤ 2 then index else significant dims index

/-- A row and a column, which are zero where they are missing. -/
def padded : List Nat → Nat × Nat
  | [] => (0, 0)
  | [column] => (0, column)
  | row :: column :: _ => (row, column)

/-- The coordinates of an index in the view: its own, if there are at most two, and otherwise those
along dimensions other than one, with zeros before them. -/
def coordinates (dims index : List Nat) : Nat × Nat := padded (viewIndex dims index)

variable {m : Matrix} {rows columns : Nat} {dims index : List Nat}

theorem shape?_eq (m : Matrix) : m.shape? = paired? (viewDims m.dims) := by
  have hne := m.dims_ne_nil
  unfold shape? viewDims
  match hdims : m.dims with
  | [] => exact absurd hdims hne
  | [_] | [_, _] => rfl
  | _ :: _ :: _ :: _ =>
      rw [if_neg (by simp)]
      rfl

theorem isSome_paired? (view : List Nat) : (paired? view).isSome = true ↔ view.length ≤ 2 := by
  match view with
  | [] | [_] | [_, _] => simp [paired?]
  | _ :: _ :: _ :: _ => simp [paired?]

/-- There is a view if at most two dimensions matter. -/
theorem isSome_shape? (m : Matrix) :
    m.shape?.isSome = true ↔ m.dims.length ≤ 2 ∨ (m.dims.filter (· != 1)).length ≤ 2 := by
  rw [shape?_eq, isSome_paired?]
  unfold viewDims
  split
  · rename_i hfew
    exact ⟨fun _ => .inl hfew, fun _ => hfew⟩
  · rename_i hmany
    exact ⟨.inr, fun h => h.resolve_left hmany⟩

theorem elementCount_viewDims (dims : List Nat) : elementCount (viewDims dims) = elementCount dims := by
  unfold viewDims
  split
  · rfl
  · exact elementCount_filter dims

theorem elementCount_of_paired? {view : List Nat} (h : paired? view = some (rows, columns)) :
    elementCount view = rows * columns := by
  match view with
  | [] =>
      cases h
      rfl
  | [n] =>
      cases h
      exact Nat.mul_comm columns 1
  | [r, c] =>
      cases h
      exact congrArg (rows * ·) (Nat.mul_one columns)
  | _ :: _ :: _ :: _ => cases h

/-- The view has exactly the elements of the matrix. -/
theorem length_of_shape? (h : m.shape? = some (rows, columns)) :
    m.elements.length = rows * columns := by
  rw [shape?_eq] at h
  rw [← m.count_eq, ← elementCount_viewDims, elementCount_of_paired? h]

theorem get?_of_shape? (h : m.shape? = some (rows, columns)) (row column : Nat) :
    m.get? row column =
      if row < rows ∧ column < columns then m.elements[row * columns + column]? else none := by
  unfold get?
  rw [h]

/-- Every place in the view is one in the matrix. -/
theorem place_lt {row column : Nat} (h : m.shape? = some (rows, columns)) (hrow : row < rows)
    (hcolumn : column < columns) : row * columns + column < m.elements.length := by
  have hblock := Nat.mul_le_mul_right columns (Nat.succ_le_of_lt hrow)
  rw [Nat.succ_mul] at hblock
  rw [length_of_shape? h]
  omega

/-!
# Positions
-/

theorem within_viewIndex (h : Within index dims) :
    Within (viewIndex dims index) (viewDims dims) ∧
      offset (viewDims dims) (viewIndex dims index) = offset dims index := by
  unfold viewIndex viewDims
  split
  · exact ⟨h, rfl⟩
  · exact within_significant h

theorem offset_of_paired? {view parts : List Nat} (h : Within parts view)
    (hview : paired? view = some (rows, columns)) :
    (padded parts).1 < rows ∧ (padded parts).2 < columns ∧
      (padded parts).1 * columns + (padded parts).2 = offset view parts := by
  match h with
  | .nil =>
      cases hview
      exact ⟨Nat.one_pos, Nat.one_pos, rfl⟩
  | .cons (a := column) hcolumn .nil =>
      cases hview
      refine ⟨Nat.one_pos, hcolumn, ?_⟩
      show 0 * columns + column = column * 1 + 0
      omega
  | .cons (a := row) hrow (.cons (a := column) hcolumn .nil) =>
      cases hview
      refine ⟨hrow, hcolumn, ?_⟩
      show row * columns + column = row * (columns * 1) + (column * 1 + 0)
      rw [Nat.mul_one, Nat.mul_one]
      rfl
  | .cons _ (.cons _ (.cons _ _)) => cases hview

/-- An index stands in the view where it stands in the array. -/
theorem offset_coordinates (h : Within index dims)
    (hview : paired? (viewDims dims) = some (rows, columns)) :
    (coordinates dims index).1 < rows ∧ (coordinates dims index).2 < columns ∧
      (coordinates dims index).1 * columns + (coordinates dims index).2 = offset dims index := by
  rcases within_viewIndex h with ⟨hwithin, hoffset⟩
  rw [← hoffset]
  exact offset_of_paired? hwithin hview

/-- The view shows all elements, in the order of their indices. -/
theorem map_coordinates_indices (h : m.shape?.isSome = true) :
    (indices m.dims).map (fun index =>
      m.get? (coordinates m.dims index).1 (coordinates m.dims index).2) = m.elements.map some := by
  rcases Option.isSome_iff_exists.1 h with ⟨⟨rows, columns⟩, hshape⟩
  have hplace : ∀ index ∈ indices m.dims,
      m.get? (coordinates m.dims index).1 (coordinates m.dims index).2 =
        m.elements[offset m.dims index]? := by
    intro index hindex
    have hview := hshape
    rw [shape?_eq] at hview
    rcases offset_coordinates (mem_indices.1 hindex) hview with ⟨hrow, hcolumn, hoffset⟩
    rw [get?_of_shape? hshape, if_pos ⟨hrow, hcolumn⟩, hoffset]
  calc
    _ = (indices m.dims).map fun index => m.elements[offset m.dims index]? :=
      List.map_congr_left hplace
    _ = ((indices m.dims).map (offset m.dims)).map fun place => m.elements[place]? :=
      (List.map_map).symm
    _ = (List.range m.elements.length).map fun place => m.elements[place]? := by
      rw [map_offset_indices, m.count_eq]
    _ = m.elements.map some := by
      apply List.ext_getElem
      · rw [List.length_map, List.length_range, List.length_map]
      · intro place hplace _
        rw [List.length_map, List.length_range] at hplace
        rw [List.getElem_map, List.getElem_range, List.getElem_map, List.getElem?_eq_getElem hplace]

/-- A matrix has a view exactly if at most two of its dimensions matter.  The view has all elements,
shows nothing beyond them, and shows each of them where its index is. -/
structure Viewed (m : Matrix) : Prop where
  exists_iff : m.shape?.isSome = true ↔
    m.dims.length ≤ 2 ∨ (m.dims.filter (· != 1)).length ≤ 2
  count : ∀ rows columns, m.shape? = some (rows, columns) → rows * columns = m.elements.length
  inside : ∀ rows columns, m.shape? = some (rows, columns) →
    ∀ row column, row < rows → column < columns →
      ∃ s, m.elements[row * columns + column]? = some s ∧ m.get? row column = some s
  outside : ∀ rows columns, m.shape? = some (rows, columns) →
    ∀ row column, ¬ (row < rows ∧ column < columns) → m.get? row column = none
  nowhere : m.shape? = none → ∀ row column, m.get? row column = none
  positions : m.shape?.isSome = true → (indices m.dims).map (fun index =>
    m.get? (coordinates m.dims index).1 (coordinates m.dims index).2) = m.elements.map some

theorem viewed (m : Matrix) : Viewed m where
  exists_iff := isSome_shape? m
  count _ _ h := (length_of_shape? h).symm
  inside rows columns h row column hrow hcolumn := by
    have hlt := place_lt h hrow hcolumn
    rw [get?_of_shape? h, if_pos ⟨hrow, hcolumn⟩, List.getElem?_eq_getElem hlt]
    exact ⟨_, rfl, rfl⟩
  outside rows columns h row column hbeyond := by
    rw [get?_of_shape? h, if_neg hbeyond]
  nowhere h row column := by
    unfold get?
    rw [h]
  positions := map_coordinates_indices

end Matrix
end ForeignBridge
