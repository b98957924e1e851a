import ForeignBridge.Proofs.Matrix.Views
import ForeignBridge.Proofs.Reading.Rectangles
import ForeignBridge.Proofs.RoundTrip.Rectangles

/-!
# Values that were read

What an object is read as is in normal form.  A cell that the host was given is never a rectangle of
numbers, because it would have been read as a matrix; its elements are lists of values that are no
lists, or of placeholders; and a matrix that the host was given is two-dimensional and of doubles.
-/

namespace ForeignBridge

/-!
# Rows of a matrix
-/

namespace Matrix

theorem length_rowsOf (columns rows : Nat) (elements : List Scalar) :
    (rowsOf columns rows elements).length = rows := by
  induction rows generalizing elements with
  | zero => rfl
  | succ rows ih =>
      rw [rowsOf, List.length_cons, ih]

/-- If there are elements enough, every row is full and nothing of the rows is lost. -/
theorem rowsOf_full {columns rows : Nat} {elements : List Scalar}
    (h : elements.length = rows * columns) :
    (∀ row ∈ rowsOf columns rows elements, row.length = columns) ∧
      (rowsOf columns rows elements).flatten = elements := by
  induction rows generalizing elements with
  | zero =>
      rw [Nat.zero_mul] at h
      rw [List.eq_nil_of_length_eq_zero h]
      exact ⟨nofun, rfl⟩
  | succ rows ih =>
      rw [Nat.succ_mul] at h
      have hdrop : (elements.drop columns).length = rows * columns := by
        rw [List.length_drop, h, Nat.add_sub_cancel]
      rcases ih hdrop with ⟨hlengths, hflatten⟩
      constructor
      · intro row hrow
        rcases List.mem_cons.1 hrow with hfirst | hrest
        · rw [hfirst, List.length_take, h]
          exact Nat.min_eq_left (Nat.le_add_left _ _)
        · exact hlengths row hrest
      · rw [rowsOf, List.flatten_cons, hflatten, List.take_append_drop]

theorem length_elements {m : Matrix} {rows columns : Nat} (hdims : m.dims = [rows, columns]) :
    m.elements.length = rows * columns := by
  rw [← m.count_eq, hdims]
  show rows * (columns * 1) = _
  rw [Nat.mul_one]

theorem ofElements_self (m : Matrix) : ofElements m.kind m.dims m.elements = .ok m := by
  unfold ofElements
  rw [dif_pos ⟨m.dims_ne_nil, m.count_eq⟩, dif_pos m.kind_eq]

/-- A two-dimensional matrix is made of its rows, of which there has to be one to tell their
length. -/
theorem ofRows_rowsOf {m : Matrix} {rows columns : Nat} (hdims : m.dims = [rows + 1, columns]) :
    ofRows m.kind (rowsOf columns (rows + 1) m.elements) = .ok m := by
  rcases rowsOf_full (length_elements hdims) with ⟨hfull, hflatten⟩
  have hcolumns : ((rowsOf columns (rows + 1) m.elements).head?.map List.length).getD 0 =
      columns := hfull _ List.mem_cons_self
  have hall : (rowsOf columns (rows + 1) m.elements).all (fun row => row.length == columns) =
      true := by
    rw [List.all_eq_true]
    exact fun row hrow => beq_iff_eq.2 (hfull row hrow)
  unfold ofRows
  dsimp only
  rw [hcolumns, hall, if_pos rfl, length_rowsOf, hflatten, ← hdims]
  exact ofElements_self m

end Matrix

namespace Value

/-!
# Names of handles

The displayed names of handles have no part in the normal form of a value.
-/

theorem anonymousAll_eq_map (values : List Value) : anonymousAll values = values.map anonymous := by
  induction values with
  | nil => rfl
  | cons v rest ih => rw [anonymousAll, ih, List.map_cons]

theorem anonymous_ofScalarRows (rows : List (List Scalar)) :
    (ofScalarRows rows).anonymous = ofScalarRows rows := by
  have hrow : ∀ row : List Scalar, (cell (row.map scalar)).anonymous = cell (row.map scalar) := by
    intro row
    rw [anonymous, anonymousAll_eq_map, List.map_map]
    rfl
  unfold ofScalarRows
  rw [anonymous, anonymousAll_eq_map, List.map_map]
  exact congrArg cell (List.map_congr_left fun row _ => hrow row)

mutual

theorem spread_anonymous (v : Value) : v.anonymous.spread = v.spread.anonymous := by
  cases v with
  | cell items =>
      rw [anonymous, spread, spread, anonymous, spreadAll_anonymousAll items]
  | matrix m =>
      rw [anonymous, spread]
      · exact (anonymous_ofScalarRows _).symm
      all_goals exact nofun
  | undefined | scalar _ | text _ | foreign _ => rfl

theorem spreadAll_anonymousAll (values : List Value) :
    spreadAll (anonymousAll values) = anonymousAll (spreadAll values) := by
  cases values with
  | nil => rfl
  | cons v rest =>
      rw [anonymousAll, spreadAll, spreadAll, anonymousAll, spread_anonymous v,
        spreadAll_anonymousAll rest]

end

theorem scalar?_anonymous (v : Value) : v.anonymous.scalar? = v.scalar? := by
  cases v <;> rfl

theorem items?_anonymous (v : Value) : v.anonymous.items? = v.items?.map anonymousAll := by
  cases v <;> rfl

theorem numbers?_anonymous (v : Value) : v.anonymous.numbers? = v.numbers? := by
  cases v with
  | cell items =>
      show (anonymousAll items).mapM scalar? = items.mapM scalar?
      rw [anonymousAll_eq_map, List.mapM_map]
      exact congrArg (List.mapM · items) (funext scalar?_anonymous)
  | _ => rfl

theorem rectangle?_anonymousAll (items : List Value) :
    rectangle? (anonymousAll items) = rectangle? items := by
  have hrows : scalarRows? (anonymousAll items) = scalarRows? items := by
    unfold scalarRows?
    rw [anonymousAll_eq_map, List.mapM_map]
    exact congrArg (List.mapM · items) (funext numbers?_anonymous)
  unfold rectangle?
  rw [hrows]

theorem normalElement_anonymous (v : Value) :
    v.anonymous.normalElement = v.normalElement.anonymous := by
  cases v with
  | cell items =>
      have hany : (anonymousAll items).any (fun item => item.items?.isSome) =
          items.any fun item => item.items?.isSome := by
        rw [anonymousAll_eq_map, List.any_map]
        refine congrArg (List.any items) (funext fun item => ?_)
        show item.anonymous.items?.isSome = _
        rw [items?_anonymous, Option.isSome_map]
      rw [anonymous, normalElement, normalElement, hany]
      split
      · rw [anonymous, anonymousAll_eq_map, anonymousAll_eq_map, List.map_replicate,
          List.length_map]
        rfl
      · rw [anonymous]
  | _ => rfl

theorem normalList_anonymousAll (autoconversion : Bool) (items : List Value) :
    normalList autoconversion (anonymousAll items) =
      (normalList autoconversion items).anonymous := by
  have hcell : cell ((anonymousAll items).map normalElement) =
      (cell (items.map normalElement)).anonymous := by
    rw [anonymous, anonymousAll_eq_map, anonymousAll_eq_map, List.map_map, List.map_map]
    exact congrArg cell (List.map_congr_left fun v _ => normalElement_anonymous v)
  have hempty : (anonymousAll items).isEmpty = items.isEmpty := by
    rw [anonymousAll_eq_map, List.isEmpty_map]
  unfold normalList
  rw [hempty, rectangle?_anonymousAll, hcell]
  split
  · split
    · rfl
    · cases rectangle? items <;> rfl
  · rfl

theorem normal_anonymous (autoconversion : Bool) (v : Value) :
    v.anonymous.normal autoconversion = (v.normal autoconversion).anonymous := by
  unfold normal
  rw [spread_anonymous]
  cases v.spread with
  | cell items => exact normalList_anonymousAll autoconversion items
  | _ => rfl

/-- Values with the same parts have normal forms with the same parts. -/
theorem anonymous_normal {autoconversion : Bool} {v w : Value} (h : w.anonymous = v.anonymous) :
    (w.normal autoconversion).anonymous = (v.normal autoconversion).anonymous := by
  rw [← normal_anonymous, h, normal_anonymous]

/-!
# Values that are their own normal form
-/

/-- A value that is no list and no matrix. -/
def IsPlain (v : Value) : Prop := v.items? = none ∧ v.matrices = []

/-- A value that stays as it is inside a list. -/
def IsElement (v : Value) : Prop :=
  v.IsPlain ∨ ∃ items, v = cell items ∧ ∀ item ∈ items, item.IsPlain

theorem IsPlain.spread {v : Value} (hv : v.IsPlain) : v.spread = v := by
  cases v with
  | cell items => cases hv.1
  | matrix m => cases hv.2
  | _ => rfl

theorem IsPlain.normal {v : Value} (hv : v.IsPlain) (autoconversion : Bool) :
    v.normal autoconversion = v := by
  unfold Value.normal
  rw [hv.spread]
  cases v with
  | cell items => cases hv.1
  | _ => rfl

theorem spreadAll_eq_self {values : List Value} (h : ∀ v ∈ values, v.spread = v) :
    spreadAll values = values := by
  induction values with
  | nil => rfl
  | cons v rest ih =>
      rw [spreadAll, h v List.mem_cons_self, ih fun w hw => h w (List.mem_cons_of_mem v hw)]

namespace IsElement

variable {v : Value}

theorem spread (hv : v.IsElement) : v.spread = v := by
  rcases hv with hplain | ⟨items, hitems, hplain⟩
  · exact hplain.spread
  · rw [hitems, Value.spread, spreadAll_eq_self fun item hitem => (hplain item hitem).spread]

theorem normalElement (hv : v.IsElement) : v.normalElement = v := by
  rcases hv with hplain | ⟨items, hitems, hplain⟩
  · cases v with
    | cell items => cases hplain.1
    | _ => rfl
  · have hany : items.any (fun item => item.items?.isSome) = false := by
      rw [List.any_eq_false]
      intro item hitem
      rw [(hplain item hitem).1]
      exact Bool.false_ne_true
    rw [hitems, Value.normalElement, hany, if_neg Bool.false_ne_true]

theorem matrices (hv : v.IsElement) : v.matrices = [] := by
  rcases hv with hplain | ⟨items, hitems, hplain⟩
  · exact hplain.2
  · rw [hitems, Value.matrices, matricesAll_eq_flatMap]
    exact List.flatMap_eq_nil_iff.2 fun item hitem => (hplain item hitem).2

end IsElement

/-- A cell of elements stays as it is, unless it is taken for a matrix. -/
theorem normal_cell {autoconversion : Bool} {values : List Value}
    (hvalues : ∀ v ∈ values, v.IsElement)
    (hcell : autoconversion = true → values ≠ [] ∧ rectangle? values = none) :
    (cell values).normal autoconversion = cell values := by
  have helements : values.map Value.normalElement = values :=
    List.map_congr_left (fun v hv => (hvalues v hv).normalElement) |>.trans (List.map_id values)
  unfold normal
  rw [spread, spreadAll_eq_self fun v hv => (hvalues v hv).spread]
  show normalList autoconversion values = _
  unfold normalList
  rw [helements]
  cases autoconversion with
  | false => rfl
  | true =>
      rcases hcell rfl with ⟨hne, hnone⟩
      rw [if_pos rfl, hnone, if_neg]
      rw [List.isEmpty_iff]
      exact hne

/-- A list in which each value is what the other one holds. -/
theorem mapM_map_some {α β : Type} {f : β → Option α} {g : α → β} (h : ∀ a, f (g a) = some a)
    (xs : List α) : (xs.map g).mapM f = some xs := by
  have hpure : xs.mapM (fun a => (pure (id a) : Option α)) = pure (xs.map id) := List.mapM_pure
  rw [List.map_id] at hpure
  rw [List.mapM_map, show f ∘ g = fun a => pure (id a) from funext h]
  exact hpure

theorem scalarRows?_ofScalarRows (rows : List (List Scalar)) :
    scalarRows? (rows.map fun row => cell (row.map scalar)) = some rows := by
  have hrow : ∀ row : List Scalar, (cell (row.map scalar)).numbers? = some row :=
    mapM_map_some (f := scalar?) fun _ => rfl
  exact mapM_map_some hrow rows

/-- A matrix of doubles that has a row is the one that the list of its rows is taken for. -/
theorem normal_matrix {m : Matrix} {rows columns : Nat} (hkind : m.kind = .double)
    (hdims : m.dims = [rows + 1, columns]) : (matrix m).normal true = matrix m := by
  have hlist : m.rows? = some (Matrix.rowsOf columns (rows + 1) m.elements) := by
    unfold Matrix.rows? Matrix.shape?
    rw [hdims]
    rfl
  have hmatrix := Matrix.ofRows_rowsOf hdims
  rw [hkind] at hmatrix
  rcases Matrix.rowsOf_full (Matrix.length_elements hdims) with ⟨-, hflatten⟩
  -- To widen the elements changes nothing: they are doubles.
  have hwidened : (Matrix.rowsOf columns (rows + 1) m.elements).map
      (·.map fun s => Scalar.real (.double s.toDouble)) =
        Matrix.rowsOf columns (rows + 1) m.elements := by
    refine (List.map_congr_left fun row hrow => ?_).trans (List.map_id _)
    refine (List.map_congr_left fun s hs => ?_).trans (List.map_id _)
    have hdouble : s.kind = .double := by
      rw [← hkind]
      apply m.kind_eq
      rw [← hflatten]
      exact List.mem_flatten_of_mem hrow hs
    cases s with
    | bool _ => cases hdouble
    | int i => exact absurd i.fits.1 (by rw [show i.kind = .double from hdouble]; exact nofun)
    | real x =>
        cases x with
        | single _ => cases hdouble
        | double _ => rfl
  have hrectangle : rectangle? ((Matrix.rowsOf columns (rows + 1) m.elements).map fun row =>
      cell (row.map scalar)) = some m := by
    unfold rectangle?
    rw [scalarRows?_ofScalarRows, Option.bind_some, hwidened, hmatrix]
    rfl
  unfold normal
  rw [spread, hlist]
  show normalList true ((Matrix.rowsOf columns (rows + 1) m.elements).map _) = _
  unfold normalList
  rw [hrectangle]
  rfl

end Value

/-!
# What objects are read as
-/

theorem exists_of_map_ok {ε α β : Type} {f : α → β} {given : Except ε α} {b : β}
    (h : given.map f = .ok b) : ∃ a, given = .ok a ∧ f a = b := by
  cases given with
  | error error => cases h
  | ok a =>
      cases h
      exact ⟨a, rfl, rfl⟩

/-- What a list is converted to, one by one. -/
theorem forall₂_of_mapM {ε α β : Type} {read : α → Except ε β} {xs : List α} {ys : List β}
    (h : xs.mapM read = .ok ys) : List.Forall₂ (fun x y => read x = .ok y) xs ys := by
  induction xs generalizing ys with
  | nil =>
      cases h
      exact .nil
  | cons x rest ih =>
      rw [List.mapM_cons] at h
      cases hfirst : read x with
      | error error =>
          rw [hfirst] at h
          cases h
      | ok y =>
          cases hrest : rest.mapM read with
          | error error =>
              rw [hfirst, hrest] at h
              cases h
          | ok others =>
              rw [hfirst, hrest] at h
              cases h
              exact .cons hfirst (ih hrest)

namespace Simulation

variable {h : Heap Object} {context : Nat} {ref : Ref} {v : Value}

/-- The handles in a value belong to a bridge and are of opaque objects. -/
def SealedIn (h : Heap Object) (context : Nat) (v : Value) : Prop :=
  ∀ handle ∈ v.handles, handle.context = context ∧
    ∃ object, h.get? handle.ref = some object ∧ object.IsOpaque

/-- What an object that is no sequence is read as. -/
structure Leaf (h : Heap Object) (context : Nat) (ref : Ref) (v : Value) : Prop where
  plain : v.IsPlain
  numeric : v.scalar?.isSome = true → (contentOf h ref).kind.isNumeric = true
  sealedIn : SealedIn h context v

theorem leaf_plainValue (hitems : (contentOf h ref).items? = none)
    (hv : plainValue h context ref = .ok v) : Leaf h context ref v := by
  have hhandle : (contentOf h ref).IsOpaque → ∀ name,
      Leaf h context ref (.foreign ⟨context, ref, name⟩) := by
    intro hsealed name
    refine ⟨⟨rfl, rfl⟩, nofun, fun handle hmem => ?_⟩
    rw [List.mem_singleton.1 hmem]
    refine ⟨rfl, contentOf h ref, ?_, hsealed⟩
    unfold contentOf at hsealed ⊢
    cases hget : h.get? ref with
    | some object => rfl
    | none =>
        rw [hget] at hsealed
        rcases hsealed with hkind | hkind
        · cases hkind
        · cases hkind
  unfold plainValue at hv
  cases hcontent : contentOf h ref with
  | null | text _ =>
      rw [hcontent] at hv
      cases hv
      exact ⟨⟨rfl, rfl⟩, nofun, nofun⟩
  | bool _ | float _ _ =>
      rw [hcontent] at hv
      cases hv
      exact ⟨⟨rfl, rfl⟩, fun _ => by rw [hcontent]; rfl, nofun⟩
  | int value tag =>
      rw [hcontent] at hv
      rcases exists_of_map_ok hv with ⟨i, -, hi⟩
      rw [← hi]
      exact ⟨⟨rfl, rfl⟩, fun _ => by rw [hcontent]; rfl, nofun⟩
  | bytes octets =>
      rw [hcontent] at hv
      rcases exists_of_map_ok hv with ⟨text, -, htext⟩
      rw [← htext]
      exact ⟨⟨rfl, rfl⟩, nofun, nofun⟩
  | units codes =>
      rw [hcontent] at hv
      dsimp only at hv
      cases hcodes : Utf16.decode? codes with
      | none =>
          rw [hcodes] at hv
          cases hv
      | some text =>
          rw [hcodes] at hv
          cases hv
          exact ⟨⟨rfl, rfl⟩, nofun, nofun⟩
  | tuple _ | list _ =>
      rw [hcontent] at hitems
      cases hitems
  | bag _ =>
      rw [hcontent] at hv
      cases hv
      exact hhandle (.inl (by rw [hcontent]; rfl)) _
  | moduleOf _ _ | classOf _ _ | instanceOf _ _ | function _ _ | boundMethod _ _ =>
      rw [hcontent] at hv
      cases hv
      exact hhandle (.inr (by rw [hcontent]; rfl)) _

theorem sealedIn_cell {values : List Value} (hvalues : ∀ v ∈ values, SealedIn h context v) :
    SealedIn h context (.cell values) := by
  intro handle hmem
  rw [Value.handles, Value.handlesAll_eq_flatMap] at hmem
  rcases List.mem_flatMap.1 hmem with ⟨v, hv, hhandle⟩
  exact hvalues v hv handle hhandle

theorem isPlain_undefined : Value.undefined.IsPlain := ⟨rfl, rfl⟩

/-- The items of a sequence that holds no sequence are leaves. -/
theorem leaves_of_mapM {items : List Ref} {values : List Value}
    (hflat : items.any (fun item => (contentOf h item).items?.isSome) = false)
    (hvalues : items.mapM (plainValue h context) = .ok values) :
    List.Forall₂ (Leaf h context) items values := by
  have hnone : ∀ item ∈ items, (contentOf h item).items? = none := fun item hitem =>
    Option.not_isSome_iff_eq_none.1 (List.any_eq_false.1 hflat item hitem)
  have hboth := (List.forall₂_and_left _ _).2 ⟨hnone, forall₂_of_mapM hvalues⟩
  exact hboth.imp fun item v hitem => leaf_plainValue hitem.1 hitem.2

theorem exists_of_forall₂ {α β : Type} {p : α → β → Prop} {xs : List α} {ys : List β}
    (h : List.Forall₂ p xs ys) {y : β} (hy : y ∈ ys) : ∃ x ∈ xs, p x y := by
  induction h with
  | nil => cases hy
  | @cons x z xs zs hfirst _ ih =>
      rcases List.mem_cons.1 hy with hhead | htail
      · exact ⟨x, List.mem_cons_self, hhead ▸ hfirst⟩
      · rcases ih htail with ⟨other, hother, hp⟩
        exact ⟨other, List.mem_cons_of_mem x hother, hp⟩

/-- What an item of a sequence is read as. -/
theorem isElement_elementValue (hv : elementValue h context ref = .ok v) :
    v.IsElement ∧ SealedIn h context v := by
  unfold elementValue at hv
  cases hitems : (contentOf h ref).items? with
  | none =>
      rw [hitems] at hv
      have hleaf := leaf_plainValue hitems hv
      exact ⟨.inl hleaf.plain, hleaf.sealedIn⟩
  | some items =>
      rw [hitems] at hv
      dsimp only at hv
      split at hv
      · cases hv
        refine ⟨.inr ⟨_, rfl, fun item hitem => ?_⟩, sealedIn_cell fun item hitem => ?_⟩
        · rw [List.eq_of_mem_replicate hitem]
          exact isPlain_undefined
        · rw [List.eq_of_mem_replicate hitem]
          exact nofun
      · rename_i hflat
        rcases exists_of_map_ok hv with ⟨values, hvalues, hcell⟩
        have hleaves := leaves_of_mapM (Bool.eq_false_iff.2 hflat) hvalues
        rw [← hcell]
        refine ⟨.inr ⟨_, rfl, fun v hv => ?_⟩, sealedIn_cell fun v hv => ?_⟩
        · rcases exists_of_forall₂ hleaves hv with ⟨item, -, hleaf⟩
          exact hleaf.plain
        · rcases exists_of_forall₂ hleaves hv with ⟨item, -, hleaf⟩
          exact hleaf.sealedIn

/-!
# Cells are no rectangles
-/

/-- Leaves that are read as numbers are numbers. -/
theorem numeric_of_scalars {leaves : List Ref} {values : List Value} {row : List Scalar}
    (hleaves : List.Forall₂ (Leaf h context) leaves values)
    (hrow : values.mapM Value.scalar? = some row) :
    leaves.length = row.length ∧ ∀ leaf ∈ leaves, (contentOf h leaf).kind.isNumeric = true := by
  induction hleaves generalizing row with
  | nil =>
      cases hrow
      exact ⟨rfl, nofun⟩
  | @cons leaf v leaves values hleaf _ ih =>
      rw [List.mapM_cons] at hrow
      rcases Option.bind_eq_some_iff.1 hrow with ⟨s, hs, htail⟩
      rcases Option.bind_eq_some_iff.1 htail with ⟨others, hothers, hpure⟩
      cases hpure
      rcases ih hothers with ⟨hlength, hnumeric⟩
      refine ⟨by rw [List.length_cons, List.length_cons, hlength], fun other hother => ?_⟩
      rcases List.mem_cons.1 hother with hhead | hrest
      · rw [hhead]
        exact hleaf.numeric (by rw [hs]; rfl)
      · exact hnumeric other hrest

/-- An item that is read as a row of numbers is a sequence of numbers.  Placeholders are none, and
an item that gets some is not empty. -/
theorem exists_leaves {row : List Scalar} (hv : elementValue h context ref = .ok v)
    (hrow : v.numbers? = some row) :
    ∃ leaves, (contentOf h ref).items? = some leaves ∧ leaves.length = row.length ∧
      ∀ leaf ∈ leaves, (contentOf h leaf).kind.isNumeric = true := by
  unfold elementValue at hv
  cases hitems : (contentOf h ref).items? with
  | none =>
      rw [hitems] at hv
      unfold Value.numbers? at hrow
      rw [(leaf_plainValue hitems hv).plain.1] at hrow
      cases hrow
  | some items =>
      rw [hitems] at hv
      dsimp only at hv
      split at hv
      · rename_i hnested
        cases items with
        | nil => cases hnested
        | cons first rest =>
            cases hv
            cases hrow
      · rename_i hflat
        rcases exists_of_map_ok hv with ⟨values, hvalues, hcell⟩
        rw [← hcell] at hrow
        exact ⟨items, rfl,
          numeric_of_scalars (leaves_of_mapM (Bool.eq_false_iff.2 hflat) hvalues) hrow⟩

theorem exists_rows {items : List Ref} {values : List Value} {rows : List (List Scalar)}
    (hvalues : List.Forall₂ (fun item v => elementValue h context item = .ok v) items values)
    (hrows : Value.scalarRows? values = some rows) :
    ∃ leaves, rows? h items = some leaves ∧ leaves.map List.length = rows.map List.length ∧
      ∀ row ∈ leaves, ∀ leaf ∈ row, (contentOf h leaf).kind.isNumeric = true := by
  induction hvalues generalizing rows with
  | nil =>
      cases hrows
      exact ⟨[], rfl, rfl, nofun⟩
  | @cons item v items values hv _ ih =>
      rw [Value.scalarRows?_cons] at hrows
      rcases Option.bind_eq_some_iff.1 hrows with ⟨row, hrow, htail⟩
      rcases Option.map_eq_some_iff.1 htail with ⟨others, hothers, hcons⟩
      rcases exists_leaves hv hrow with ⟨first, hfirst, hlength, hnumeric⟩
      rcases ih hothers with ⟨leaves, hleaves, hlengths, hall⟩
      refine ⟨first :: leaves, ?_, ?_, ?_⟩
      · unfold rows? at hleaves ⊢
        rw [List.mapM_cons, hfirst, hleaves]
        rfl
      · rw [← hcons, List.map_cons, List.map_cons, hlength, hlengths]
      · intro row hmem
        rcases List.mem_cons.1 hmem with hhead | hrest
        · rw [hhead]
          exact hnumeric
        · exact hall row hrest

/-- A list whose items are read as the rows of a matrix is a rectangle of numbers. -/
theorem rectangle?_isSome {items : List Ref} {values : List Value} {m : Matrix}
    (hvalues : List.Forall₂ (fun item v => elementValue h context item = .ok v) items values)
    (hm : Value.rectangle? values = some m) : (rectangle? h items).isSome = true := by
  rw [Value.rectangle?_eq, Value.fittingRows?_none] at hm
  rcases Option.bind_eq_some_iff.1 hm with ⟨rows, hrows, -⟩
  rcases Option.filter_eq_some_iff.1 hrows with ⟨hscalars, hlengths⟩
  rcases exists_rows hvalues hscalars with ⟨leaves, hleaves, hmap, hnumeric⟩
  have hcolumns : widthOf leaves = Value.columnsOf rows := by
    unfold widthOf Value.columnsOf
    rw [← List.head?_map, ← List.head?_map, hmap]
  have hfull : ∀ row ∈ leaves, row.length = widthOf leaves := by
    intro row hrow
    have hlength : row.length ∈ rows.map List.length := by
      rw [← hmap]
      exact List.mem_map_of_mem hrow
    rcases List.mem_map.1 hlength with ⟨scalars, hscalars, hsame⟩
    rw [← hsame, hcolumns]
    exact beq_iff_eq.1 (List.all_eq_true.1 hlengths scalars hscalars)
  unfold rectangle?
  rw [hleaves]
  dsimp only
  rw [dif_pos ⟨hfull, hnumeric⟩]
  rfl

/-!
# What was read is in normal form
-/

/-- Of a value that was read: it is its own normal form, its matrices have two dimensions, and its
handles belong to the bridge and are of opaque objects. -/
structure SettledIn (h : Heap Object) (context : Nat) (autoconversion : Bool) (v : Value) :
    Prop where
  normal : v.normal autoconversion = v
  shapes : ∀ m ∈ v.matrices, m.shape?.isSome
  sealedIn : SealedIn h context v

theorem settledIn_cell {autoconversion : Bool} {items : List Ref} {values : List Value}
    (hvalues : items.mapM (elementValue h context) = .ok values)
    (hcell : autoconversion = true → items ≠ [] ∧ rectangle? h items = none) :
    SettledIn h context autoconversion (.cell values) := by
  have heach := forall₂_of_mapM hvalues
  have hread : ∀ v ∈ values, v.IsElement ∧ SealedIn h context v := by
    intro v hv
    rcases exists_of_forall₂ heach hv with ⟨item, -, hitem⟩
    exact isElement_elementValue hitem
  refine ⟨Value.normal_cell (fun v hv => (hread v hv).1) fun hauto => ?_, fun m hm => ?_,
    sealedIn_cell fun v hv => (hread v hv).2⟩
  · rcases hcell hauto with ⟨hne, hnone⟩
    constructor
    · intro hnil
      rw [hnil] at heach
      exact hne (List.forall₂_nil_right_iff.1 heach)
    · cases hm : Value.rectangle? values with
      | none => rfl
      | some m =>
          have hsome := rectangle?_isSome heach hm
          rw [hnone] at hsome
          cases hsome
  · rw [Value.matrices, Value.matricesAll_eq_flatMap] at hm
    rcases List.mem_flatMap.1 hm with ⟨v, hv, hmatrix⟩
    rw [(hread v hv).1.matrices] at hmatrix
    cases hmatrix

/-- A rectangle is read as a matrix of doubles with its rows and columns. -/
theorem dims_of_matrix {r : Rectangle h} {m : Matrix} (hm : r.matrix = .ok m) :
    m.kind = .double ∧ m.dims = [r.rows.length, r.columns] := by
  unfold Rectangle.matrix at hm
  dsimp only at hm
  split at hm
  · cases hm
  · cases hm
    exact ⟨rfl, rfl⟩

theorem length_of_rectangle? {items : List Ref} {r : Rectangle h}
    (hr : rectangle? h items = some r) : r.rows.length = items.length := by
  unfold rectangle? at hr
  cases hrows : rows? h items with
  | none =>
      rw [hrows] at hr
      cases hr
  | some rows =>
      rw [hrows] at hr
      dsimp only at hr
      split at hr
      · cases hr
        exact length_of_rows? h hrows
      · cases hr

/-- The value of an object is in normal form. -/
theorem settledIn_hostValue {autoconversion : Bool}
    (hv : hostValue h context autoconversion ref = .ok v) :
    SettledIn h context autoconversion v := by
  unfold hostValue at hv
  cases hitems : (contentOf h ref).items? with
  | none =>
      rw [hitems] at hv
      have hleaf := leaf_plainValue hitems hv
      refine ⟨hleaf.plain.normal autoconversion, fun m hm => ?_, hleaf.sealedIn⟩
      rw [hleaf.plain.2] at hm
      cases hm
  | some items =>
      rw [hitems] at hv
      dsimp only at hv
      unfold sequenceValue at hv
      cases autoconversion with
      | false =>
          rcases exists_of_map_ok hv with ⟨values, hvalues, hcell⟩
          rw [← hcell]
          exact settledIn_cell hvalues nofun
      | true =>
          rw [if_pos rfl] at hv
          cases items with
          | nil =>
              cases hv
              refine ⟨rfl, fun m hm => ?_, nofun⟩
              rw [List.mem_singleton.1 hm]
              rfl
          | cons first rest =>
              rw [List.isEmpty_cons, if_neg Bool.false_ne_true] at hv
              cases hr : rectangle? h (first :: rest) with
              | none =>
                  rw [hr] at hv
                  rcases exists_of_map_ok hv with ⟨values, hvalues, hcell⟩
                  rw [← hcell]
                  exact settledIn_cell hvalues fun _ => ⟨nofun, hr⟩
              | some r =>
                  rw [hr] at hv
                  rcases exists_of_map_ok hv with ⟨m, hm, hmatrix⟩
                  have hlength : r.rows.length = rest.length + 1 := length_of_rectangle? hr
                  rcases dims_of_matrix hm with ⟨hkind, hdims⟩
                  rw [hlength] at hdims
                  rw [← hmatrix]
                  refine ⟨Value.normal_matrix hkind hdims, fun other hother => ?_, nofun⟩
                  rw [List.mem_singleton.1 hother]
                  unfold Matrix.shape?
                  rw [hdims]
                  rfl

end Simulation
end ForeignBridge
