import ForeignBridge.Proofs.RoundTrip.Packing

/-!
# Lists that become matrices

The rows of a list are borrowed one by one, until one of them is no list of numbers or has another
length than those before it.  What comes of it is the matrix that the list is by its shape.
-/

namespace ForeignBridge
namespace Value

/-!
# Rows of numbers
-/

theorem mapM_scalar?_of_all {values : List Value}
    (h : values.all (fun v => v.scalar?.isSome) = true) :
    ∃ row, values.mapM scalar? = some row ∧ values = row.map scalar := by
  induction values with
  | nil => exact ⟨[], rfl, rfl⟩
  | cons v rest ih =>
      rw [List.all_cons, Bool.and_eq_true] at h
      rcases ih h.2 with ⟨row, hrow, hrest⟩
      rcases Option.isSome_iff_exists.1 h.1 with ⟨s, hs⟩
      refine ⟨s :: row, ?_, ?_⟩
      · rw [List.mapM_cons, hs, hrow]
        rfl
      · cases v with
        | scalar t =>
            cases hs
            rw [List.map_cons, ← hrest]
        | _ => cases hs

theorem mapM_scalar?_of_not_all {values : List Value}
    (h : values.all (fun v => v.scalar?.isSome) = false) : values.mapM scalar? = none := by
  induction values with
  | nil => cases h
  | cons v rest ih =>
      rw [List.mapM_cons]
      cases hs : v.scalar? with
      | none => rfl
      | some s =>
          rw [List.all_cons, hs] at h
          rw [ih h]
          rfl

/-- The numbers of lists that fit together, the way they are looked for. -/
def fittingRows? (columns : Option Nat) : List Value → Option (List (List Scalar))
  | [] => some []
  | v :: rest =>
    v.numbers?.bind fun row =>
      if columns.getD row.length = row.length then
        (fittingRows? (some row.length) rest).map (row :: ·)
      else none

/-- Whether a list is a row of numbers that has the length of the rows before it. -/
def fits (columns : Option Nat) (items : List Value) : Bool :=
  decide (columns.getD items.length = items.length) && items.all fun v => v.scalar?.isSome

theorem fittingRows?_of_unfit {columns : Option Nat} {items : List Value} (rest : List Value)
    (h : fits columns items = false) : fittingRows? columns (cell items :: rest) = none := by
  have hnumbers : (cell items).numbers? = items.mapM scalar? := rfl
  unfold fittingRows?
  rw [hnumbers]
  unfold fits at h
  cases hall : items.all fun v => v.scalar?.isSome with
  | false =>
      rw [mapM_scalar?_of_not_all hall]
      rfl
  | true =>
      rw [hall, Bool.and_true, decide_eq_false_iff_not] at h
      rcases mapM_scalar?_of_all hall with ⟨row, hrow, hitems⟩
      have hlength : row.length = items.length := by rw [hitems, List.length_map]
      rw [hrow, Option.bind_some, hlength, if_neg h]

theorem fittingRows?_of_fits {columns : Option Nat} {items : List Value} (rest : List Value)
    (h : fits columns items = true) : ∃ row, items = row.map scalar ∧
      fittingRows? columns (cell items :: rest) =
        (fittingRows? (some row.length) rest).map (row :: ·) := by
  unfold fits at h
  rw [Bool.and_eq_true, decide_eq_true_iff] at h
  rcases mapM_scalar?_of_all h.2 with ⟨row, hrow, hitems⟩
  have hlength : row.length = items.length := by rw [hitems, List.length_map]
  have hnumbers : (cell items).numbers? = items.mapM scalar? := rfl
  refine ⟨row, hitems, ?_⟩
  rw [fittingRows?, hnumbers, hrow, Option.bind_some, if_pos]
  rw [hlength]
  exact h.1

theorem scalarRows?_cons (v : Value) (rest : List Value) :
    scalarRows? (v :: rest) =
      v.numbers?.bind fun row => (scalarRows? rest).map (row :: ·) := by
  unfold scalarRows?
  rw [List.mapM_cons]
  refine congrArg (Option.bind v.numbers?) (funext fun row => ?_)
  cases List.mapM numbers? rest with
  | none => rfl
  | some rows => rfl

theorem fittingRows?_some (columns : Nat) (values : List Value) :
    fittingRows? (some columns) values =
      (scalarRows? values).filter fun rows => rows.all fun row => row.length == columns := by
  induction values with
  | nil => rfl
  | cons v rest ih =>
      rw [scalarRows?_cons]
      unfold fittingRows?
      cases v.numbers? with
      | none => rfl
      | some row =>
          rw [Option.bind_some, Option.bind_some, Option.getD_some]
          by_cases hlength : columns = row.length
          · rw [if_pos hlength, ← hlength, ih]
            cases scalarRows? rest with
            | none => rfl
            | some rows =>
                rw [Option.map_some, Option.filter_some, Option.filter_some, List.all_cons,
                  ← hlength, beq_self_eq_true, Bool.true_and]
                split <;> rfl
          · rw [if_neg hlength]
            cases scalarRows? rest with
            | none => rfl
            | some rows =>
                have hbeq : (row.length == columns) = false := beq_false_of_ne (Ne.symm hlength)
                rw [Option.map_some, Option.filter_some, List.all_cons, hbeq, Bool.false_and]
                rfl

/-- The length of the first of some rows. -/
def columnsOf (rows : List (List Scalar)) : Nat := (rows.head?.map List.length).getD 0

/-- Lists fit together if they are of one length. -/
theorem fittingRows?_none (values : List Value) :
    fittingRows? none values =
      (scalarRows? values).filter fun rows =>
        rows.all fun row => row.length == columnsOf rows := by
  cases values with
  | nil => rfl
  | cons v rest =>
      rw [scalarRows?_cons]
      unfold fittingRows?
      cases v.numbers? with
      | none => rfl
      | some row =>
          rw [Option.bind_some, Option.bind_some, Option.getD_none, if_pos rfl, fittingRows?_some]
          cases scalarRows? rest with
          | none => rfl
          | some rows =>
              have hcolumns : columnsOf (row :: rows) = row.length := rfl
              rw [Option.map_some, Option.filter_some, Option.filter_some, hcolumns,
                List.all_cons, beq_self_eq_true, Bool.true_and]
              split <;> rfl

theorem length_of_scalarRows? {values : List Value} {rows : List (List Scalar)}
    (h : scalarRows? values = some rows) : values.length = rows.length := by
  induction values generalizing rows with
  | nil =>
      cases h
      rfl
  | cons v rest ih =>
      rw [scalarRows?_cons] at h
      rcases Option.bind_eq_some_iff.1 h with ⟨row, -, hmap⟩
      rcases Option.map_eq_some_iff.1 hmap with ⟨others, hothers, hrows⟩
      rw [← hrows, List.length_cons, List.length_cons, ih hothers]

theorem length_of_fittingRows? {values : List Value} {rows : List (List Scalar)}
    (h : fittingRows? none values = some rows) : values.length = rows.length := by
  rw [fittingRows?_none] at h
  exact length_of_scalarRows? (Option.filter_eq_some_iff.1 h).1

/-!
# The matrix of a list
-/

/-- The matrix of rows of numbers. -/
def widened (rows : List (List Scalar)) : Except ConversionFault Matrix :=
  Matrix.ofDoubles rows.length (columnsOf rows) (rows.flatten.map Scalar.toDouble)

theorem ofRows_widened (rows : List (List Scalar)) :
    Matrix.ofRows .double (rows.map (·.map fun s => .real (.double s.toDouble))) =
      if rows.all fun row => row.length == columnsOf rows then widened rows
      else .error .raggedRows := by
  have hcolumns : ((rows.map fun row : List Scalar =>
      row.map fun s => Scalar.real (.double s.toDouble)).head?.map List.length).getD 0 =
        columnsOf rows := by
    cases rows with
    | nil => rfl
    | cons row rest =>
        show (row.map _).length = row.length
        rw [List.length_map]
  unfold Matrix.ofRows
  dsimp only
  rw [hcolumns, List.all_map, List.length_map, ← List.map_flatten]
  unfold widened Matrix.ofDoubles
  rw [List.map_map]
  simp only [Function.comp_def, List.length_map]

theorem rectangle?_eq (values : List Value) :
    rectangle? values = (fittingRows? none values).bind fun rows => (widened rows).toOption := by
  unfold rectangle?
  rw [fittingRows?_none]
  cases scalarRows? values with
  | none => rfl
  | some rows =>
      rw [Option.bind_some, ofRows_widened, Option.filter_some]
      split
      · rfl
      · rfl

theorem exists_widened {values : List Value} {rows : List (List Scalar)}
    (h : fittingRows? none values = some rows) : ∃ m, widened rows = .ok m := by
  rw [fittingRows?_none] at h
  have hall : ∀ row ∈ rows, row.length = columnsOf rows := fun row hrow =>
    beq_iff_eq.1 (List.all_eq_true.1 (Option.filter_eq_some_iff.1 h).2 row hrow)
  have hcount : [rows.length, columnsOf rows] ≠ [] ∧
      elementCount [rows.length, columnsOf rows] =
        ((rows.flatten.map Scalar.toDouble).map fun x => Scalar.real (.double x)).length := by
    refine ⟨nofun, ?_⟩
    rw [List.length_map, List.length_map, Matrix.elementCount_rows hall]
  have hkind : ∀ s ∈ (rows.flatten.map Scalar.toDouble).map fun x => Scalar.real (.double x),
      s.kind = .double := by
    intro s hs
    rcases List.mem_map.1 hs with ⟨x, -, hx⟩
    rw [← hx]
    rfl
  unfold widened Matrix.ofDoubles Matrix.ofElements
  rw [dif_pos hcount, dif_pos hkind]
  exact ⟨_, rfl⟩

end Value

namespace Context

open Crossing Simulation

variable (ctx : Context)

/-- Leaves, row by row, stand for numbers, and one reference of each is held. -/
structure Borrowed (h : Heap Object) (held : Multiset Ref) (rows : List (List Scalar))
    (leaves : List (List Ref)) : Prop where
  balanced : h.Balanced ((leaves.flatten : Multiset Ref) + held)
  lengths : leaves.map List.length = rows.map List.length
  stand : StandEach h (rows.flatten.map .scalar) leaves.flatten

namespace Borrowed

variable {h : Heap Object} {held : Multiset Ref} {rows : List (List Scalar)}
  {leaves : List (List Ref)}

theorem nil (hb : h.Balanced held) : Borrowed h held [] [] := by
  constructor
  · rw [List.flatten_nil, Multiset.coe_nil, zero_add]
    exact hb
  · rfl
  · unfold StandEach
    rfl

theorem cons {row : List Scalar} {first : List Ref}
    (hrest : Borrowed h ((first : Multiset Ref) + held) rows leaves)
    (hrow : StandEach h (row.map .scalar) first) :
    Borrowed h held (row :: rows) (first :: leaves) := by
  constructor
  · rw [List.flatten_cons, ← Multiset.coe_add, add_assoc, add_left_comm]
    exact hrest.balanced
  · have hlength := length_of_standEach hrow
    rw [List.length_map] at hlength
    rw [List.map_cons, List.map_cons, hlength, hrest.lengths]
  · rw [List.flatten_cons, List.flatten_cons, List.map_append]
    exact standEach_append hrow hrest.stand

end Borrowed

/-!
# Leaves
-/

section Reaching

variable {depth : Nat} {base : Simulation} {h : Heap Object} {held : Multiset Ref}
  (hready : base.Ready)

include hready

theorem reaches_leafToHost {ref : Ref} {s : Scalar} {post : Double → Simulation → Prop}
    (hv : Stands h (.scalar s) ref) (hpost : post s.toDouble (base.withHeap h)) :
    Reaches (answer (run depth)) (ctx.leafToHost ref) (base.withHeap h) post := by
  have hget := hv
  unfold Stands at hget
  unfold leafToHost
  apply Reaches.bind
  apply reaches_kindOf hready hget
  cases s with
  | bool b =>
      apply Reaches.bind
      apply reaches_boolValue hready hget
      exact Reaches.pure hpost
  | int i =>
      apply Reaches.bind
      apply ctx.reaches_integerToHost hready hv
      exact Reaches.pure hpost
  | real x =>
      apply Reaches.bind
      apply ctx.reaches_floatToHost hready hv
      exact Reaches.pure hpost

theorem reaches_leavesToHost {row : List Scalar} {leaves : List Ref}
    {post : List Double → Simulation → Prop} (hleaves : StandEach h (row.map .scalar) leaves)
    (hpost : post (row.map Scalar.toDouble) (base.withHeap h)) :
    Reaches (answer (run depth)) (leaves.mapM ctx.leafToHost) (base.withHeap h) post := by
  induction row generalizing leaves post with
  | nil =>
      rw [List.map_nil] at hleaves
      unfold StandEach at hleaves
      rw [hleaves, List.mapM_nil]
      exact Reaches.pure hpost
  | cons s rest ih =>
      rw [List.map_cons] at hleaves
      unfold StandEach at hleaves
      rcases hleaves with ⟨ref, others, hsplit, hs, hothers⟩
      rw [hsplit, List.mapM_cons]
      apply Reaches.bind
      apply ctx.reaches_leafToHost hready hs
      apply Reaches.bind
      apply ih hothers
      exact Reaches.pure hpost

/-!
# Rows
-/

theorem reaches_rowFits {columns : Option Nat} {values : List Value} {leaves : List Ref}
    (hleaves : StandEach h values leaves) {post : Bool → Simulation → Prop}
    (hpost : post (Value.fits columns values) (base.withHeap h)) :
    Reaches (answer (run depth)) (rowFits columns leaves) (base.withHeap h) post := by
  unfold Value.fits at hpost
  unfold rowFits
  rw [length_of_standEach hleaves]
  by_cases hlength : columns.getD values.length = values.length
  · rw [decide_eq_true hlength, Bool.true_and] at hpost
    rw [if_pos hlength]
    exact reaches_allNumeric hready hleaves hpost
  · rw [decide_eq_false hlength, Bool.false_and] at hpost
    rw [if_neg hlength]
    exact Reaches.pure hpost

/-- Leaves that are not wanted are given back. -/
theorem reaches_unwanted {leaves : List Ref} {post : Option (List (List Ref)) → Simulation → Prop}
    (hb : h.Balanced ((leaves : Multiset Ref) + held))
    (hpost : ∀ h', h'.Balanced held → h.Older h' → post none (base.withHeap h')) :
    Reaches (answer (run depth)) (Crossing.releaseAll leaves >>= fun _ => pure none)
      (base.withHeap h) post := by
  apply Reaches.bind
  apply Reaches.releaseAll
  apply reaches_releaseAll hready hb
  intro h' hb' hold
  exact Reaches.pure (hpost h' hb' hold)

/-- The leaves that are found are those of the lists that fit together. -/
theorem reaches_numericRows {columns : Option Nat} {values : List Value} {refs : List Ref}
    (hb : h.Balanced held) (hvalues : StandEach h values refs) (hrefs : ∀ ref ∈ refs, ref ∈ held)
    {post : Option (List (List Ref)) → Simulation → Prop}
    (hnone : Value.fittingRows? columns values = none → ∀ h', h'.Balanced held → h.Older h' →
      post none (base.withHeap h'))
    (hsome : ∀ rows, Value.fittingRows? columns values = some rows → ∀ leaves h',
      Borrowed h' held rows leaves → h.Older h' → post (some leaves) (base.withHeap h')) :
    Reaches (answer (run depth)) (ctx.numericRows columns refs) (base.withHeap h) post := by
  induction values generalizing columns refs h held post with
  | nil =>
      unfold StandEach at hvalues
      rw [hvalues]
      exact Reaches.pure (hsome [] rfl [] h (Borrowed.nil hb) (Heap.Older.refl h))
  | cons v rest ih =>
      unfold StandEach at hvalues
      rcases hvalues with ⟨ref, others, hsplit, hv, hothers⟩
      rw [hsplit] at hrefs ⊢
      have hrest : ∀ other ∈ others, other ∈ held := fun other hother =>
        hrefs other (List.mem_cons_of_mem ref hother)
      rcases exists_kind hv with ⟨object, hget, hsequence, -⟩
      unfold numericRows
      apply Reaches.bind
      apply reaches_kindOf hready hget
      cases v with
      | cell items =>
          rw [if_pos (hsequence.2 rfl)]
          apply Reaches.bind
          apply ctx.reaches_items hready hv (hrefs ref List.mem_cons_self) hb
          intro leaves h' hb' hold hleaves
          apply Reaches.bind
          apply reaches_rowFits hready hleaves
          cases hfits : Value.fits columns items with
          | false =>
              apply reaches_unwanted hready hb'
              intro h'' hb'' hold'
              exact hnone (Value.fittingRows?_of_unfit rest hfits) h'' hb'' (hold.trans hold')
          | true =>
              rcases Value.fittingRows?_of_fits rest hfits with ⟨row, hitems, hfitting⟩
              have hlength : leaves.length = row.length := by
                rw [length_of_standEach hleaves, hitems, List.length_map]
              have hothers' := standEach_lasts hb' hold hothers fun other hother => by
                simp [hrest other hother]
              rw [if_pos rfl, hlength]
              apply Reaches.bind
              apply Reaches.keeping
              apply ih hb' hothers' fun other hother => by simp [hrest other hother]
              · intro hlost h'' hb'' hold'
                apply reaches_unwanted hready hb''
                intro last hlast hold''
                apply hnone _ last hlast ((hold.trans hold').trans hold'')
                rw [hfitting, hlost]
                rfl
              · intro rows hrows found h'' hfound hold'
                have hrow := standEach_lasts hfound.balanced hold' hleaves fun leaf hleaf => by
                  simp [hleaf]
                rw [hitems] at hrow
                apply Reaches.pure
                apply hsome (row :: rows) _ _ h'' (hfound.cons hrow) (hold.trans hold')
                rw [hfitting, hrows]
                rfl
      | undefined | scalar _ | text _ | matrix _ | foreign _ =>
          have hother : object.kind ≠ .sequence := fun hkind => Bool.false_ne_true (hsequence.1 hkind)
          rw [if_neg hother]
          apply Reaches.pure
          exact hnone rfl h hb (Heap.Older.refl h)

/-- A list becomes the matrix that it is by its shape; its items are only borrowed. -/
theorem reaches_matrixToHost {values : List Value} {refs : List Ref} (hb : h.Balanced held)
    (hvalues : StandEach h values refs) (hrefs : ∀ ref ∈ refs, ref ∈ held)
    {post : Option Matrix → Simulation → Prop}
    (hpost : ∀ h', h'.Balanced held → h.Older h' →
      post (Value.rectangle? values) (base.withHeap h')) :
    Reaches (answer (run depth)) (ctx.matrixToHost refs) (base.withHeap h) post := by
  unfold matrixToHost
  apply Reaches.bind
  apply ctx.reaches_numericRows hready hb hvalues hrefs
  · intro hnone h' hb' hold
    have hrectangle : Value.rectangle? values = none := by
      rw [Value.rectangle?_eq, hnone]
      rfl
    apply Reaches.pure
    rw [← hrectangle]
    exact hpost h' hb' hold
  · intro rows hsome leaves h' hleaves hold
    rcases Value.exists_widened hsome with ⟨m, hm⟩
    have hrectangle : Value.rectangle? values = some m := by
      rw [Value.rectangle?_eq, hsome, Option.bind_some, hm]
      rfl
    have hcount : refs.length = rows.length := by
      rw [length_of_standEach hvalues, Value.length_of_fittingRows? hsome]
    have hcolumns : (leaves.head?.map List.length).getD 0 = Value.columnsOf rows := by
      unfold Value.columnsOf
      rw [← List.head?_map, ← List.head?_map, hleaves.lengths]
    apply Reaches.owningAll
    apply Reaches.bind
    apply ctx.reaches_leavesToHost hready hleaves.stand
    dsimp only
    rw [hcount, hcolumns]
    unfold Value.widened at hm
    rw [hm]
    apply Reaches.pure
    apply reaches_releaseAll hready hleaves.balanced
    intro h'' hb'' hold'
    rw [← hrectangle]
    exact hpost h'' hb'' (hold.trans hold')

end Reaching

end Context
end ForeignBridge
