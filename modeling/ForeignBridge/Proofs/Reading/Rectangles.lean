import ForeignBridge.Proofs.Reading.Plain

/-!
# Reading rectangles

The rows of a sequence are borrowed one by one, until one of them is no sequence of numbers or has
another length than those before it.  What comes of it is the rectangle that the sequence is.
-/

namespace ForeignBridge
namespace Simulation

/-!
# Rows that fit
-/

variable (h : Heap Object)

/-- Whether a row has a length and holds only numbers. -/
def fits (columns : Nat) (row : List Ref) : Bool :=
  decide (columns = row.length) && row.all fun ref => (contentOf h ref).kind.isNumeric

/-- The items of sequences of numbers, all of a given length or else of the length of the first. -/
def fittingRows? (columns : Option Nat) (refs : List Ref) : Option (List (List Ref)) :=
  (rows? h refs).filter fun rows => rows.all (fits h (columns.getD (widthOf rows)))

theorem rows?_cons (ref : Ref) (rest : List Ref) :
    rows? h (ref :: rest) =
      (contentOf h ref).items?.bind fun row => (rows? h rest).map (row :: ·) := by
  unfold rows?
  rw [List.mapM_cons]
  cases (contentOf h ref).items? with
  | none => rfl
  | some row =>
      cases rest.mapM fun ref => (contentOf h ref).items? with
      | none => rfl
      | some rows => rfl

/-- The rows are looked for one by one, and the first one settles the length of the others. -/
theorem fittingRows?_cons (columns : Option Nat) (ref : Ref) (rest : List Ref) :
    fittingRows? h columns (ref :: rest) =
      (contentOf h ref).items?.bind fun row =>
        if fits h (columns.getD row.length) row then
          (fittingRows? h (some row.length) rest).map (row :: ·)
        else none := by
  unfold fittingRows?
  rw [rows?_cons]
  cases (contentOf h ref).items? with
  | none => rfl
  | some row =>
      rw [Option.bind_some, Option.bind_some]
      cases rows? h rest with
      | none => simp
      | some rows =>
          have hwidth : widthOf (row :: rows) = row.length := rfl
          rw [Option.map_some, Option.filter_some, Option.filter_some, hwidth, List.all_cons,
            Option.getD_some]
          cases hfits : fits h (columns.getD row.length) row with
          | false => rfl
          | true =>
              unfold fits at hfits
              rw [Bool.and_eq_true, decide_eq_true_iff] at hfits
              rw [hfits.1, Bool.true_and, if_pos rfl]
              split
              · rfl
              · rfl

theorem exists_of_mem_rows? {refs : List Ref} {rows : List (List Ref)}
    (hrows : rows? h refs = some rows) {row : List Ref} (hrow : row ∈ rows) :
    ∃ ref ∈ refs, (contentOf h ref).items? = some row := by
  induction refs generalizing rows with
  | nil =>
      cases hrows
      cases hrow
  | cons ref rest ih =>
      rw [rows?_cons] at hrows
      rcases Option.bind_eq_some_iff.1 hrows with ⟨first, hfirst, hmap⟩
      rcases Option.map_eq_some_iff.1 hmap with ⟨others, hothers, heq⟩
      rw [← heq] at hrow
      rcases List.mem_cons.1 hrow with hhead | htail
      · exact ⟨ref, List.mem_cons_self, by rw [hhead, hfirst]⟩
      · rcases ih hothers htail with ⟨other, hother, hitems⟩
        exact ⟨other, List.mem_cons_of_mem ref hother, hitems⟩

theorem length_of_rows? {refs : List Ref} {rows : List (List Ref)}
    (hrows : rows? h refs = some rows) : rows.length = refs.length := by
  induction refs generalizing rows with
  | nil =>
      cases hrows
      rfl
  | cons ref rest ih =>
      rw [rows?_cons] at hrows
      rcases Option.bind_eq_some_iff.1 hrows with ⟨row, -, hmap⟩
      rcases Option.map_eq_some_iff.1 hmap with ⟨others, hothers, heq⟩
      rw [← heq, List.length_cons, List.length_cons, ih hothers]

variable {h}

theorem all_fits_iff {rows : List (List Ref)} {columns : Nat} :
    rows.all (fits h columns) = true ↔ (∀ row ∈ rows, row.length = columns) ∧
      ∀ row ∈ rows, ∀ ref ∈ row, (contentOf h ref).kind.isNumeric = true := by
  unfold fits
  simp only [List.all_eq_true, Bool.and_eq_true, decide_eq_true_iff]
  constructor
  · intro hall
    exact ⟨fun row hrow => (hall row hrow).1.symm, fun row hrow => (hall row hrow).2⟩
  · intro hall row hrow
    exact ⟨(hall.1 row hrow).symm, hall.2 row hrow⟩

/-- Rows of one length that hold only numbers are those of a rectangle. -/
theorem exists_rectangle {refs : List Ref} {rows : List (List Ref)}
    (hfitting : fittingRows? h none refs = some rows) :
    ∃ r, rectangle? h refs = some r ∧ r.rows = rows ∧ r.columns = widthOf rows ∧
      rows.length = refs.length := by
  rcases Option.filter_eq_some_iff.1 hfitting with ⟨hrows, hall⟩
  rw [Option.getD_none] at hall
  have hfits := all_fits_iff.1 hall
  unfold rectangle?
  rw [hrows]
  dsimp only
  rw [dif_pos hfits]
  exact ⟨_, rfl, rfl, rfl, length_of_rows? h hrows⟩

theorem rectangle?_eq_none {refs : List Ref} (hfitting : fittingRows? h none refs = none) :
    rectangle? h refs = none := by
  unfold rectangle?
  cases hrows : rows? h refs with
  | none => rfl
  | some rows =>
      unfold fittingRows? at hfitting
      rw [hrows, Option.filter_eq_none_iff] at hfitting
      exact dif_neg fun hfits => hfitting rows rfl (all_fits_iff.2 hfits)

/-!
# Leaves that fit
-/

/-- The double that a number is widened to, if it fits. -/
def Object.leaf (object : Object) : Except BridgeError Double :=
  match object.overflow? with
  | some error => .error error
  | none => .ok object.widened

/-- The doubles of numbers that all fit, or the error of the first that does not. -/
def widenedAll (leaves : List Object) : Except BridgeError (List Double) :=
  match leaves.findSome? Object.overflow? with
  | some error => .error error
  | none => .ok (leaves.map Object.widened)

theorem widenedAll_cons (object : Object) (rest : List Object) :
    widenedAll (object :: rest) =
      object.leaf.bind fun x => (widenedAll rest).map (x :: ·) := by
  unfold widenedAll Object.leaf
  rw [List.findSome?_cons]
  cases object.overflow? with
  | some error => rfl
  | none =>
      dsimp only
      cases rest.findSome? Object.overflow? with
      | some error => rfl
      | none => rfl

theorem value_of_hostInt {value : Int} {tag : Option NumericKind} {i : HostInt}
    (hi : hostInt value tag = .ok i) : i.value = value := by
  unfold hostInt at hi
  split at hi
  · cases hi
    rfl
  · cases hi

theorem leaf_int (value : Int) (tag : Option NumericKind) :
    (Object.int value tag).leaf = (hostInt value tag).map HostInt.toDouble := by
  unfold Object.leaf Object.overflow?
  dsimp only
  cases hi : hostInt value tag with
  | error error => rfl
  | ok i =>
      show Except.ok (Binary.ofInt value) = Except.ok (Binary.ofInt i.value)
      rw [value_of_hostInt hi]

/-- The matrix of a rectangle is the one that is built of its leaves. -/
theorem matrix_eq (r : Rectangle h) :
    r.matrix = (widenedAll (r.rows.flatten.map (contentOf h))).bind fun elements =>
      (Matrix.ofDoubles r.rows.length r.columns elements).mapError .typeConversion := by
  unfold Rectangle.matrix widenedAll
  dsimp only
  cases (r.rows.flatten.map (contentOf h)).findSome? Object.overflow? with
  | some error => rfl
  | none =>
      have hcount : [r.rows.length, r.columns] ≠ [] ∧ elementCount [r.rows.length, r.columns] =
          ((r.rows.flatten.map (contentOf h)).map fun leaf =>
            Scalar.real (.double leaf.widened)).length := by
        refine ⟨List.cons_ne_nil _ _, ?_⟩
        rw [Matrix.elementCount_rows r.length_eq, List.length_map, List.length_map]
      have hkind : ∀ s ∈ (r.rows.flatten.map (contentOf h)).map fun leaf =>
          Scalar.real (.double leaf.widened), s.kind = .double := by
        intro s hs
        rcases List.mem_map.1 hs with ⟨leaf, -, hleaf⟩
        rw [← hleaf]
        rfl
      have hdoubles : Matrix.ofDoubles r.rows.length r.columns
          ((r.rows.flatten.map (contentOf h)).map Object.widened) =
          Matrix.ofElements .double [r.rows.length, r.columns]
            ((r.rows.flatten.map (contentOf h)).map fun leaf => .real (.double leaf.widened)) := by
        unfold Matrix.ofDoubles
        rw [List.map_map]
        rfl
      show _ = (Matrix.ofDoubles r.rows.length r.columns _).mapError _
      rw [hdoubles]
      unfold Matrix.ofElements
      rw [dif_pos hcount, dif_pos hkind]
      rfl

/-- No rows are borrowed. -/
theorem flatten_nil_add (held : Multiset Ref) :
    ((([] : List (List Ref)).flatten : List Ref) : Multiset Ref) + held = held := zero_add held

end Simulation

namespace Context

open Crossing Simulation

variable {σ : Type} (ctx : Context) {L : Lender σ} (hL : L.Serves) {held : Multiset Ref} {ref : Ref}

include hL

/-!
# Items
-/

theorem lends_itemsFrom {refs : List Ref} {index count : Nat}
    (hknown : L.Knows ref)
    (hitems : (contentOf L.heap ref).items? = some refs) (hcount : index + count = refs.length) :
    L.Lends (ctx.itemsFrom ref index count) held (.ok (refs.drop index))
      ((refs.drop index : List Ref) + held) := by
  induction count generalizing index held with
  | zero =>
      have hdrop : refs.drop index = [] := List.drop_eq_nil_iff.2 (by omega)
      rw [hdrop, Multiset.coe_nil, zero_add]
      exact Comes.pure
  | succ count ih =>
      have hlt : index < refs.length := by omega
      have hdrop : refs.drop index = refs[index] :: refs.drop (index + 1) :=
        List.drop_eq_getElem_cons hlt
      rw [hdrop, ← Multiset.cons_coe, Multiset.cons_add, ← Multiset.add_cons]
      unfold itemsFrom
      apply Comes.bind (hL.sequenceItem held hknown hitems hlt).lends
      apply Comes.bind (ctx.lends_checkRef hL _ _)
      apply Comes.bind (Comes.keeping (ih (by omega)))
      exact Comes.pure

/-- The items of a sequence are borrowed. -/
theorem lends_items {refs : List Ref} (hknown : L.Knows ref)
    (hitems : (contentOf L.heap ref).items? = some refs) :
    L.Lends (ctx.items ref) held (.ok refs) ((refs : Multiset Ref) + held) := by
  unfold items
  apply Comes.bind (hL.sequenceLength held hknown hitems).lends
  apply Comes.bind (ctx.lends_checkValue hL _ _)
  exact ctx.lends_itemsFrom hL hknown hitems (Nat.zero_add _)

omit ctx in
theorem lends_allNumeric {refs : List Ref} (hknown : ∀ ref ∈ refs, L.Knows ref) :
    L.Lends (allNumeric refs) held
      (.ok (refs.all fun ref => (contentOf L.heap ref).kind.isNumeric)) held := by
  induction refs with
  | nil => exact Comes.pure
  | cons ref rest ih =>
      unfold allNumeric
      rcases hL.kindOf held (hknown ref List.mem_cons_self) with ⟨kind, hshows, hkind⟩
      apply Comes.bind hkind.lends
      rw [List.all_cons, hshows.isNumeric]
      cases (contentOf L.heap ref).kind.isNumeric with
      | true => exact ih (List.forall_mem_of_forall_mem_cons hknown)
      | false => exact Comes.pure

omit ctx in
theorem lends_anySequence {refs : List Ref} (hknown : ∀ ref ∈ refs, L.Knows ref) :
    L.Lends (anySequence refs) held
      (.ok (refs.any fun ref => (contentOf L.heap ref).items?.isSome)) held := by
  induction refs with
  | nil => exact Comes.pure
  | cons ref rest ih =>
      unfold anySequence
      rcases hL.kindOf held (hknown ref List.mem_cons_self) with ⟨kind, hshows, hkind⟩
      apply Comes.bind hkind.lends
      rw [List.any_cons]
      cases hitems : (contentOf L.heap ref).items? with
      | some items =>
          rw [if_pos (hshows.eq_sequence hitems)]
          exact Comes.pure
      | none =>
          rw [if_neg (hshows.ne_sequence hitems)]
          exact ih (List.forall_mem_of_forall_mem_cons hknown)

/-!
# Rows
-/

theorem lends_leafToHost (hknown : L.Knows ref)
    (hnumeric : (contentOf L.heap ref).kind.isNumeric = true) :
    L.Lends (ctx.leafToHost ref) held (contentOf L.heap ref).leaf held := by
  unfold leafToHost
  rcases hL.kindOf held hknown with ⟨kind, hshows, hkind⟩
  apply Comes.bind hkind.lends
  rw [hshows.eq fun hother => by rw [hother] at hnumeric; cases hnumeric]
  cases hcontent : contentOf L.heap ref with
  | bool b => exact (hL.boolValue held hknown hcontent).lends.map
  | int value tag =>
      rw [leaf_int]
      exact (ctx.lends_integerToHost hL hknown hcontent).map
  | float x tag => exact (ctx.lends_floatToHost hL hknown hcontent).map
  | _ =>
      rw [hcontent] at hnumeric
      cases hnumeric

section Rows

variable {refs : List Ref} (hknown : ∀ ref ∈ refs, L.Knows ref)

include hknown

omit ctx in
theorem lends_rowFits (columns : Option Nat) :
    L.Lends (rowFits columns refs) held
      (.ok (fits L.heap (columns.getD refs.length) refs)) held := by
  unfold rowFits fits
  by_cases hlength : columns.getD refs.length = refs.length
  · rw [if_pos hlength, decide_eq_true hlength, Bool.true_and]
    exact lends_allNumeric hL hknown
  · rw [if_neg hlength, decide_eq_false hlength, Bool.false_and]
    exact Comes.pure

theorem lends_leavesToHost
    (hnumeric : ∀ ref ∈ refs, (contentOf L.heap ref).kind.isNumeric = true) :
    L.Lends (refs.mapM ctx.leafToHost) held (widenedAll (refs.map (contentOf L.heap)))
      held := by
  induction refs with
  | nil => exact Comes.pure
  | cons ref rest ih =>
      have hleaf : L.Lends (ctx.leafToHost ref) held _ held :=
        ctx.lends_leafToHost hL (hknown ref List.mem_cons_self) (hnumeric ref List.mem_cons_self)
      have hrest := ih (List.forall_mem_of_forall_mem_cons hknown)
        (List.forall_mem_of_forall_mem_cons hnumeric)
      rw [List.mapM_cons, List.map_cons, widenedAll_cons]
      cases hone : (contentOf L.heap ref).leaf with
      | error error =>
          rw [hone] at hleaf
          exact hleaf.bind_error
      | ok x =>
          rw [hone] at hleaf
          exact hleaf.bind hrest.map

/-- The rows of a sequence are borrowed, or none of them. -/
theorem lends_numericRows (columns : Option Nat) :
    L.Lends (ctx.numericRows columns refs) held (.ok (fittingRows? L.heap columns refs))
      ((((fittingRows? L.heap columns refs).getD []).flatten : List Ref) + held) := by
  induction refs generalizing columns held with
  | nil =>
      rw [show fittingRows? L.heap columns [] = some [] from rfl, Option.getD_some,
        flatten_nil_add]
      exact Comes.pure
  | cons ref rest ih =>
      have href := hknown ref List.mem_cons_self
      rw [fittingRows?_cons]
      unfold numericRows
      rcases hL.kindOf held href with ⟨kind, hshows, hkind⟩
      apply Comes.bind hkind.lends
      cases hitems : (contentOf L.heap ref).items? with
      | none =>
          rw [if_neg (hshows.ne_sequence hitems), Option.bind_none, Option.getD_none, flatten_nil_add]
          exact Comes.pure
      | some row =>
          have hrow := hL.knows_items href hitems
          rw [if_pos (hshows.eq_sequence hitems), Option.bind_some]
          apply Comes.bind (ctx.lends_items hL href hitems)
          apply Comes.bind (lends_rowFits hL hrow columns)
          have hreturned : L.Lends (releaseAll row) ((row : Multiset Ref) + held)
              (.ok ()) held := Comes.releaseAll (Lender.succeeds_releaseAll hL hrow held)
          cases hfits : fits L.heap (columns.getD row.length) row with
          | false =>
              rw [if_neg Bool.false_ne_true, if_neg Bool.false_ne_true, Option.getD_none,
                flatten_nil_add]
              exact Comes.bind hreturned Comes.pure
          | true =>
              have hrest : L.Lends (ctx.numericRows (some row.length) rest)
                  ((row : Multiset Ref) + held) _ _ :=
                ih (List.forall_mem_of_forall_mem_cons hknown) (some row.length)
              rw [if_pos rfl, if_pos rfl]
              cases hothers : fittingRows? L.heap (some row.length) rest with
              | none =>
                  rw [hothers, Option.getD_none, flatten_nil_add] at hrest
                  rw [Option.map_none, Option.getD_none, flatten_nil_add]
                  exact Comes.bind (Comes.keeping hrest) (Comes.bind hreturned Comes.pure)
              | some rows =>
                  rw [hothers, Option.getD_some] at hrest
                  rw [Option.map_some, Option.getD_some, List.flatten_cons, ← Multiset.coe_add,
                    add_assoc, add_left_comm]
                  exact Comes.bind (Comes.keeping hrest) Comes.pure

/-- A sequence is read as the matrix that it is by its shape, if it is one. -/
theorem lends_matrixToHost :
    L.Lends (ctx.matrixToHost refs) held
      ((rectangle? L.heap refs).elim (.ok none) fun r => r.matrix.map some) held := by
  have hrows : L.Lends (ctx.numericRows none refs) held _ _ :=
    ctx.lends_numericRows hL hknown none
  unfold matrixToHost
  cases hfitting : fittingRows? L.heap none refs with
  | none =>
      rw [hfitting, Option.getD_none, flatten_nil_add] at hrows
      rw [rectangle?_eq_none hfitting]
      exact Comes.bind hrows Comes.pure
  | some rows =>
      rcases exists_rectangle hfitting with ⟨r, hr, hleaves, hcolumns, hlength⟩
      rw [hfitting, Option.getD_some] at hrows
      rw [hr, Option.elim_some]
      apply Comes.bind hrows
      have hinner : ∀ ref ∈ rows.flatten, L.Knows ref := by
        intro ref href
        rcases List.mem_flatten.1 href with ⟨row, hrow, hin⟩
        rcases exists_of_mem_rows? _ (Option.filter_eq_some_iff.1 hfitting).1 hrow with
          ⟨sequence, hsequence, hitems⟩
        exact hL.knows_items (hknown sequence hsequence) hitems ref hin
      have hnumeric : ∀ ref ∈ rows.flatten, (contentOf L.heap ref).kind.isNumeric = true := by
        intro ref href
        rcases List.mem_flatten.1 href with ⟨row, hrow, hin⟩
        rw [← hleaves] at hrow
        exact r.numeric row hrow ref hin
      apply Comes.owningAll _ (Lender.succeeds_releaseAll hL hinner held)
      have helements : L.Lends (rows.flatten.mapM ctx.leafToHost)
          ((rows.flatten : Multiset Ref) + held) _ _ :=
        ctx.lends_leavesToHost hL hinner hnumeric
      dsimp only
      rw [matrix_eq, hleaves, hcolumns, hlength]
      cases hwidened : widenedAll (rows.flatten.map (contentOf L.heap)) with
      | error error =>
          rw [hwidened] at helements
          exact helements.bind_error
      | ok elements =>
          rw [hwidened] at helements
          apply helements.bind
          have hwidth : (rows.head?.map List.length).getD 0 = widthOf rows := rfl
          rw [hwidth]
          show Comes _ _ _ (((Matrix.ofDoubles refs.length (widthOf rows) elements).mapError
            BridgeError.typeConversion).map some) _
          cases Matrix.ofDoubles refs.length (widthOf rows) elements with
          | ok m => exact Comes.pure
          | error fault => exact Comes.throw

end Rows

end Context
end ForeignBridge
