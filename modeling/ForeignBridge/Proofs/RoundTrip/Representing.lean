import ForeignBridge.Proofs.Reading.Settled

/-!
# Reading what represents a value

A reference represents a value without matrices if the object there, and those inside it, are what
the value is made of, where numbers may appear in a form of their own.  What such an object is read
as is the normal form of the value, with what is kept of its numbers, unless a number that is looked
at cannot be read.  The numbers inside a list that becomes placeholders are never looked at.
-/

namespace ForeignBridge

open Simulation

/-!
# Numbers in values
-/

namespace Value

mutual

/-- A value with other numbers. -/
def onScalars (f : Scalar → Scalar) : Value → Value
  | cell items => cell (onScalarsAll f items)
  | scalar s => scalar (f s)
  | v => v

def onScalarsAll (f : Scalar → Scalar) : List Value → List Value
  | [] => []
  | x :: xs => x.onScalars f :: onScalarsAll f xs

end

/-- The numbers that are looked at in an element of a list. -/
def extractedInside : Value → List Scalar
  | scalar s => [s]
  | cell items =>
    if items.any fun item => item.items?.isSome then [] else items.filterMap scalar?
  | _ => []

/-- The numbers that are looked at when a value without matrices is read back. -/
def extracted : Value → List Scalar
  | scalar s => [s]
  | cell items => items.flatMap extractedInside
  | _ => []

variable {f : Scalar → Scalar}

theorem onScalarsAll_eq_map (values : List Value) :
    onScalarsAll f values = values.map (onScalars f) := by
  induction values with
  | nil => rfl
  | cons v rest ih => rw [onScalarsAll, ih, List.map_cons]

theorem items?_onScalars (v : Value) : (v.onScalars f).items? = v.items?.map (onScalarsAll f) := by
  cases v <;> rfl

theorem any_items?_onScalarsAll (values : List Value) :
    ((onScalarsAll f values).any fun v => v.items?.isSome) =
      values.any fun v => v.items?.isSome := by
  rw [onScalarsAll_eq_map, List.any_map]
  refine congrArg (List.any values) (funext fun v => ?_)
  rw [Function.comp, items?_onScalars, Option.isSome_map]

mutual

theorem matrices_onScalars (v : Value) : (v.onScalars f).matrices = v.matrices := by
  cases v with
  | cell items => exact matricesAll_onScalarsAll items
  | undefined | scalar _ | text _ | matrix _ | foreign _ => rfl

theorem matricesAll_onScalarsAll (values : List Value) :
    matricesAll (onScalarsAll f values) = matricesAll values := by
  cases values with
  | nil => rfl
  | cons v rest =>
      rw [onScalarsAll, matricesAll, matricesAll, matrices_onScalars v,
        matricesAll_onScalarsAll rest]

end

mutual

theorem spread_of_flat (v : Value) (hflat : v.matrices = []) : v.spread = v := by
  cases v with
  | cell items => rw [spread, spreadAll_of_flat items hflat]
  | matrix m => cases hflat
  | undefined | scalar _ | text _ | foreign _ => rfl

theorem spreadAll_of_flat (values : List Value) (hflat : matricesAll values = []) :
    spreadAll values = values := by
  cases values with
  | nil => rfl
  | cons v rest =>
      rw [matricesAll, List.append_eq_nil_iff] at hflat
      rw [spreadAll, spread_of_flat v hflat.1, spreadAll_of_flat rest hflat.2]

end

theorem mapM_scalar?_onScalarsAll (values : List Value) :
    (onScalarsAll f values).mapM scalar? = (values.mapM scalar?).map (List.map f) := by
  induction values with
  | nil => rfl
  | cons v rest ih =>
      rw [onScalarsAll, List.mapM_cons, List.mapM_cons, ih]
      cases v with
      | scalar s => cases rest.mapM scalar? <;> rfl
      | _ => rfl

theorem numbers?_onScalars (v : Value) : (v.onScalars f).numbers? = v.numbers?.map (List.map f) := by
  cases v with
  | cell items => exact mapM_scalar?_onScalarsAll items
  | _ => rfl

/-- Lists of numbers fit together whatever the numbers are. -/
theorem fittingRows?_onScalarsAll (columns : Option Nat) (values : List Value) :
    fittingRows? columns (onScalarsAll f values) =
      (fittingRows? columns values).map (List.map (List.map f)) := by
  induction values generalizing columns with
  | nil => rfl
  | cons v rest ih =>
      rw [onScalarsAll, fittingRows?, fittingRows?, numbers?_onScalars]
      cases v.numbers? with
      | none => rfl
      | some row =>
          rw [Option.map_some, Option.bind_some, Option.bind_some, List.length_map, ih]
          split
          · cases fittingRows? (some row.length) rest <;> rfl
          · rfl

theorem filterMap_scalar? (row : List Scalar) : (row.map scalar).filterMap scalar? = row := by
  rw [List.filterMap_map]
  exact List.filterMap_some

theorem extractedInside_row (row : List Scalar) : (cell (row.map scalar)).extractedInside = row := by
  have hany : ((row.map scalar).any fun v => v.items?.isSome) = false := by
    rw [List.any_map]
    exact List.any_eq_false.2 fun _ _ => Bool.false_ne_true
  rw [extractedInside, hany, if_neg Bool.false_ne_true, filterMap_scalar?]

end Value

/-!
# Objects for values
-/

/-- How numbers appear among objects, and what is read of them. -/
structure Numerals where
  code : Scalar → Object
  /-- The error of a number that cannot be read. -/
  fault? : Scalar → Option BridgeError
  /-- What a number becomes. -/
  kept : Scalar → Scalar
  numeric : ∀ s, (code s).kind.isNumeric = true
  overflow : ∀ s, (code s).overflow? = fault? s
  widened : ∀ s, (code s).widened = (kept s).toDouble
  read : ∀ h context ref s, contentOf h ref = code s →
    plainValue h context ref = (fault? s).elim (.ok (.scalar (kept s))) .error

namespace Numerals

variable (N : Numerals) (h : Heap Object) (context : Nat)

mutual

/-- The object at a reference represents a value. -/
def Represents : Value → Ref → Prop
  | .undefined, ref => contentOf h ref = .null
  | .scalar s, ref => contentOf h ref = N.code s
  | .text t, ref => contentOf h ref = .text t
  | .cell items, ref => ∃ refs, contentOf h ref = .tuple refs ∧ RepresentsEach items refs
  | .matrix _, _ => False
  | .foreign handle, ref =>
    handle.context = context ∧ ref = handle.ref ∧ (contentOf h ref).IsOpaque

def RepresentsEach : List Value → List Ref → Prop
  | [], refs => refs = []
  | v :: vs, refs => ∃ ref rest, refs = ref :: rest ∧ Represents v ref ∧ RepresentsEach vs rest

end

theorem representsEach_iff {values : List Value} {refs : List Ref} :
    N.RepresentsEach h context values refs ↔
      List.Forall₂ (N.Represents h context) values refs := by
  induction values generalizing refs with
  | nil => simp [RepresentsEach]
  | cons v rest ih =>
      rw [RepresentsEach, List.forall₂_cons_left_iff]
      constructor
      · rintro ⟨ref, others, rfl, hv, hothers⟩
        exact ⟨ref, others, hv, ih.1 hothers, rfl⟩
      · rintro ⟨ref, others, hv, hothers, rfl⟩
        exact ⟨ref, others, rfl, hv, ih.2 hothers⟩

/-- What comes of reading depends on the numbers that are looked at: the error of the first one that
cannot be read, or else what is wanted. -/
structure Yields {α β : Type} (view : α → β) (given : Except BridgeError α) (looked : List Scalar)
    (wanted : β) : Prop where
  fails : ∀ error, looked.findSome? N.fault? = some error → given = .error error
  succeeds : looked.findSome? N.fault? = none → ∃ a, given = .ok a ∧ view a = wanted

variable {N h context} {v : Value} {ref : Ref}

theorem Yields.of_ok {α β : Type} {view : α → β} {a : α} {wanted : β} (ha : view a = wanted) :
    N.Yields view (.ok a) [] wanted :=
  ⟨nofun, fun _ => ⟨a, rfl, ha⟩⟩

theorem Yields.map {α β γ δ : Type} {view : α → β} {view' : γ → δ} {f : α → γ} {g : β → δ}
    {given : Except BridgeError α} {looked : List Scalar} {wanted : β}
    (hgiven : N.Yields view given looked wanted) (hf : ∀ a, view' (f a) = g (view a)) :
    N.Yields view' (given.map f) looked (g wanted) := by
  constructor
  · intro error herror
    rw [hgiven.fails error herror]
    rfl
  · intro hnone
    obtain ⟨a, rfl, ha⟩ := hgiven.succeeds hnone
    exact ⟨f a, rfl, by rw [hf, ha]⟩

/-- Of several things the first one that cannot be read is reported. -/
theorem Yields.mapM {α β γ δ : Type} {view : γ → δ} {read : α → Except BridgeError γ}
    {looked : β → List Scalar} {wanted : β → δ} {xs : List α} {ys : List β}
    (heach : List.Forall₂ (fun y x => N.Yields view (read x) (looked y) (wanted y)) ys xs) :
    N.Yields (List.map view) (xs.mapM read) (ys.flatMap looked) (ys.map wanted) := by
  induction heach with
  | nil => exact Yields.of_ok rfl
  | @cons y x ys xs hfirst _ ih =>
      rw [List.mapM_cons, List.flatMap_cons, List.map_cons]
      constructor
      · intro error herror
        rw [List.findSome?_append] at herror
        cases hlooked : (looked y).findSome? N.fault? with
        | some other =>
            rw [hlooked, Option.some_or] at herror
            cases herror
            rw [hfirst.fails _ hlooked]
            rfl
        | none =>
            rw [hlooked, Option.none_or] at herror
            obtain ⟨a, ha, -⟩ := hfirst.succeeds hlooked
            rw [ha, ih.fails error herror]
            rfl
      · intro hnone
        rw [List.findSome?_append, Option.or_eq_none_iff] at hnone
        obtain ⟨a, ha, hview⟩ := hfirst.succeeds hnone.1
        obtain ⟨as, has, hviews⟩ := ih.succeeds hnone.2
        exact ⟨a :: as, by rw [ha, has]; rfl, by rw [List.map_cons, hview, hviews]⟩

/-!
# Plain objects
-/

theorem items?_code (s : Scalar) : (N.code s).items? = none := by
  cases hitems : (N.code s).items? with
  | none => rfl
  | some items =>
      have hnumeric := N.numeric s
      rw [Object.kind_eq_sequence hitems] at hnumeric
      cases hnumeric

theorem items?_of_isOpaque {object : Object} (hsealed : object.IsOpaque) : object.items? = none := by
  cases hitems : object.items? with
  | none => rfl
  | some items =>
      have hkind := Object.kind_eq_sequence hitems
      rcases hsealed with h | h
      · rw [hkind] at h
        cases h
      · rw [hkind] at h
        cases h

/-- What represents a list is a sequence of what represents its elements, and nothing else is a
sequence. -/
theorem Represents.items? (hv : N.Represents h context v ref) :
    (v.items? = none ∧ (contentOf h ref).items? = none) ∨
      ∃ items refs, v = .cell items ∧ (contentOf h ref).items? = some refs ∧
        List.Forall₂ (N.Represents h context) items refs := by
  cases v with
  | undefined | text _ =>
      rw [Represents] at hv
      rw [hv]
      exact .inl ⟨rfl, rfl⟩
  | scalar s =>
      rw [Represents] at hv
      rw [hv]
      exact .inl ⟨rfl, items?_code s⟩
  | cell items =>
      rw [Represents] at hv
      obtain ⟨refs, hrefs, hitems⟩ := hv
      rw [hrefs]
      exact .inr ⟨items, refs, rfl, rfl, (N.representsEach_iff h context).1 hitems⟩
  | matrix m =>
      rw [Represents] at hv
      exact hv.elim
  | foreign handle =>
      rw [Represents] at hv
      exact .inl ⟨rfl, items?_of_isOpaque hv.2.2⟩

theorem Represents.isSome_items? (hv : N.Represents h context v ref) :
    (contentOf h ref).items?.isSome = v.items?.isSome := by
  rcases hv.items? with ⟨hnone, hitems⟩ | ⟨items, refs, rfl, hitems, -⟩
  · rw [hnone, hitems]
    rfl
  · rw [hitems]
    rfl

theorem any_items? {values : List Value} {refs : List Ref}
    (hvalues : List.Forall₂ (N.Represents h context) values refs) :
    (refs.any fun ref => (contentOf h ref).items?.isSome) =
      values.any fun v => v.items?.isSome := by
  induction hvalues with
  | nil => rfl
  | cons hv _ ih => rw [List.any_cons, List.any_cons, hv.isSome_items?, ih]

/-- An object that is no sequence is read as what is kept of its value. -/
theorem yields_plainValue (hv : N.Represents h context v ref) (hplain : v.items? = none) :
    N.Yields Value.anonymous (plainValue h context ref) v.scalar?.toList
      (v.onScalars N.kept).anonymous := by
  cases v with
  | undefined | text _ =>
      rw [Represents] at hv
      unfold plainValue
      rw [hv]
      exact Yields.of_ok rfl
  | scalar s =>
      rw [Represents] at hv
      rw [N.read h context ref s hv]
      constructor
      · intro error herror
        rw [Value.scalar?, Option.toList_some, List.findSome?_singleton] at herror
        rw [herror]
        rfl
      · intro hnone
        rw [Value.scalar?, Option.toList_some, List.findSome?_singleton] at hnone
        rw [hnone]
        exact ⟨_, rfl, rfl⟩
  | cell items => cases hplain
  | matrix m =>
      rw [Represents] at hv
      exact hv.elim
  | foreign handle =>
      rw [Represents] at hv
      obtain ⟨hcontext, rfl, hsealed⟩ := hv
      have hname : Value.anonymous (.foreign ⟨context, handle.ref, className h handle.ref⟩) =
          (Value.onScalars N.kept (.foreign handle)).anonymous := by
        rw [← hcontext]
        rfl
      unfold plainValue
      cases hcontent : contentOf h handle.ref with
      | bag _ | moduleOf _ _ | classOf _ _ | instanceOf _ _ | function _ _ | boundMethod _ _ =>
          exact Yields.of_ok hname
      | _ =>
          rw [hcontent] at hsealed
          rcases hsealed with hkind | hkind
          · cases hkind
          · cases hkind

/-!
# Elements
-/

theorem looked_plain {values : List Value} :
    values.flatMap (fun v => v.scalar?.toList) = values.filterMap Value.scalar? :=
  (List.filterMap_eq_flatMap_toList _ _).symm

theorem anonymous_cell (values : List Value) :
    (Value.cell values).anonymous = .cell (values.map Value.anonymous) := by
  rw [Value.anonymous, Value.anonymousAll_eq_map]

theorem anonymous_placeholders (n : Nat) :
    (Value.cell (List.replicate n .undefined)).anonymous = .cell (List.replicate n .undefined) := by
  rw [anonymous_cell, List.map_replicate]
  rfl

/-- An element of a list is read as the normal form of what is kept of it. -/
theorem yields_elementValue (hv : N.Represents h context v ref) :
    N.Yields Value.anonymous (elementValue h context ref) v.extractedInside
      (v.onScalars N.kept).normalElement.anonymous := by
  unfold elementValue
  rcases hv.items? with ⟨hplain, hitems⟩ | ⟨items, refs, rfl, hitems, heach⟩
  · rw [hitems]
    have hread := yields_plainValue hv hplain
    cases v with
    | cell items => cases hplain
    | _ => exact hread
  · rw [hitems, Value.onScalars, Value.normalElement, Value.any_items?_onScalarsAll,
      Value.extractedInside]
    dsimp only
    rw [any_items? heach]
    cases hany : items.any fun item => item.items?.isSome with
    | true =>
        rw [if_pos rfl, if_pos rfl, if_pos rfl, anonymous_placeholders,
          Value.onScalarsAll_eq_map, List.length_map, heach.length_eq]
        exact Yields.of_ok (anonymous_placeholders refs.length)
    | false =>
        rw [if_neg Bool.false_ne_true, if_neg Bool.false_ne_true, if_neg Bool.false_ne_true,
          anonymous_cell, Value.onScalarsAll_eq_map, List.map_map, ← looked_plain]
        rw [List.any_eq_false] at hany
        have hinner : List.Forall₂ (fun item ref => N.Yields Value.anonymous
            (plainValue h context ref) item.scalar?.toList (item.onScalars N.kept).anonymous)
            items refs :=
          ((List.forall₂_and_left _ _).2 ⟨fun item hitem => hany item hitem, heach⟩).imp
            fun item ref hitem =>
              yields_plainValue hitem.2 (Option.not_isSome_iff_eq_none.1 hitem.1)
        exact (Yields.mapM hinner).map (g := Value.cell) fun values => anonymous_cell values

/-!
# Rectangles
-/

theorem Represents.isNumeric (hv : N.Represents h context v ref) :
    (contentOf h ref).kind.isNumeric = v.scalar?.isSome := by
  cases v with
  | undefined | text _ =>
      rw [Represents] at hv
      rw [hv]
      rfl
  | scalar s =>
      rw [Represents] at hv
      rw [hv]
      exact N.numeric s
  | cell items =>
      rw [Represents] at hv
      obtain ⟨refs, hrefs, -⟩ := hv
      rw [hrefs]
      rfl
  | matrix m =>
      rw [Represents] at hv
      exact hv.elim
  | foreign handle =>
      rw [Represents] at hv
      rcases hv.2.2 with hkind | hkind
      · rw [hkind]
        rfl
      · rw [hkind]
        rfl

theorem all_isNumeric {values : List Value} {refs : List Ref}
    (hvalues : List.Forall₂ (N.Represents h context) values refs) :
    (refs.all fun ref => (contentOf h ref).kind.isNumeric) =
      values.all fun v => v.scalar?.isSome := by
  induction hvalues with
  | nil => rfl
  | cons hv _ ih => rw [List.all_cons, List.all_cons, hv.isNumeric, ih]

/-- The leaves of numbers, row by row. -/
abbrev LeavesOf (N : Numerals) (h : Heap Object) (rows : List (List Scalar))
    (leaves : List (List Ref)) : Prop :=
  List.Forall₂ (List.Forall₂ fun s leaf => contentOf h leaf = N.code s) rows leaves

/-- Rows of numbers fit together if the objects that represent them do. -/
theorem fittingRows?_represents (columns : Option Nat) {values : List Value} {refs : List Ref}
    (hvalues : List.Forall₂ (N.Represents h context) values refs) :
    (Value.fittingRows? columns values = none ∧ fittingRows? h columns refs = none) ∨
      ∃ rows leaves, Value.fittingRows? columns values = some rows ∧
        fittingRows? h columns refs = some leaves ∧
        values = rows.map (fun row => .cell (row.map .scalar)) ∧ N.LeavesOf h rows leaves := by
  induction hvalues generalizing columns with
  | nil => exact .inr ⟨[], [], rfl, rfl, rfl, .nil⟩
  | @cons v ref values refs hv _ ih =>
      rw [fittingRows?_cons]
      rcases hv.items? with ⟨hplain, hitems⟩ | ⟨items, inner, rfl, hitems, heach⟩
      · refine .inl ⟨?_, by rw [hitems]; rfl⟩
        rw [Value.fittingRows?, Value.numbers?, hplain]
        rfl
      · have hfits : fits h (columns.getD inner.length) inner = Value.fits columns items := by
          rw [fits, Value.fits, all_isNumeric heach, heach.length_eq]
        rw [hitems, Option.bind_some, hfits]
        cases hfit : Value.fits columns items with
        | false => exact .inl ⟨Value.fittingRows?_of_unfit values hfit, rfl⟩
        | true =>
            obtain ⟨row, rfl, hrows⟩ := Value.fittingRows?_of_fits values hfit
            have hlength : row.length = inner.length := by
              rw [← heach.length_eq, List.length_map]
            rw [hrows, if_pos rfl, ← hlength]
            rcases ih (some row.length) with ⟨hnone, hnone'⟩ |
              ⟨rows, leaves, hsome, hsome', rfl, hleaves⟩
            · rw [hnone, hnone']
              exact .inl ⟨rfl, rfl⟩
            · rw [hsome, hsome']
              refine .inr ⟨row :: rows, inner :: leaves, rfl, rfl, rfl, .cons ?_ hleaves⟩
              rw [List.forall₂_map_left_iff] at heach
              exact heach.imp fun s leaf hleaf => by rwa [Represents] at hleaf

theorem columnsOf_kept (rows : List (List Scalar)) :
    Value.columnsOf (rows.map (List.map N.kept)) = Value.columnsOf rows := by
  cases rows with
  | nil => rfl
  | cons row rest => exact List.length_map N.kept

theorem contents_of_leaves {rows : List (List Scalar)} {leaves : List (List Ref)}
    (hleaves : N.LeavesOf h rows leaves) :
    leaves.flatten.map (contentOf h) = rows.flatten.map N.code ∧
      leaves.length = rows.length ∧ widthOf leaves = Value.columnsOf rows := by
  refine ⟨?_, hleaves.length_eq.symm, ?_⟩
  · induction hleaves with
    | nil => rfl
    | cons hrow _ ih =>
        have hfirst := (List.forall₂_iff_get).1 hrow
        rw [List.flatten_cons, List.flatten_cons, List.map_append, List.map_append, ih]
        refine congrArg (· ++ _) (List.ext_getElem ?_ fun i hi hi' => ?_)
        · rw [List.length_map, List.length_map, hfirst.1]
        · rw [List.getElem_map, List.getElem_map]
          exact hfirst.2 i (by simpa using hi') (by simpa using hi)
  · cases hleaves with
    | nil => rfl
    | cons hrow _ => exact hrow.length_eq.symm

theorem widenedAll_code (row : List Scalar) :
    widenedAll (row.map N.code) = (row.findSome? N.fault?).elim
      (.ok ((row.map N.kept).map Scalar.toDouble)) .error := by
  have hoverflow : (row.map N.code).findSome? Object.overflow? = row.findSome? N.fault? := by
    rw [List.findSome?_map]
    exact congrArg (List.findSome? · row) (funext N.overflow)
  have hwidened : (row.map N.code).map Object.widened = (row.map N.kept).map Scalar.toDouble := by
    rw [List.map_map, List.map_map]
    exact List.map_congr_left fun s _ => N.widened s
  rw [widenedAll, hoverflow, hwidened]
  cases row.findSome? N.fault? <;> rfl

/-- Objects that represent rows of numbers are read as the matrix of what is kept of them. -/
theorem yields_rectangle {values : List Value} {refs : List Ref} {rows : List (List Scalar)}
    {leaves : List (List Ref)} (hrows : Value.fittingRows? none values = some rows)
    (hfitting : fittingRows? h none refs = some leaves)
    (hvalues : values = rows.map fun row => .cell (row.map .scalar))
    (hleaves : N.LeavesOf h rows leaves) :
    ∃ r m, rectangle? h refs = some r ∧
      Value.rectangle? (Value.onScalarsAll N.kept values) = some m ∧
      N.Yields id r.matrix (values.flatMap Value.extractedInside) m := by
  obtain ⟨r, hr, hrleaves, hcolumns, -⟩ := exists_rectangle hfitting
  have hkept : Value.fittingRows? none (Value.onScalarsAll N.kept values) =
      some (rows.map (List.map N.kept)) := by
    rw [Value.fittingRows?_onScalarsAll, hrows, Option.map_some]
  obtain ⟨m, hm⟩ := Value.exists_widened hkept
  obtain ⟨hcontents, hcount, hwidth⟩ := contents_of_leaves hleaves
  have hlooked : values.flatMap Value.extractedInside = rows.flatten := by
    rw [hvalues, List.flatMap_map, ← List.flatMap_id]
    exact congrArg (List.flatMap · rows) (funext Value.extractedInside_row)
  refine ⟨r, m, hr, ?_, ?_⟩
  · rw [Value.rectangle?_eq, hkept, Option.bind_some, hm]
    rfl
  · rw [matrix_eq, hrleaves, hcolumns, hcontents, hcount, hwidth, widenedAll_code, hlooked]
    constructor
    · intro error herror
      rw [herror]
      rfl
    · intro hnone
      rw [hnone]
      refine ⟨m, ?_, rfl⟩
      rw [Value.widened, columnsOf_kept, List.length_map, ← List.map_flatten] at hm
      show (Matrix.ofDoubles _ _ _).mapError _ = _
      rw [hm]
      rfl

/-!
# Values
-/

/-- A list is read as the normal form of what is kept of it. -/
theorem yields_sequenceValue {values : List Value} {refs : List Ref} (autoconversion : Bool)
    (hvalues : List.Forall₂ (N.Represents h context) values refs) :
    N.Yields Value.anonymous (sequenceValue h context autoconversion refs)
      (values.flatMap Value.extractedInside)
      (Value.normalList autoconversion (Value.onScalarsAll N.kept values)).anonymous := by
  have hcell : N.Yields Value.anonymous ((refs.mapM (elementValue h context)).map Value.cell)
      (values.flatMap Value.extractedInside)
      (Value.cell ((Value.onScalarsAll N.kept values).map Value.normalElement)).anonymous := by
    rw [anonymous_cell, Value.onScalarsAll_eq_map, List.map_map, List.map_map]
    exact (Yields.mapM (hvalues.imp fun v ref hv => yields_elementValue hv)).map (g := Value.cell)
      fun items => anonymous_cell items
  unfold sequenceValue Value.normalList
  cases autoconversion with
  | false => exact hcell
  | true =>
      have hempty : (Value.onScalarsAll N.kept values).isEmpty = refs.isEmpty := by
        rw [Value.onScalarsAll_eq_map, List.isEmpty_map]
        cases hvalues <;> rfl
      rw [if_pos rfl, if_pos rfl, hempty]
      cases hrefs : refs.isEmpty with
      | true =>
          rw [List.isEmpty_iff] at hrefs
          subst hrefs
          cases hvalues
          exact Yields.of_ok rfl
      | false =>
          rw [if_neg Bool.false_ne_true, if_neg Bool.false_ne_true]
          rcases fittingRows?_represents none hvalues with ⟨hnone, hnone'⟩ |
            ⟨rows, leaves, hrows, hfitting, hsame, hleaves⟩
          · rw [rectangle?_eq_none hnone', Value.rectangle?_eq, Value.fittingRows?_onScalarsAll,
              hnone]
            exact hcell
          · obtain ⟨r, m, hr, hm, hyields⟩ := yields_rectangle hrows hfitting hsame hleaves
            rw [hr, hm]
            exact hyields.map (g := fun m => (Value.matrix m).anonymous) fun _ => rfl

/-- An object is read as the normal form of what is kept of its value. -/
theorem yields_hostValue (autoconversion : Bool) (hv : N.Represents h context v ref)
    (hflat : v.matrices = []) :
    N.Yields Value.anonymous (hostValue h context autoconversion ref) v.extracted
      ((v.onScalars N.kept).normal autoconversion).anonymous := by
  unfold hostValue Value.normal
  rw [Value.spread_of_flat _ ((Value.matrices_onScalars v).trans hflat)]
  rcases hv.items? with ⟨hplain, hitems⟩ | ⟨items, refs, rfl, hitems, heach⟩
  · rw [hitems]
    have hread := yields_plainValue hv hplain
    cases v with
    | cell items => cases hplain
    | _ => exact hread
  · rw [hitems]
    exact yields_sequenceValue autoconversion heach

end Numerals
end ForeignBridge
