import ForeignBridge.Proofs.Crossing.Tidy

/-!
# Tidy conversions

A conversion to the runtime hands over the one new reference that it made, and a conversion to the
host those inside its result.  The lemmas follow the modules of the bridge.
-/

namespace ForeignBridge

/-- The references that a host value owns, one for each handle in it. -/
def Value.refs (v : Value) : List Ref := v.handles.map Handle.ref

/-- The references that a list of host values owns. -/
def Value.refsAll (values : List Value) : List Ref := (handlesAll values).map Handle.ref

theorem Value.handlesAll_eq_flatMap (values : List Value) :
    handlesAll values = values.flatMap handles := by
  induction values with
  | nil => rfl
  | cons v rest ih => rw [handlesAll, ih, List.flatMap_cons]

theorem Value.handlesAll_append (values others : List Value) :
    handlesAll (values ++ others) = handlesAll values ++ handlesAll others := by
  simp only [handlesAll_eq_flatMap, List.flatMap_append]

theorem Value.handlesAll_perm {values others : List Value} (h : values.Perm others) :
    (handlesAll values).Perm (handlesAll others) := by
  rw [handlesAll_eq_flatMap, handlesAll_eq_flatMap]
  exact h.flatMap_right _

theorem Value.mem_handlesAll {values : List Value} {v : Value} {h : Handle} (hv : v ∈ values)
    (hh : h ∈ v.handles) : h ∈ handlesAll values := by
  rw [handlesAll_eq_flatMap]
  exact List.mem_flatMap.2 ⟨v, hv, hh⟩

theorem Value.refsAll_cons (v : Value) (rest : List Value) :
    refsAll (v :: rest) = v.refs ++ refsAll rest := by
  unfold refsAll refs
  rw [handlesAll, List.map_append]

theorem Value.refs_placeholders (n : Nat) :
    (Value.cell (List.replicate n .undefined)).refs = [] := by
  unfold refs
  rw [handles, handlesAll_eq_flatMap, List.flatMap_replicate]
  simp [handles]

namespace Context

open Crossing

theorem map_text_of_mapM {items : List Value} {texts : List String}
    (h : items.mapM Value.text? = some texts) : items = texts.map .text := by
  induction items generalizing texts with
  | nil =>
      cases h
      rfl
  | cons v rest ih =>
      rw [List.mapM_cons] at h
      rcases Option.bind_eq_some_iff.1 h with ⟨text, htext, htail⟩
      rcases Option.bind_eq_some_iff.1 htail with ⟨others, hothers, hpure⟩
      cases hpure
      cases v with
      | text t =>
          cases htext
          rw [ih hothers, List.map_cons]
      | _ => cases htext

theorem eq_of_allTexts? {items : List Value} {texts : List String}
    (h : allTexts? items = some texts) : items = texts.map .text := by
  cases items with
  | nil => cases h
  | cons v rest => exact map_text_of_mapM h

variable (ctx : Context) {writes : Bool} {prefixes : List String} {α : Type}

theorem tidy_refuse {fault : ConversionFault} {after : α → Multiset Ref} :
    Tidy ctx writes prefixes 0 (refuse fault) after :=
  Tidy.throw fun _ _ h => by cases h

/-!
# From the host to the runtime
-/

theorem tidy_scalarToForeign (s : Scalar) :
    Tidy ctx writes prefixes 0 (ctx.scalarToForeign s) fun ref => {ref} := by
  unfold scalarToForeign
  apply Tidy.bind (Tidy.note rfl)
  intro _
  exact Tidy.checkedRef List.mem_cons_self (fun _ => rfl) (fun _ => rfl) fun _ _ => rfl

theorem tidy_textToForeign (text : String) :
    Tidy ctx writes prefixes 0 (ctx.textToForeign text) fun ref => {ref} :=
  Tidy.checkedRef List.mem_cons_self (fun _ => rfl) (fun _ => rfl) fun _ _ => rfl

theorem tidy_buildTuple (items : List Ref) :
    Tidy ctx writes prefixes (items : Multiset Ref) (ctx.buildTuple items) fun ref => {ref} := by
  refine Tidy.of_eq (Tidy.owningAll items ?_) (add_zero _).symm fun _ => rfl
  exact Tidy.checkedRef List.mem_cons_self (fun _ => rfl) (fun _ => rfl) fun _ _ => rfl

theorem tidy_matrixToForeign (m : Matrix) :
    Tidy ctx writes prefixes 0 (ctx.matrixToForeign m) fun ref => {ref} := by
  unfold matrixToForeign
  cases m.rows? with
  | none => exact ctx.tidy_refuse
  | some rows =>
      have hrow : ∀ leaves : List Scalar,
          Tidy ctx writes prefixes 0 (acquireEach ctx.scalarToForeign leaves >>= ctx.buildTuple)
            fun ref => {ref} :=
        fun leaves =>
          Tidy.bind (Tidy.acquireEach ctx.tidy_scalarToForeign leaves) ctx.tidy_buildTuple
      exact Tidy.bind (Tidy.acquireEach hrow rows) ctx.tidy_buildTuple

theorem tidy_handleToForeign (h : Handle) :
    Tidy ctx writes prefixes 0 (ctx.handleToForeign h) fun ref => {ref} := by
  unfold handleToForeign
  by_cases hown : h.context = ctx.id
  · rw [if_pos hown]
    apply Tidy.bind Tidy.retain
    intro _
    exact Tidy.pure rfl
  · rw [if_neg hown]
    exact ctx.tidy_refuse

mutual

theorem tidy_toForeign (v : Value) :
    Tidy ctx writes prefixes 0 (ctx.toForeign v) fun ref => {ref} := by
  cases v with
  | undefined =>
      unfold toForeign
      exact Tidy.null
  | scalar s =>
      unfold toForeign
      exact ctx.tidy_scalarToForeign s
  | text s =>
      unfold toForeign
      exact ctx.tidy_textToForeign s
  | cell items =>
      unfold toForeign
      cases allTexts? items with
      | some texts =>
          exact Tidy.bind (Tidy.acquireEach ctx.tidy_textToForeign texts) ctx.tidy_buildTuple
      | none => exact Tidy.bind (tidy_toForeignEach items) ctx.tidy_buildTuple
  | matrix m =>
      unfold toForeign
      exact ctx.tidy_matrixToForeign m
  | foreign h =>
      unfold toForeign
      exact ctx.tidy_handleToForeign h

theorem tidy_toForeignEach (values : List Value) :
    Tidy ctx writes prefixes 0 (ctx.toForeignEach values) fun refs => (refs : Multiset Ref) := by
  cases values with
  | nil =>
      unfold toForeignEach
      exact Tidy.pure rfl
  | cons value values =>
      unfold toForeignEach
      apply Tidy.bind (tidy_toForeign value)
      intro ref
      apply Tidy.bind (Tidy.of_eq (Tidy.keeping [ref] (tidy_toForeignEach values))
        (add_zero _).symm fun _ => rfl)
      intro refs
      exact Tidy.pure rfl

end

theorem tidy_tupleToForeign (values : List Value) :
    Tidy ctx writes prefixes 0 (ctx.tupleToForeign values) fun ref => {ref} :=
  Tidy.bind (ctx.tidy_toForeignEach values) ctx.tidy_buildTuple

/-!
# From the runtime to the host
-/

theorem tidy_leafToHost (object : Ref) :
    Tidy ctx writes prefixes 0 (ctx.leafToHost object) fun _ => 0 := by
  unfold leafToHost
  apply Tidy.bind (Tidy.look rfl)
  intro kind
  split
  · exact Tidy.bind (Tidy.look rfl) fun _ => Tidy.pure rfl
  · exact Tidy.bind Tidy.integerToHost fun _ => Tidy.pure rfl
  · exact Tidy.bind Tidy.floatToHost fun _ => Tidy.pure rfl

/-!
# Sequences
-/

theorem tidy_itemsFrom (sequence : Ref) (index count : Nat) :
    Tidy ctx writes prefixes 0 (ctx.itemsFrom sequence index count)
      fun items => (items : Multiset Ref) := by
  induction count generalizing index with
  | zero => exact Tidy.pure rfl
  | succ count ih =>
      unfold itemsFrom
      rw [← bind_assoc]
      apply Tidy.bind
        (Tidy.checkedRef List.mem_cons_self (fun _ => rfl) (fun _ => rfl) fun _ _ => rfl)
      intro item
      apply Tidy.bind (Tidy.of_eq (Tidy.keeping [item] (ih (index + 1))) (add_zero _).symm
        fun _ => rfl)
      intro items
      exact Tidy.pure rfl

theorem tidy_items (sequence : Ref) :
    Tidy ctx writes prefixes 0 (ctx.items sequence) fun items => (items : Multiset Ref) := by
  unfold items
  rw [← bind_assoc]
  apply Tidy.bind
    (Tidy.checkedValue (fun h => by cases h) List.mem_cons_self (fun _ => rfl) (fun _ => rfl)
      fun _ _ => rfl)
  intro count
  exact ctx.tidy_itemsFrom sequence 0 count

theorem tidy_allNumeric {held : Multiset Ref} (objects : List Ref) :
    Tidy ctx writes prefixes held (allNumeric objects) fun _ => held := by
  induction objects with
  | nil => exact Tidy.pure rfl
  | cons object rest ih =>
      apply Tidy.bind (Tidy.look rfl)
      intro kind
      cases kind.isNumeric with
      | true => exact ih
      | false => exact Tidy.pure rfl

theorem tidy_anySequence {held : Multiset Ref} (objects : List Ref) :
    Tidy ctx writes prefixes held (anySequence objects) fun _ => held := by
  induction objects with
  | nil => exact Tidy.pure rfl
  | cons object rest ih =>
      apply Tidy.bind (Tidy.look rfl)
      intro kind
      by_cases hkind : kind = .sequence
      · rw [if_pos hkind]
        exact Tidy.pure rfl
      · rw [if_neg hkind]
        exact ih

theorem tidy_rowFits {held : Multiset Ref} (columns : Option Nat) (leaves : List Ref) :
    Tidy ctx writes prefixes held (rowFits columns leaves) fun _ => held := by
  unfold rowFits
  by_cases hlength : columns.getD leaves.length = leaves.length
  · rw [if_pos hlength]
    exact ctx.tidy_allNumeric leaves
  · rw [if_neg hlength]
    exact Tidy.pure rfl

/-- The leaves of all rows are held, if there are rows. -/
def heldRows (rows? : Option (List (List Ref))) : Multiset Ref := ((rows?.getD []).flatten : List Ref)

theorem tidy_numericRows (columns : Option Nat) (objects : List Ref) :
    Tidy ctx writes prefixes 0 (ctx.numericRows columns objects) heldRows := by
  induction objects generalizing columns with
  | nil =>
      unfold numericRows
      exact Tidy.pure rfl
  | cons object rest ih =>
      unfold numericRows
      apply Tidy.bind (Tidy.look rfl)
      intro kind
      by_cases hkind : kind = .sequence
      · rw [if_pos hkind]
        apply Tidy.bind (ctx.tidy_items object)
        intro leaves
        apply Tidy.bind (ctx.tidy_rowFits columns leaves)
        intro fits
        cases fits with
        | true =>
            apply Tidy.bind (Tidy.of_eq (Tidy.keeping leaves (ih (some leaves.length)))
              (add_zero _).symm fun _ => rfl)
            intro rows?
            cases rows? with
            | some rows => exact Tidy.pure rfl
            | none => exact Tidy.bind Tidy.releaseAll fun _ => Tidy.pure rfl
        | false =>
            apply Tidy.bind (Tidy.of_eq Tidy.releaseAll (add_zero _).symm fun _ => rfl)
            intro _
            exact Tidy.pure rfl
      · rw [if_neg hkind]
        exact Tidy.pure rfl

theorem tidy_matrixToHost (rows : List Ref) :
    Tidy ctx writes prefixes 0 (ctx.matrixToHost rows) fun _ => 0 := by
  unfold matrixToHost
  apply Tidy.bind (ctx.tidy_numericRows none rows)
  intro leaves?
  cases leaves? with
  | none => exact Tidy.pure rfl
  | some leaves =>
      refine Tidy.of_eq (Tidy.owningAll leaves.flatten ?_) (add_zero _).symm fun _ => rfl
      apply Tidy.bind (Tidy.mapM ctx.tidy_leafToHost leaves.flatten)
      intro elements
      dsimp only
      cases Matrix.ofDoubles rows.length ((leaves.head?.map List.length).getD 0) elements with
      | ok m => exact Tidy.pure rfl
      | error fault => exact ctx.tidy_refuse

/-- A conversion that takes over one reference and hands on those inside its result. -/
def TidyConversion (writes : Bool) (prefixes : List String) (convert : Ref → Crossing Value) :
    Prop :=
  ∀ object, Tidy ctx writes prefixes {object} (convert object) fun v => (v.refs : Multiset Ref)

theorem tidy_convertEach {convert : Ref → Crossing Value}
    (hconvert : ctx.TidyConversion writes prefixes convert) (objects : List Ref) :
    Tidy ctx writes prefixes (objects : Multiset Ref) (convertEach convert objects)
      fun values => (Value.refsAll values : Multiset Ref) := by
  induction objects with
  | nil =>
      unfold convertEach
      exact Tidy.pure rfl
  | cons object rest ih =>
      unfold convertEach
      apply Tidy.bind (Tidy.of_eq (Tidy.keeping rest (hconvert object))
        ((Multiset.coe_add rest [object]).trans (Multiset.coe_eq_coe.2 (List.perm_append_comm))).symm
        fun _ => rfl)
      intro value
      apply Tidy.bind (Tidy.of_eq (Tidy.keeping value.refs ih) (add_comm _ _) fun _ => rfl)
      intro values
      apply Tidy.pure
      rw [Multiset.coe_add]
      unfold Value.refsAll Value.refs
      rw [Value.handlesAll, List.map_append]

theorem tidy_plainToHost (object : Ref) (kind : ForeignKind) :
    Tidy ctx writes prefixes {object} (ctx.plainToHost object kind)
      fun v => (v.refs : Multiset Ref) := by
  have hhandle : Tidy ctx writes prefixes {object}
      (ctx.wrap object >>= fun h => Pure.pure (Value.foreign h)) fun v => (v.refs : Multiset Ref) :=
    Tidy.bind Tidy.wrap fun h => Tidy.pure rfl
  cases kind with
  | null => exact Tidy.owning_only (Tidy.pure rfl)
  | bool => exact Tidy.owning_only (Tidy.bind (Tidy.look rfl) fun _ => Tidy.pure rfl)
  | integer =>
      exact Tidy.owning_only (Tidy.bind Tidy.integerToHost fun _ => Tidy.pure rfl)
  | float =>
      exact Tidy.owning_only (Tidy.bind Tidy.floatToHost fun _ => Tidy.pure rfl)
  | bytes | unicode =>
      exact Tidy.owning_only (Tidy.bind Tidy.textToHost fun _ => Tidy.pure rfl)
  | sequence | attributeBag | object => exact hhandle

theorem tidy_sequenceToHost {convert : Ref → Crossing Value}
    (hconvert : ctx.TidyConversion writes prefixes convert) :
    ctx.TidyConversion writes prefixes (ctx.sequenceToHost convert) := by
  intro sequence
  unfold sequenceToHost
  apply Tidy.owning_only
  apply Tidy.bind (ctx.tidy_items sequence)
  intro items
  have hcell : Tidy ctx writes prefixes (items : Multiset Ref)
      (convertEach convert items >>= fun values => Pure.pure (Value.cell values))
      fun v => (v.refs : Multiset Ref) :=
    Tidy.bind (ctx.tidy_convertEach hconvert items) fun values => Tidy.pure rfl
  cases ctx.settings.matrixAutoconversion with
  | false => exact hcell
  | true =>
      cases items with
      | nil => exact Tidy.pure rfl
      | cons item rest =>
          apply Tidy.bind (Tidy.of_eq (Tidy.keeping (item :: rest) (ctx.tidy_matrixToHost (item :: rest)))
            (add_zero _).symm fun _ => add_zero _)
          intro matrix?
          cases matrix? with
          | some m =>
              apply Tidy.bind (Tidy.of_eq Tidy.releaseAll (add_zero _).symm fun _ => rfl)
              intro _
              exact Tidy.pure rfl
          | none => exact hcell

theorem tidy_elementToHost {convert : Ref → Crossing Value}
    (hconvert : ctx.TidyConversion writes prefixes convert) :
    ctx.TidyConversion writes prefixes (ctx.elementToHost convert) := by
  intro item
  unfold elementToHost
  apply Tidy.bind (Tidy.look rfl)
  intro kind
  by_cases hkind : kind = .sequence
  · rw [if_pos hkind]
    apply Tidy.owning_only
    apply Tidy.bind (ctx.tidy_items item)
    intro inner
    apply Tidy.bind (ctx.tidy_anySequence inner)
    intro nested
    cases nested with
    | true =>
        apply Tidy.bind (Tidy.note rfl)
        intro _
        apply Tidy.bind (Tidy.of_eq Tidy.releaseAll (add_zero _).symm fun _ => rfl)
        intro _
        apply Tidy.pure
        rw [Value.refs_placeholders, Multiset.coe_nil]
    | false => exact Tidy.bind (ctx.tidy_convertEach hconvert inner) fun values => Tidy.pure rfl
  · rw [if_neg hkind]
    exact hconvert item

theorem tidy_objectToHost {convertSequence : Ref → Crossing Value}
    (hconvert : ctx.TidyConversion writes prefixes convertSequence) :
    ctx.TidyConversion writes prefixes (ctx.objectToHost convertSequence) := by
  intro object
  unfold objectToHost
  apply Tidy.bind (Tidy.look rfl)
  intro kind
  cases kind with
  | sequence => exact hconvert object
  | null | bool | integer | float | bytes | unicode | attributeBag | object =>
      exact ctx.tidy_plainToHost object _

theorem tidy_toHostWithin (depth : Nat) :
    ctx.TidyConversion writes prefixes (ctx.toHostWithin depth) := by
  induction depth with
  | zero => exact ctx.tidy_objectToHost fun _ => Tidy.abort
  | succ depth ih =>
      exact ctx.tidy_objectToHost (ctx.tidy_sequenceToHost (ctx.tidy_elementToHost ih))

theorem tidy_toHost : ctx.TidyConversion writes prefixes ctx.toHost :=
  ctx.tidy_toHostWithin (ctx.nesting + 1)

end Context
end ForeignBridge
