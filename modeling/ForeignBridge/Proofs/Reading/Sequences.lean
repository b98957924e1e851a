import ForeignBridge.Proofs.Reading.Rectangles

/-!
# Reading sequences

A sequence is converted to its value, item by item, or fails as the first item does that fails.
What was borrowed for it is given back, also what earlier items hold when a later one fails.
-/

namespace ForeignBridge
namespace Simulation

/-!
# What is lent in the end
-/

theorem refs_cell (values : List Value) : (Value.cell values).refs = Value.refsAll values := by
  unfold Value.refs
  rw [Value.handles]
  rfl

theorem lentBy_cell (held : Multiset Ref) (outcome : Except BridgeError (List Value)) :
    lentBy Value.refs held (outcome.map .cell) = lentBy Value.refsAll held outcome := by
  cases outcome with
  | ok values =>
      show ((Value.cell values).refs : Multiset Ref) + held = _
      rw [refs_cell]
      rfl
  | error error => rfl

/-- A value without handles. -/
theorem lentBy_of_refs {held : Multiset Ref} {v : Value} (hrefs : v.refs = []) :
    lentBy Value.refs held (.ok v) = held := by
  show (v.refs : Multiset Ref) + held = held
  rw [hrefs, Multiset.coe_nil, zero_add]

/-!
# Handles of live objects
-/

theorem refs_of_map {α : Type} {outcome : Except BridgeError α} {f : α → Value} {v : Value}
    (hv : outcome.map f = .ok v) (hrefs : ∀ a, (f a).refs = []) : v.refs = [] := by
  cases outcome with
  | ok a =>
      cases hv
      exact hrefs a
  | error error => cases hv

/-- A plain value is a handle of the very object, or none. -/
theorem refs_plainValue {h : Heap Object} {context : Nat} {ref : Ref} {v : Value}
    (hv : plainValue h context ref = .ok v) : v.refs ⊆ [ref] := by
  have hnone : v.refs = [] → v.refs ⊆ [ref] := fun hnil => by
    rw [hnil]
    exact List.nil_subset _
  unfold plainValue at hv
  cases hcontent : contentOf h ref with
  | null | bool _ | float _ _ | text _ =>
      rw [hcontent] at hv
      cases hv
      exact List.nil_subset _
  | int value tag =>
      rw [hcontent] at hv
      exact hnone (refs_of_map hv fun _ => rfl)
  | bytes octets =>
      rw [hcontent] at hv
      exact hnone (refs_of_map hv fun _ => rfl)
  | units codes =>
      rw [hcontent] at hv
      dsimp only at hv
      cases hcodes : Utf16.decode? codes with
      | none =>
          rw [hcodes] at hv
          cases hv
      | some text =>
          rw [hcodes] at hv
          cases hv
          exact List.nil_subset _
  | _ =>
      rw [hcontent] at hv
      cases hv
      exact List.Subset.refl _

theorem refs_mapM {read : Ref → Except BridgeError Value} {refs : List Ref} {values : List Value}
    {p : Ref → Prop} (hread : ∀ ref ∈ refs, ∀ v, read ref = .ok v → ∀ other ∈ v.refs, p other)
    (hvalues : refs.mapM read = .ok values) : ∀ other ∈ Value.refsAll values, p other := by
  induction refs generalizing values with
  | nil =>
      cases hvalues
      exact fun other hother => absurd hother List.not_mem_nil
  | cons ref rest ih =>
      rw [List.mapM_cons] at hvalues
      cases hfirst : read ref with
      | error error =>
          rw [hfirst] at hvalues
          cases hvalues
      | ok v =>
          cases hrest : rest.mapM read with
          | error error =>
              rw [hfirst, hrest] at hvalues
              cases hvalues
          | ok others =>
              rw [hfirst, hrest] at hvalues
              cases hvalues
              intro other hother
              rw [Value.refsAll_cons] at hother
              rcases List.mem_append.1 hother with hhead | htail
              · exact hread ref List.mem_cons_self v hfirst other hhead
              · exact ih (fun ref href => hread ref (List.mem_cons_of_mem _ href)) hrest other htail

end Simulation

/-- A conversion takes over a reference and comes to a value, whose handles are of known objects, or
to an error. -/
structure Lender.Turns {σ : Type} (L : Lender σ) (convert : Ref → Crossing Value) (ref : Ref)
    (outcome : Except BridgeError Value) : Prop where
  lends : ∀ held,
    L.Lends (convert ref) (ref ::ₘ held) outcome (Simulation.lentBy Value.refs held outcome)
  known : ∀ v, outcome = .ok v → ∀ other ∈ v.refs, L.Knows other

namespace Context

open Crossing Simulation

variable {σ : Type} (ctx : Context) {L : Lender σ} (hL : L.Serves) {held : Multiset Ref} {ref : Ref}

include hL

theorem turns_plain (hknown : L.Knows ref)
    (hplain : (contentOf L.heap ref).items? = none) (convertSequence : Ref → Crossing Value) :
    L.Turns (ctx.objectToHost convertSequence) ref (plainValue L.heap ctx.id ref) where
  lends held := ctx.lends_plainToHost hL hknown hplain convertSequence
  known v hv other hother := by
    rw [List.mem_singleton.1 (refs_plainValue hv hother)]
    exact hknown

/-!
# Item by item
-/

omit ctx in
theorem lends_convertEach {convert : Ref → Crossing Value} {read : Ref → Except BridgeError Value}
    {refs : List Ref} (hknown : ∀ ref ∈ refs, L.Knows ref)
    (hconvert : ∀ ref ∈ refs, L.Turns convert ref (read ref)) :
    L.Lends (convertEach convert refs) ((refs : Multiset Ref) + held) (refs.mapM read)
      (lentBy Value.refsAll held (refs.mapM read)) := by
  induction refs generalizing held with
  | nil => exact Comes.pure
  | cons ref rest ih =>
      have hrest := List.forall_mem_of_forall_mem_cons hknown
      have hfirst := hconvert ref List.mem_cons_self
      have hlends := hfirst.lends ((rest : Multiset Ref) + held)
      rw [← Multiset.cons_coe, Multiset.cons_add, List.mapM_cons]
      unfold convertEach
      cases hread : read ref with
      | error error =>
          rw [hread] at hlends
          exact (Comes.keeping_error hlends (Lender.succeeds_releaseAll hL hrest held)).bind_error
      | ok v =>
          have hshift : lentBy Value.refs ((rest : Multiset Ref) + held) (.ok v) =
              (rest : Multiset Ref) + ((v.refs : Multiset Ref) + held) := add_left_comm _ _ _
          have hothers : L.Lends (convertEach convert rest)
              ((rest : Multiset Ref) + ((v.refs : Multiset Ref) + held)) _ _ :=
            ih hrest (List.forall_mem_of_forall_mem_cons hconvert)
          rw [hread, hshift] at hlends
          apply Comes.bind (Comes.keeping hlends)
          cases hvalues : rest.mapM read with
          | error error =>
              rw [hvalues] at hothers
              exact (Comes.keeping_error hothers
                (Lender.succeeds_releaseAll hL (hfirst.known v hread) held)).bind_error
          | ok values =>
              have hall : lentBy Value.refsAll held (.ok (v :: values)) =
                  lentBy Value.refsAll ((v.refs : Multiset Ref) + held) (.ok values) := by
                show ((Value.refsAll (v :: values) : List Ref) : Multiset Ref) + held = _
                rw [Value.refsAll_cons, ← Multiset.coe_add, add_assoc, add_left_comm]
                rfl
              rw [hvalues] at hothers
              apply Comes.bind (Comes.keeping hothers)
              rw [← hall]
              exact Comes.pure

omit ctx in
/-- The cell of borrowed items. -/
theorem lends_cell {convert : Ref → Crossing Value} {read : Ref → Except BridgeError Value}
    {items : List Ref} (hitems : ∀ item ∈ items, L.Knows item)
    (hconvert : ∀ item ∈ items, L.Turns convert item (read item)) :
    L.Lends (convertEach convert items >>= fun values => pure (.cell values))
      ((items : Multiset Ref) + held) ((items.mapM read).map Value.cell)
      (lentBy Value.refs held ((items.mapM read).map Value.cell)) := by
  rw [lentBy_cell]
  exact (lends_convertEach hL hitems hconvert).map

/-!
# Sequences
-/

omit ctx in
theorem knows_of_elementValue {context : Nat} {v : Value} (hknown : L.Knows ref)
    (hv : elementValue L.heap context ref = .ok v) :
    ∀ other ∈ v.refs, L.Knows other := by
  unfold elementValue at hv
  cases hitems : (contentOf L.heap ref).items? with
  | none =>
      rw [hitems] at hv
      intro other hother
      rw [List.mem_singleton.1 (refs_plainValue hv hother)]
      exact hknown
  | some inner =>
      rw [hitems] at hv
      dsimp only at hv
      split at hv
      · cases hv
        rw [Value.refs_placeholders]
        exact fun other hother => absurd hother List.not_mem_nil
      · cases hvalues : inner.mapM (plainValue L.heap context) with
        | error error =>
            rw [hvalues] at hv
            cases hv
        | ok values =>
            rw [hvalues] at hv
            cases hv
            rw [refs_cell]
            have hread : ∀ item ∈ inner, ∀ w, plainValue L.heap context item = .ok w →
                ∀ other ∈ w.refs, L.Knows other := by
              intro item hitem w hw other hother
              rw [List.mem_singleton.1 (refs_plainValue hw hother)]
              exact hL.knows_items hknown hitems item hitem
            exact refs_mapM hread hvalues

theorem lends_elementToHost {convert : Ref → Crossing Value}
    (hconvert : ∀ item, L.Knows item → (contentOf L.heap item).items? = none →
      L.Turns convert item (plainValue L.heap ctx.id item))
    (hknown : L.Knows ref) :
    L.Lends (ctx.elementToHost convert ref) (ref ::ₘ held)
      (elementValue L.heap ctx.id ref)
      (lentBy Value.refs held (elementValue L.heap ctx.id ref)) := by
  unfold elementToHost elementValue
  rcases hL.kindOf (ref ::ₘ held) hknown with ⟨kind, hshows, hkind⟩
  apply Comes.bind hkind.lends
  cases hitems : (contentOf L.heap ref).items? with
  | none =>
      rw [if_neg (hshows.ne_sequence hitems)]
      exact (hconvert ref hknown hitems).lends held
  | some inner =>
      have hinner := hL.knows_items hknown hitems
      rw [if_pos (hshows.eq_sequence hitems)]
      apply lends_owning hL hknown
      rw [← lentBy_cons]
      apply Comes.bind (ctx.lends_items hL hknown hitems)
      apply Comes.bind (lends_anySequence hL hinner)
      dsimp only
      cases hany : inner.any fun item => (contentOf L.heap item).items?.isSome with
      | true =>
          rw [if_pos rfl, if_pos rfl, lentBy_of_refs (Value.refs_placeholders _)]
          apply Comes.bind Comes.note
          apply Comes.bind (Comes.releaseAll (Lender.succeeds_releaseAll hL hinner (ref ::ₘ held)))
          exact Comes.pure
      | false =>
          rw [if_neg Bool.false_ne_true, if_neg Bool.false_ne_true]
          apply lends_cell hL hinner
          intro item hitem
          apply hconvert item (hinner item hitem)
          rw [List.any_eq_false] at hany
          exact Option.not_isSome_iff_eq_none.1 (hany item hitem)

/-- An item of a sequence is read as it is, or one level deep if it is a sequence. -/
theorem turns_elementToHost {convert : Ref → Crossing Value}
    (hconvert : ∀ item, L.Knows item → (contentOf L.heap item).items? = none →
      L.Turns convert item (plainValue L.heap ctx.id item))
    (hknown : L.Knows ref) :
    L.Turns (ctx.elementToHost convert) ref (elementValue L.heap ctx.id ref) where
  lends _ := ctx.lends_elementToHost hL hconvert hknown
  known _ hv := knows_of_elementValue hL hknown hv

/-- A sequence is converted item by item, and then it is given back. -/
theorem comes_sequenceToHost {convert : Ref → Crossing Value} {items : List Ref}
    {after : Except BridgeError Value → σ} (hknown : L.Knows ref)
    (hend : ∀ outcome, L.Ends ref (lentBy Value.refs held outcome) (after outcome))
    (hconvert : ∀ item ∈ items, L.Turns convert item (elementValue L.heap ctx.id item))
    (hitems : (contentOf L.heap ref).items? = some items) :
    (ctx.sequenceToHost convert ref).Comes L.answer (L.lending held)
      (sequenceValue L.heap ctx.id ctx.settings.matrixAutoconversion items)
      (after (sequenceValue L.heap ctx.id ctx.settings.matrixAutoconversion items)) := by
  have hall := hL.knows_items hknown hitems
  have hcell : L.Lends _ ((items : Multiset Ref) + held) _ _ := lends_cell hL hall hconvert
  unfold sequenceToHost
  refine comes_of_ends ?_ (hend _)
  unfold sequenceValue
  apply Comes.bind (ctx.lends_items hL hknown hitems)
  cases ctx.settings.matrixAutoconversion with
  | false => exact hcell
  | true =>
      cases items with
      | nil => exact Comes.pure
      | cons first rest =>
          have hmatrix : L.Lends (ctx.matrixToHost (first :: rest))
              (((first :: rest : List Ref) : Multiset Ref) + held) _ _ :=
            ctx.lends_matrixToHost hL hall
          have hreturned : (Program.releaseAll (first :: rest)).Succeeds L.answer
              (L.lending (((first :: rest : List Ref) : Multiset Ref) + held)) ()
              (L.lending held) := Lender.succeeds_releaseAll hL hall held
          dsimp only [List.isEmpty_cons]
          rw [if_pos rfl, if_neg Bool.false_ne_true, if_pos rfl, if_neg Bool.false_ne_true]
          cases hr : rectangle? L.heap (first :: rest) with
          | none =>
              rw [hr] at hmatrix
              exact Comes.bind (Comes.keeping hmatrix) hcell
          | some r =>
              rw [hr, Option.elim_some] at hmatrix
              dsimp only
              cases hm : r.matrix with
              | error error =>
                  rw [hm] at hmatrix
                  exact (Comes.keeping_error hmatrix hreturned).bind_error
              | ok m =>
                  rw [hm] at hmatrix
                  apply Comes.bind (Comes.keeping hmatrix)
                  apply Comes.bind (Comes.releaseAll hreturned)
                  have hlent : lentBy Value.refs held (Except.map Value.matrix (.ok m)) = held :=
                    lentBy_of_refs rfl
                  rw [hlent]
                  exact Comes.pure

/-- Every object is read as its value, and then it is given back. -/
theorem comes_toHost {after : Except BridgeError Value → σ} (hknown : L.Knows ref)
    (hend : ∀ outcome, L.Ends ref (lentBy Value.refs held outcome) (after outcome)) :
    (ctx.toHost ref).Comes L.answer (L.lending held)
      (hostValue L.heap ctx.id ctx.settings.matrixAutoconversion ref)
      (after (hostValue L.heap ctx.id ctx.settings.matrixAutoconversion ref)) := by
  have hplain : ∀ nesting item, L.Knows item → (contentOf L.heap item).items? = none →
      L.Turns (ctx.toHostWithin nesting) item (plainValue L.heap ctx.id item) := by
    intro nesting item hitem hnone
    cases nesting with
    | zero => exact ctx.turns_plain hL hitem hnone _
    | succ nesting => exact ctx.turns_plain hL hitem hnone _
  unfold toHost toHostWithin hostValue
  cases hitems : (contentOf L.heap ref).items? with
  | none => exact ctx.comes_plainToHost hL hknown hend hitems _
  | some items =>
      unfold objectToHost
      rcases hL.kindOf held hknown with ⟨kind, hshows, hkind⟩
      apply Comes.bind hkind.lends
      rw [hshows.eq_sequence hitems]
      apply ctx.comes_sequenceToHost hL hknown hend _ hitems
      intro item hitem
      exact ctx.turns_elementToHost hL (hplain ctx.nesting)
        (hL.knows_items hknown hitems item hitem)

theorem lends_toHost (hknown : L.Knows ref) :
    L.Lends (ctx.toHost ref) (ref ::ₘ held)
      (hostValue L.heap ctx.id ctx.settings.matrixAutoconversion ref)
      (lentBy Value.refs held
        (hostValue L.heap ctx.id ctx.settings.matrixAutoconversion ref)) :=
  ctx.comes_toHost hL hknown (hL.ends hknown Value.refs held)

end Context
end ForeignBridge
