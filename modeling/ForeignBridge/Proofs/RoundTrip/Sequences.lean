import ForeignBridge.Proofs.RoundTrip.Rectangles

/-!
# Lists that come back

The items of a list are converted one by one, each in its turn: those still to come are held, and so
is what has been made of those before.  Lists inside a list are looked into once more and no further.
-/

namespace ForeignBridge
namespace Context

open Crossing Simulation

variable (ctx : Context)

section Lists

variable {depth : Nat} {base : Simulation}

/-!
# Items
-/

theorem reaches_convertEach {convert : Ref → Crossing Value} {target : Value → Value}
    {values : List Value} (hconvert : ∀ v ∈ values, ctx.ReadsAs depth base convert v (target v))
    (hown : ∀ handle ∈ Value.handlesAll values, handle.context = ctx.id) {h : Heap Object}
    {held : Multiset Ref} {refs : List Ref} (hb : h.Balanced ((refs : Multiset Ref) + held))
    (hvalues : StandEach h values refs) {post : List Value → Simulation → Prop}
    (hpost : ∀ ws h', Value.anonymousAll ws = Value.anonymousAll (values.map target) →
      h'.Balanced ((Value.refsAll ws : Multiset Ref) + held) → h.Older h' →
      post ws (base.withHeap h')) :
    Reaches (answer (run depth)) (convertEach convert refs) (base.withHeap h) post := by
  induction values generalizing h held refs post with
  | nil =>
      unfold StandEach at hvalues
      rw [hvalues] at hb ⊢
      exact Reaches.pure (hpost [] h rfl hb (Heap.Older.refl h))
  | cons v rest ih =>
      unfold StandEach at hvalues
      rcases hvalues with ⟨ref, others, hsplit, hv, hothers⟩
      rw [hsplit, ← Multiset.cons_coe, ← Multiset.singleton_add, add_assoc] at hb
      rw [Value.handlesAll] at hown
      rw [hsplit]
      unfold convertEach
      apply Reaches.bind
      apply Reaches.keeping
      apply hconvert v List.mem_cons_self h _ ref _ hb hv fun handle hhandle =>
        hown handle (List.mem_append_left _ hhandle)
      intro w h' hw hb' hold
      have hothers' := standEach_lasts hb' hold hothers fun other hother => by simp [hother]
      rw [add_left_comm] at hb'
      apply Reaches.bind
      apply Reaches.keeping
      apply ih (fun u hu => hconvert u (List.mem_cons_of_mem v hu))
        (fun handle hhandle => hown handle (List.mem_append_right _ hhandle)) hb' hothers'
      intro ws h'' hws hb'' hold'
      apply Reaches.pure
      apply hpost (w :: ws) h'' _ _ (hold.trans hold')
      · rw [List.map_cons, Value.anonymousAll, Value.anonymousAll, hw, hws]
      · rw [Value.refsAll_cons, ← Multiset.coe_add, add_assoc, add_left_comm]
        exact hb''

variable (hready : base.Ready)

include hready

/-- Of a list whose items have been converted its own reference is given back. -/
theorem reaches_cell {convert : Ref → Crossing Value} {target : Value → Value}
    {values : List Value} (hconvert : ∀ v ∈ values, ctx.ReadsAs depth base convert v (target v))
    (hown : ∀ handle ∈ Value.handlesAll values, handle.context = ctx.id) {h : Heap Object}
    {held : Multiset Ref} {refs : List Ref} {sequence : Ref}
    (hb : h.Balanced ((refs : Multiset Ref) + ({sequence} + held)))
    (hvalues : StandEach h values refs) {post : Value → Simulation → Prop}
    (hpost : Expects base h held (.cell (values.map target)) post) :
    Reaches (answer (run depth)) (convertEach convert refs >>= fun ws => pure (.cell ws))
      (base.withHeap h) fun w s' => (Program.releaseAll [sequence]).Reaches (answer (run depth)) s'
        fun _ s'' => post w s'' := by
  apply Reaches.bind
  apply ctx.reaches_convertEach hconvert hown hb hvalues
  intro ws h' hws hb' hold
  apply Reaches.pure
  rw [add_left_comm] at hb'
  apply reaches_releaseOne hready hb'
  intro h'' hb'' hold'
  apply hpost (.cell ws) h'' _ hb'' (hold.trans hold')
  rw [Value.anonymous, Value.anonymous, hws]

/-!
# Lists in lists
-/

theorem readsAs_elementToHost {convert : Ref → Crossing Value}
    (hconvert : ∀ v : Value, v.items? = none → ctx.ReadsAs depth base convert v v) (v : Value) :
    ctx.ReadsAs depth base (ctx.elementToHost convert) v v.normalElement := by
  intro h held ref post hb hv hown hpost
  rcases exists_kind hv with ⟨object, hget, hsequence, -⟩
  unfold elementToHost
  apply Reaches.bind
  apply reaches_kindOf hready hget
  cases v with
  | cell items =>
      rw [Value.normalElement] at hpost
      rw [if_pos (hsequence.2 rfl)]
      apply Reaches.owningAll
      apply Reaches.bind
      apply ctx.reaches_items hready hv (by simp) hb
      intro refs h' hb' hold hrefs
      apply Reaches.bind
      apply reaches_anySequence hready hrefs
      cases hany : items.any fun item => item.items?.isSome with
      | true =>
          rw [if_pos hany] at hpost
          apply Reaches.bind
          apply Reaches.note
          apply Reaches.bind
          apply Reaches.releaseAll
          apply reaches_releaseAll hready hb'
          intro h'' hb'' hold'
          apply Reaches.pure
          rw [length_of_standEach hrefs]
          exact reaches_given hready hb'' (hpost.older (hold.trans hold'))
            (Value.refs_placeholders items.length)
      | false =>
          rw [if_neg (Bool.eq_false_iff.1 hany)] at hpost
          rw [← List.map_id items] at hpost
          have hplain : ∀ item ∈ items, ctx.ReadsAs depth base convert item item := by
            intro item hitem
            apply hconvert
            exact Option.not_isSome_iff_eq_none.1 (List.any_eq_false.1 hany item hitem)
          exact ctx.reaches_cell hready hplain hown hb' hrefs (hpost.older hold)
  | undefined | scalar _ | text _ | matrix _ | foreign _ =>
      have hother : object.kind ≠ .sequence := fun hkind => nomatch hsequence.1 hkind
      rw [if_neg hother]
      exact hconvert _ rfl h held ref post hb hv hown hpost

theorem readsAs_sequenceToHost {convert : Ref → Crossing Value}
    (hconvert : ∀ v : Value, ctx.ReadsAs depth base convert v v.normalElement)
    (items : List Value) :
    ctx.ReadsAs depth base (ctx.sequenceToHost convert) (.cell items)
      (Value.normalList ctx.settings.matrixAutoconversion items) := by
  intro h held ref post hb hv hown hpost
  unfold Value.normalList at hpost
  unfold sequenceToHost
  apply Reaches.owningAll
  apply Reaches.bind
  apply ctx.reaches_items hready hv (by simp) hb
  intro refs h' hb' hold hrefs
  cases hauto : ctx.settings.matrixAutoconversion with
  | false =>
      rw [hauto] at hpost
      exact ctx.reaches_cell hready (fun v _ => hconvert v) hown hb' hrefs (hpost.older hold)
  | true =>
      rw [hauto, if_pos rfl] at hpost
      rw [if_pos rfl]
      have hempty : refs.isEmpty = items.isEmpty := by
        rw [Bool.eq_iff_iff, List.isEmpty_iff_length_eq_zero, List.isEmpty_iff_length_eq_zero,
          length_of_standEach hrefs]
      cases hnil : items.isEmpty with
      | true =>
          rw [hnil] at hempty
          rw [hnil, if_pos rfl] at hpost
          rw [List.isEmpty_iff.1 hempty, Multiset.coe_nil, zero_add] at hb'
          rw [hempty, if_pos rfl]
          exact Reaches.pure (reaches_given hready hb' (hpost.older hold) rfl)
      | false =>
          rw [hnil, if_neg nofun] at hpost
          rw [hempty, hnil, if_neg nofun]
          apply Reaches.bind
          apply Reaches.keeping
          apply ctx.reaches_matrixToHost hready hb' hrefs fun item hitem =>
            Multiset.mem_add.2 (.inl hitem)
          intro h'' hb'' hold'
          cases hrectangle : Value.rectangle? items with
          | none =>
              rw [hrectangle] at hpost
              have hrefs' := standEach_lasts hb'' hold' hrefs fun item hitem => by simp [hitem]
              exact ctx.reaches_cell hready (fun v _ => hconvert v) hown hb'' hrefs'
                (hpost.older (hold.trans hold'))
          | some m =>
              rw [hrectangle] at hpost
              apply Reaches.bind
              apply Reaches.releaseAll
              apply reaches_releaseAll hready hb''
              intro last hlast hold''
              exact Reaches.pure (reaches_given hready hlast
                (hpost.older ((hold.trans hold').trans hold'')) rfl)

/-!
# Whole values
-/

theorem readsAs_toHostWithin {v : Value} (n : Nat) (hplain : v.items? = none) :
    ctx.ReadsAs depth base (ctx.toHostWithin n) v v := by
  cases n with
  | zero => exact ctx.readsAs_plainToHost hready hplain
  | succ n => exact ctx.readsAs_plainToHost hready hplain

/-- What stands for a list is read as the list is by its shape. -/
theorem readsAs_toHost_cell (items : List Value) :
    ctx.ReadsAs depth base ctx.toHost (.cell items)
      (Value.normalList ctx.settings.matrixAutoconversion items) := by
  intro h held ref post hb hv hown hpost
  rcases exists_kind hv with ⟨object, hget, hsequence, -⟩
  have hkind : object.kind = .sequence := hsequence.2 rfl
  have helement : ∀ v : Value, ctx.ReadsAs depth base
      (ctx.elementToHost (ctx.toHostWithin ctx.nesting)) v v.normalElement :=
    ctx.readsAs_elementToHost hready fun v hplain =>
      ctx.readsAs_toHostWithin hready ctx.nesting hplain
  unfold toHost toHostWithin objectToHost
  apply Reaches.bind
  apply reaches_kindOf hready hget
  rw [hkind]
  exact ctx.readsAs_sequenceToHost hready helement items h held ref post hb hv hown hpost

/-- A value that has been taken to a runtime comes back as its normal form, and one reference is held
for each of its handles. -/
theorem reaches_trip (v : Value) (hshapes : ∀ m ∈ v.matrices, m.shape?.isSome)
    {h : Heap Object} {held : Multiset Ref} (hb : h.Balanced held)
    (hs : ctx.Suits h held v.handles) {post : Value → Simulation → Prop}
    (hpost : Expects base h held (v.normal ctx.settings.matrixAutoconversion) post) :
    Reaches (answer (run depth)) (ctx.toForeign v >>= ctx.toHost) (base.withHeap h) post := by
  rw [← Value.handles_spread v] at hs
  rw [← ctx.toForeign_spread v hshapes]
  apply Reaches.bind
  apply ctx.reaches_toForeign hready v.spread (Value.matrices_spread v) hb hs
  intro ref h' hb' hold hv
  have hexpects := hpost.older hold
  unfold Value.normal at hexpects
  cases hspread : v.spread with
  | cell items =>
      rw [hspread] at hv hs hexpects
      exact ctx.readsAs_toHost_cell hready items h' held ref _ hb' hv hs.own hexpects
  | undefined | scalar _ | text _ | matrix _ | foreign _ =>
      rw [hspread] at hv hs hexpects
      exact ctx.readsAs_toHostWithin hready _ rfl h' held ref _ hb' hv hs.own hexpects

theorem reaches_roundTrip (v : Value) (hshapes : ∀ m ∈ v.matrices, m.shape?.isSome)
    {h : Heap Object} {held : Multiset Ref} (hb : h.Balanced held)
    (hs : ctx.Suits h held v.handles) :
    Reaches (answer (run depth)) (ctx.toForeign v >>= ctx.toHost) (base.withHeap h)
      fun w _ => w.anonymous = (v.normal ctx.settings.matrixAutoconversion).anonymous :=
  ctx.reaches_trip hready v hshapes hb hs fun _ _ hw _ _ => hw

end Lists

end Context
end ForeignBridge
