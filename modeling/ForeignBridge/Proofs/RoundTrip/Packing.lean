import ForeignBridge.Proofs.Number.Rounding
import ForeignBridge.Proofs.RoundTrip.Unpacking
import ForeignBridge.Proofs.Text.Utf8

/-!
# Back from a runtime

What stands for a value is read back as its normal form.  Scalars, texts and handles come back as
they were; of a list its items are borrowed, one level or two, and given back.
-/

namespace ForeignBridge
namespace Simulation

variable {h : Heap Object}

/-- The kind of an object tells lists and numbers from the rest. -/
theorem exists_kind {v : Value} {ref : Ref} (hv : Stands h v ref) :
    ∃ object, h.get? ref = some object ∧
      (object.kind = .sequence ↔ v.items?.isSome = true) ∧
      object.kind.isNumeric = v.scalar?.isSome := by
  cases v with
  | undefined =>
      unfold Stands at hv
      exact ⟨_, hv, by decide, rfl⟩
  | scalar s =>
      unfold Stands at hv
      refine ⟨_, hv, ?_, ?_⟩
      · cases s with
        | bool _ | int _ | real _ => exact ⟨nofun, nofun⟩
      · cases s with
        | bool _ | int _ | real _ => rfl
  | text t =>
      unfold Stands at hv
      exact ⟨_, hv, ⟨nofun, nofun⟩, rfl⟩
  | cell items =>
      unfold Stands at hv
      rcases hv with ⟨refs, hget, -⟩
      exact ⟨_, hget, ⟨fun _ => rfl, fun _ => rfl⟩, rfl⟩
  | matrix m =>
      unfold Stands at hv
      exact hv.elim
  | foreign handle =>
      unfold Stands at hv
      rcases hv with ⟨-, object, hget, hsealed⟩
      refine ⟨object, hget, ?_, ?_⟩
      · rcases hsealed with hkind | hkind
        · rw [hkind]
          exact ⟨nofun, nofun⟩
        · rw [hkind]
          exact ⟨nofun, nofun⟩
      · rcases hsealed with hkind | hkind
        · rw [hkind]
          rfl
        · rw [hkind]
          rfl

end Simulation

namespace Context

open Crossing Simulation

variable (ctx : Context)

section Reaching

variable {depth : Nat} {base : Simulation} {h : Heap Object} {held : Multiset Ref}
  (hready : base.Ready)

include hready

theorem reaches_checkValue {α : Type} {operation : Operation} {value : α}
    {post : α → Simulation → Prop} (hpost : post value (base.withHeap h)) :
    Reaches (answer (run depth)) (ctx.checkValue operation (some value)) (base.withHeap h) post := by
  unfold checkValue
  apply Reaches.bind
  apply reaches_errorPending hready
  exact Reaches.pure hpost

theorem reaches_clearError {post : Option Diagnostic → Simulation → Prop}
    (hpost : post none (base.withHeap h)) :
    Reaches (answer (run depth)) clearError (base.withHeap h) post := by
  unfold clearError
  apply Reaches.bind
  apply reaches_errorPending hready
  exact Reaches.pure hpost

/-!
# Scalars and text
-/

theorem reaches_integerToHost {ref : Ref} {i : HostInt} {post : HostInt → Simulation → Prop}
    (hv : Stands h (.scalar (.int i)) ref) (hpost : post i (base.withHeap h)) :
    Reaches (answer (run depth)) (ctx.integerToHost ref) (base.withHeap h) post := by
  unfold Stands at hv
  have hget : h.get? ref = some (.int i.value (some i.kind)) := hv
  have hnumeric : (Object.int i.value (some i.kind)).numericKind? = some i.kind := rfl
  have hkind : ((some i.kind).filter NumericKind.isInteger).getD .int64 = i.kind := by
    rw [Option.filter_some, if_pos i.fits.1]
    rfl
  have hback : HostInt.ofInt i.kind i.value = .ok i := by
    unfold HostInt.ofInt
    rw [if_pos i.fits.1, dif_pos i.fits]
  unfold integerToHost
  apply Reaches.bind
  apply reaches_numericKind hready hget
  apply Reaches.bind
  apply reaches_intValue hready hget
  apply Reaches.bind
  apply Reaches.pure
  apply Reaches.bind
  apply ctx.reaches_checkValue hready
  rw [hnumeric, hkind, hback]
  exact Reaches.pure hpost

theorem reaches_floatToHost {ref : Ref} {x : HostFloat} {post : HostFloat → Simulation → Prop}
    (hv : Stands h (.scalar (.real x)) ref) (hpost : post x (base.withHeap h)) :
    Reaches (answer (run depth)) (ctx.floatToHost ref) (base.withHeap h) post := by
  unfold Stands at hv
  have hget : h.get? ref = some (.float x.toDouble (some x.kind)) := hv
  have hnumeric : (Object.float x.toDouble (some x.kind)).numericKind? = some x.kind := rfl
  have hfloat : x.kind.isFloat = true := by
    cases x with
    | single _ | double _ => rfl
  have hkind : ((some x.kind).filter NumericKind.isFloat).getD .double = x.kind := by
    rw [Option.filter_some, if_pos hfloat]
    rfl
  unfold floatToHost
  apply Reaches.bind
  apply reaches_numericKind hready hget
  apply Reaches.bind
  apply reaches_floatValue hready hget
  apply Reaches.bind
  apply ctx.reaches_checkValue hready
  rw [hnumeric, hkind, HostFloat.ofDouble_toDouble]
  exact Reaches.pure hpost

theorem reaches_textToHost {ref : Ref} {text : String} {post : String → Simulation → Prop}
    (hv : Stands h (.text text) ref) (hpost : post text (base.withHeap h)) :
    Reaches (answer (run depth)) (ctx.textToHost ref) (base.withHeap h) post := by
  unfold Stands at hv
  unfold textToHost
  apply Reaches.bind
  apply reaches_stringBytes hready hv
  apply Reaches.bind
  apply ctx.reaches_checkValue hready
  rw [Utf8.decode_encode]
  exact Reaches.pure hpost

theorem reaches_wrap {ref : Ref} {object : Object} (hb : h.Balanced held)
    (hget : h.get? ref = some object) {post : Handle → Simulation → Prop}
    (hpost : ∀ name, post ⟨ctx.id, ref, name⟩ (base.withHeap h)) :
    Reaches (answer (run depth)) (ctx.wrap ref) (base.withHeap h) post := by
  unfold wrap
  apply Reaches.bind
  apply reaches_typeName hready hb hget
  intro name
  apply Reaches.bind
  apply reaches_clearError hready
  exact Reaches.pure (hpost _)

theorem reaches_releaseOne {ref : Ref} {post : Unit → Simulation → Prop}
    (hb : h.Balanced ({ref} + held))
    (hpost : ∀ h', h'.Balanced held → h.Older h' → post () (base.withHeap h')) :
    (Program.releaseAll [ref]).Reaches (answer (run depth)) (base.withHeap h) post := by
  rw [← Multiset.coe_singleton] at hb
  exact reaches_releaseAll hready hb hpost

end Reaching

/-!
# Plain values
-/

/-- What follows a conversion is told a value, apart from the displayed names of its handles, and
holds the references in it. -/
def Expects (base : Simulation) (h : Heap Object) (held : Multiset Ref) (w : Value)
    (post : Value → Simulation → Prop) : Prop :=
  ∀ w' h', w'.anonymous = w.anonymous → h'.Balanced ((w'.refs : Multiset Ref) + held) →
    h.Older h' → post w' (base.withHeap h')

theorem Expects.older {base : Simulation} {h h' : Heap Object} {held : Multiset Ref} {w : Value}
    {post : Value → Simulation → Prop} (hpost : Expects base h held w post) (hold : h.Older h') :
    Expects base h' held w post :=
  fun w' h'' hw hb hold' => hpost w' h'' hw hb (hold.trans hold')

/-- A conversion reads what stands for a value, one reference of which it takes over, as another
value. -/
def ReadsAs (depth : Nat) (base : Simulation) (convert : Ref → Crossing Value) (v w : Value) :
    Prop :=
  ∀ (h : Heap Object) (held : Multiset Ref) (ref : Ref) (post : Value → Simulation → Prop),
    h.Balanced ({ref} + held) → Stands h v ref → (∀ handle ∈ v.handles, handle.context = ctx.id) →
      Expects base h held w post → Reaches (answer (run depth)) (convert ref) (base.withHeap h) post

section Plain

variable {depth : Nat} {base : Simulation} (hready : base.Ready)

include hready

/-- A value without handles is left when the reference to what it was read from is given back. -/
theorem reaches_given {h : Heap Object} {held : Multiset Ref} {ref : Ref} {w : Value}
    {post : Value → Simulation → Prop} (hb : h.Balanced ({ref} + held))
    (hpost : Expects base h held w post) (hrefs : w.refs = []) :
    (Program.releaseAll [ref]).Reaches (answer (run depth)) (base.withHeap h)
      fun _ s' => post w s' := by
  apply reaches_releaseOne hready hb
  intro h' hb' hold
  apply hpost w h' rfl _ hold
  rw [hrefs, Multiset.coe_nil, zero_add]
  exact hb'

theorem readsAs_wrap (handle : Handle) :
    ctx.ReadsAs depth base (fun ref => ctx.wrap ref >>= fun found => pure (.foreign found))
      (.foreign handle) (.foreign handle) := by
  intro h held ref post hb hv hown hpost
  unfold Stands at hv
  rcases hv with ⟨hsame, object, hget, -⟩
  apply Reaches.bind
  apply ctx.reaches_wrap hready hb hget
  intro name
  apply Reaches.pure
  apply hpost (.foreign ⟨ctx.id, ref, name⟩) h _ hb (Heap.Older.refl h)
  have hcontext := hown handle List.mem_cons_self
  rw [Value.anonymous, Value.anonymous, hsame, hcontext]

theorem readsAs_plainToHost {v : Value} (hplain : v.items? = none)
    {convertSequence : Ref → Crossing Value} :
    ctx.ReadsAs depth base (ctx.objectToHost convertSequence) v v := by
  intro h held ref post hb hv hown hpost
  unfold objectToHost
  apply Reaches.bind
  cases v with
  | undefined =>
      unfold Stands at hv
      apply reaches_kindOf hready hv
      apply Reaches.owningAll
      exact Reaches.pure (reaches_given hready hb hpost rfl)
  | scalar s =>
      have hget := hv
      unfold Stands at hget
      apply reaches_kindOf hready hget
      cases s with
      | bool b =>
          apply Reaches.owningAll
          apply Reaches.bind
          apply reaches_boolValue hready hget
          exact Reaches.pure (reaches_given hready hb hpost rfl)
      | int i =>
          apply Reaches.owningAll
          apply Reaches.bind
          apply ctx.reaches_integerToHost hready hv
          exact Reaches.pure (reaches_given hready hb hpost rfl)
      | real x =>
          apply Reaches.owningAll
          apply Reaches.bind
          apply ctx.reaches_floatToHost hready hv
          exact Reaches.pure (reaches_given hready hb hpost rfl)
  | text t =>
      have hget := hv
      unfold Stands at hget
      apply reaches_kindOf hready hget
      apply Reaches.owningAll
      apply Reaches.bind
      apply ctx.reaches_textToHost hready hv
      exact Reaches.pure (reaches_given hready hb hpost rfl)
  | cell items => cases hplain
  | matrix m =>
      unfold Stands at hv
      exact hv.elim
  | foreign handle =>
      have hstands := hv
      unfold Stands at hstands
      rcases hstands with ⟨-, object, hget, hsealed⟩
      apply reaches_kindOf hready hget
      rcases hsealed with hkind | hkind
      · rw [hkind]
        exact ctx.readsAs_wrap hready handle h held ref post hb hv hown hpost
      · rw [hkind]
        exact ctx.readsAs_wrap hready handle h held ref post hb hv hown hpost

end Plain

/-!
# Items
-/

section Items

variable {depth : Nat} {base : Simulation} {h : Heap Object} {held : Multiset Ref}
  (hready : base.Ready)

include hready

theorem reaches_itemsFrom {sequence : Ref} {refs : List Ref} {index count : Nat}
    (hcount : index + count = refs.length) (hget : h.get? sequence = some (.tuple refs))
    (hsequence : sequence ∈ held) (hb : h.Balanced held) {post : List Ref → Simulation → Prop}
    (hpost : ∀ h', h'.Balanced ((refs.drop index : List Ref) + held) → h.Older h' →
      post (refs.drop index) (base.withHeap h')) :
    Reaches (answer (run depth)) (ctx.itemsFrom sequence index count) (base.withHeap h) post := by
  induction count generalizing index h held post with
  | zero =>
      have hdrop : refs.drop index = [] := List.drop_eq_nil_iff.2 (by omega)
      rw [hdrop] at hpost
      apply Reaches.pure
      apply hpost h _ (Heap.Older.refl h)
      rw [Multiset.coe_nil, zero_add]
      exact hb
  | succ count ih =>
      have hlt : index < refs.length := by omega
      have hdrop : refs.drop index = refs[index] :: refs.drop (index + 1) :=
        List.drop_eq_getElem_cons hlt
      unfold itemsFrom
      apply Reaches.bind
      apply reaches_sequenceItem hready hget (List.getElem?_eq_getElem hlt) hb
      intro h' hb' hold
      apply Reaches.bind
      apply ctx.reaches_checkRef hready
      apply Reaches.bind
      apply Reaches.keeping
      have hlive : sequence ∈ h'.references + ({refs[index]} + held) :=
        by simp [hsequence]
      apply ih (by omega) (get?_lasts hb' hold hget hlive)
        (Multiset.mem_add.2 (.inr hsequence)) hb'
      intro h'' hb'' hold'
      apply Reaches.pure
      rw [← hdrop]
      apply hpost h'' _ (hold.trans hold')
      rw [hdrop, ← Multiset.cons_coe, ← Multiset.singleton_add, add_assoc, add_left_comm]
      exact hb''

/-- The items of a list are borrowed while its own reference is held. -/
theorem reaches_items {values : List Value} {sequence : Ref}
    (hv : Stands h (.cell values) sequence) (hsequence : sequence ∈ held) (hb : h.Balanced held)
    {post : List Ref → Simulation → Prop}
    (hpost : ∀ refs h', h'.Balanced ((refs : Multiset Ref) + held) → h.Older h' →
      StandEach h' values refs → post refs (base.withHeap h')) :
    Reaches (answer (run depth)) (ctx.items sequence) (base.withHeap h) post := by
  unfold Stands at hv
  rcases hv with ⟨refs, hget, hitems⟩
  unfold items
  apply Reaches.bind
  apply reaches_sequenceLength hready hget
  apply Reaches.bind
  apply ctx.reaches_checkValue hready
  apply ctx.reaches_itemsFrom hready (Nat.zero_add _) hget hsequence hb
  intro h' hb' hold
  rw [List.drop_zero] at hb' ⊢
  apply hpost refs h' hb' hold
  exact standEach_lasts hb' hold hitems fun ref href => by simp [href]

theorem reaches_allNumeric {values : List Value} {refs : List Ref}
    (hvalues : StandEach h values refs) {post : Bool → Simulation → Prop}
    (hpost : post (values.all fun v => v.scalar?.isSome) (base.withHeap h)) :
    Reaches (answer (run depth)) (allNumeric refs) (base.withHeap h) post := by
  induction values generalizing refs post with
  | nil =>
      unfold StandEach at hvalues
      rw [hvalues]
      exact Reaches.pure hpost
  | cons v rest ih =>
      unfold StandEach at hvalues
      rcases hvalues with ⟨ref, others, hrefs, hv, hrest⟩
      rcases exists_kind hv with ⟨object, hget, -, hnumeric⟩
      rw [hrefs]
      unfold allNumeric
      apply Reaches.bind
      apply reaches_kindOf hready hget
      rw [List.all_cons] at hpost
      rw [hnumeric]
      cases hscalar : v.scalar?.isSome with
      | true =>
          rw [hscalar, Bool.true_and] at hpost
          exact ih hrest hpost
      | false =>
          rw [hscalar, Bool.false_and] at hpost
          exact Reaches.pure hpost

theorem reaches_anySequence {values : List Value} {refs : List Ref}
    (hvalues : StandEach h values refs) {post : Bool → Simulation → Prop}
    (hpost : post (values.any fun v => v.items?.isSome) (base.withHeap h)) :
    Reaches (answer (run depth)) (anySequence refs) (base.withHeap h) post := by
  induction values generalizing refs post with
  | nil =>
      unfold StandEach at hvalues
      rw [hvalues]
      exact Reaches.pure hpost
  | cons v rest ih =>
      unfold StandEach at hvalues
      rcases hvalues with ⟨ref, others, hrefs, hv, hrest⟩
      rcases exists_kind hv with ⟨object, hget, hsequence, -⟩
      rw [hrefs]
      unfold anySequence
      apply Reaches.bind
      apply reaches_kindOf hready hget
      rw [List.any_cons] at hpost
      cases hitems : v.items?.isSome with
      | true =>
          rw [hitems, Bool.true_or] at hpost
          rw [if_pos (hsequence.2 hitems)]
          exact Reaches.pure hpost
      | false =>
          have hother : object.kind ≠ .sequence := by
            intro hkind
            rw [hsequence.1 hkind] at hitems
            cases hitems
          rw [hitems, Bool.false_or] at hpost
          rw [if_neg hother]
          exact ih hrest hpost

end Items

end Context
end ForeignBridge
