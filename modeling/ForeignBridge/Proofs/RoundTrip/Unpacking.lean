import ForeignBridge.Proofs.Crossing.Transcript
import ForeignBridge.Proofs.RoundTrip.Normal
import ForeignBridge.Proofs.Simulation.Requests

/-!
# Counterparts in a runtime

A reference stands for a value if the object there, and those inside it, are what the value is built
from: a number of its own kind, a text, a tuple of counterparts, the object of a handle.  Every value
that has a counterpart gets one.
-/

namespace ForeignBridge
namespace Simulation

/-- Objects that the host sees only through handles. -/
def Object.IsOpaque (object : Object) : Prop :=
  object.kind = .attributeBag ∨ object.kind = .object

mutual

/-- A reference stands for a value. -/
def Stands (h : Heap Object) : Value → Ref → Prop
  | .undefined, ref => h.get? ref = some .null
  | .scalar s, ref => h.get? ref = some (.ofScalar s)
  | .text t, ref => h.get? ref = some (.text t)
  | .cell items, ref => ∃ refs, h.get? ref = some (.tuple refs) ∧ StandEach h items refs
  | .matrix _, _ => False
  | .foreign handle, ref =>
    ref = handle.ref ∧ ∃ object, h.get? ref = some object ∧ object.IsOpaque

/-- References stand for values, one by one. -/
def StandEach (h : Heap Object) : List Value → List Ref → Prop
  | [], refs => refs = []
  | v :: vs, refs => ∃ ref rest, refs = ref :: rest ∧ Stands h v ref ∧ StandEach h vs rest

end

variable {h h' : Heap Object} {held : Multiset Ref}

theorem length_of_standEach {values : List Value} {refs : List Ref}
    (hvalues : StandEach h values refs) : refs.length = values.length := by
  induction values generalizing refs with
  | nil =>
      unfold StandEach at hvalues
      rw [hvalues]
      rfl
  | cons v rest ih =>
      unfold StandEach at hvalues
      rcases hvalues with ⟨ref, others, hsplit, -, hothers⟩
      rw [hsplit, List.length_cons, List.length_cons, ih hothers]

theorem standEach_append {values values' : List Value} {refs refs' : List Ref}
    (hvalues : StandEach h values refs) (hvalues' : StandEach h values' refs') :
    StandEach h (values ++ values') (refs ++ refs') := by
  induction values generalizing refs with
  | nil =>
      unfold StandEach at hvalues
      rw [hvalues]
      exact hvalues'
  | cons v rest ih =>
      unfold StandEach at hvalues
      rcases hvalues with ⟨ref, others, hsplit, hv, hothers⟩
      rw [hsplit, List.cons_append, List.cons_append]
      unfold StandEach
      exact ⟨ref, others ++ refs', rfl, hv, ih hothers⟩

theorem get?_lasts (hb : h'.Balanced held) (hold : h.Older h') {ref : Ref} {object : Object}
    (hget : h.get? ref = some object) (href : ref ∈ h'.references + held) :
    h'.get? ref = some object := by
  rcases hb.live href with ⟨slot, hslot⟩
  exact hold.get? hget hslot

mutual

/-- A reference stands for the same value for as long as its object lives. -/
theorem stands_lasts (hb : h'.Balanced held) (hold : h.Older h') {v : Value} {ref : Ref}
    (hv : Stands h v ref) (href : ref ∈ h'.references + held) : Stands h' v ref := by
  cases v with
  | undefined =>
      unfold Stands at hv ⊢
      exact get?_lasts hb hold hv href
  | scalar s =>
      unfold Stands at hv ⊢
      exact get?_lasts hb hold hv href
  | text t =>
      unfold Stands at hv ⊢
      exact get?_lasts hb hold hv href
  | cell items =>
      unfold Stands at hv ⊢
      rcases hv with ⟨refs, hget, hitems⟩
      have hget' := get?_lasts hb hold hget href
      refine ⟨refs, hget', standEach_lasts hb hold hitems fun child hchild => ?_⟩
      exact Multiset.mem_add.2 (.inl (Heap.mem_references hget' hchild))
  | matrix m =>
      unfold Stands at hv
      exact hv.elim
  | foreign handle =>
      unfold Stands at hv ⊢
      rcases hv with ⟨hsame, object, hget, hsealed⟩
      exact ⟨hsame, object, get?_lasts hb hold hget href, hsealed⟩

theorem standEach_lasts (hb : h'.Balanced held) (hold : h.Older h') {vs : List Value}
    {refs : List Ref} (hvs : StandEach h vs refs)
    (hrefs : ∀ ref ∈ refs, ref ∈ h'.references + held) : StandEach h' vs refs := by
  cases vs with
  | nil =>
      unfold StandEach at hvs ⊢
      exact hvs
  | cons v vs =>
      unfold StandEach at hvs ⊢
      rcases hvs with ⟨ref, rest, hsplit, hv, hrest⟩
      rw [hsplit] at hrefs
      refine ⟨ref, rest, hsplit, stands_lasts hb hold hv (hrefs ref List.mem_cons_self), ?_⟩
      exact standEach_lasts hb hold hrest fun other hother =>
        hrefs other (List.mem_cons_of_mem ref hother)

end

end Simulation

/-!
# Lists of values

A cell of strings and a matrix are taken apart differently, but to the same requests as a list of
values.
-/

namespace Crossing

theorem acquireEach_map {α β : Type} (acquire : β → Crossing Ref) (f : α → β) (xs : List α) :
    acquireEach acquire (xs.map f) = acquireEach (fun x => acquire (f x)) xs := by
  induction xs with
  | nil => rfl
  | cons x xs ih =>
      rw [List.map_cons, acquireEach, acquireEach, ih]

theorem acquireEach_congr {β : Type} {acquire acquire' : β → Crossing Ref} {xs : List β}
    (h : ∀ x ∈ xs, acquire x = acquire' x) : acquireEach acquire xs = acquireEach acquire' xs := by
  induction xs with
  | nil => rfl
  | cons x xs ih =>
      rw [acquireEach, acquireEach, h x List.mem_cons_self,
        ih fun other hother => h other (List.mem_cons_of_mem x hother)]

end Crossing

namespace Context

open Crossing

variable (ctx : Context)

theorem toForeignEach_eq (values : List Value) :
    ctx.toForeignEach values = acquireEach ctx.toForeign values := by
  induction values with
  | nil =>
      unfold toForeignEach
      rfl
  | cons v rest ih =>
      unfold toForeignEach
      rw [acquireEach, ih]

/-- The list of strings is taken apart like any list. -/
theorem toForeign_cell (items : List Value) :
    ctx.toForeign (.cell items) = acquireEach ctx.toForeign items >>= ctx.buildTuple := by
  unfold toForeign
  cases htexts : allTexts? items with
  | none =>
      dsimp only
      rw [toForeignEach_eq]
  | some texts =>
      dsimp only
      rw [eq_of_allTexts? htexts, acquireEach_map]
      refine congrArg (· >>= ctx.buildTuple) (acquireEach_congr fun text _ => ?_)
      rw [toForeign]

theorem toForeign_cell_eq_tupleToForeign (items : List Value) :
    ctx.toForeign (.cell items) = ctx.tupleToForeign items := by
  unfold tupleToForeign
  rw [toForeign_cell, toForeignEach_eq]

/-- Whatever a runtime answers, and at whichever element it fails or panics, a cell is taken apart as
the arguments of a call are: the runtime is asked the same in the same order, what comes of it is the
same object, error or panic, and the runtime and the log are left the same. -/
theorem cell_crosses_as_tuple {σ : Type} (answer : (r : Request) → Attempt σ r.Answer)
    (record : Event → StateM σ Unit) (items : List Value) (s : σ) :
    (ctx.toForeign (.cell items)).run.transcript answer record s =
        (ctx.tupleToForeign items).run.transcript answer record s ∧
      (Program.run answer record (ctx.toForeign (.cell items)).run).outcome s =
        (Program.run answer record (ctx.tupleToForeign items).run).outcome s := by
  rw [toForeign_cell_eq_tupleToForeign]
  exact ⟨rfl, rfl⟩

/-- A matrix is taken apart like the list of its rows. -/
theorem toForeign_ofScalarRows (rows : List (List Scalar)) :
    ctx.toForeign (Value.ofScalarRows rows) =
      acquireEach (fun row => acquireEach ctx.scalarToForeign row >>= ctx.buildTuple) rows >>=
        ctx.buildTuple := by
  unfold Value.ofScalarRows
  rw [toForeign_cell, acquireEach_map]
  refine congrArg (· >>= ctx.buildTuple) (acquireEach_congr fun row _ => ?_)
  rw [toForeign_cell, acquireEach_map]
  refine congrArg (· >>= ctx.buildTuple) (acquireEach_congr fun s _ => ?_)
  rw [toForeign]

mutual

/-- A value is taken apart like the lists that it is read as. -/
theorem toForeign_spread (v : Value) (hshapes : ∀ m ∈ v.matrices, m.shape?.isSome) :
    ctx.toForeign v.spread = ctx.toForeign v := by
  cases v with
  | undefined | scalar _ | text _ | foreign _ => rfl
  | cell items =>
      rw [Value.spread, toForeign_cell, toForeign_cell, acquireEach_spreadAll items hshapes]
  | matrix m =>
      have hshape := hshapes m List.mem_cons_self
      rcases Option.isSome_iff_exists.1 hshape with ⟨shape, hshape⟩
      rw [Value.spread, toForeign_ofScalarRows]
      unfold toForeign matrixToForeign Matrix.rows?
      rw [hshape]
      rfl

theorem acquireEach_spreadAll (values : List Value)
    (hshapes : ∀ m ∈ Value.matricesAll values, m.shape?.isSome) :
    acquireEach ctx.toForeign (Value.spreadAll values) = acquireEach ctx.toForeign values := by
  cases values with
  | nil => rfl
  | cons v rest =>
      rw [Value.matricesAll] at hshapes
      rw [Value.spreadAll, acquireEach, acquireEach,
        toForeign_spread v fun m hm => hshapes m (List.mem_append_left _ hm),
        acquireEach_spreadAll rest fun m hm => hshapes m (List.mem_append_right _ hm)]

end

/-!
# Values with counterparts
-/

/-- The null object is in its place, and the handles belong to the bridge and are of opaque objects
that live on. -/
structure Suits (h : Heap Simulation.Object) (held : Multiset Ref) (handles : List Handle) :
    Prop where
  null : h.get? Simulation.nullRef = some .null
  root : Simulation.nullRef ∈ held
  own : ∀ handle ∈ handles, handle.context = ctx.id
  kept : ∀ handle ∈ handles, handle.ref ∈ held
  opaques : ∀ handle ∈ handles, ∃ object, h.get? handle.ref = some object ∧ object.IsOpaque

namespace Suits

variable {ctx} {h h' : Heap Simulation.Object} {held : Multiset Ref} {handles : List Handle}

theorem lasts (hs : ctx.Suits h held handles) {extra : Multiset Ref}
    (hb : h'.Balanced (extra + held)) (hold : h.Older h') :
    ctx.Suits h' (extra + held) handles := by
  have hlive : ∀ ref ∈ held, ref ∈ h'.references + (extra + held) := fun ref href =>
    by simp [href]
  constructor
  · exact Simulation.get?_lasts hb hold hs.null (hlive _ hs.root)
  · exact Multiset.mem_add.2 (.inr hs.root)
  · exact hs.own
  · exact fun handle hhandle => Multiset.mem_add.2 (.inr (hs.kept handle hhandle))
  · intro handle hhandle
    rcases hs.opaques handle hhandle with ⟨object, hget, hsealed⟩
    exact ⟨object, Simulation.get?_lasts hb hold hget (hlive _ (hs.kept handle hhandle)), hsealed⟩

theorem subset (hs : ctx.Suits h held handles) {some' : List Handle}
    (hsub : ∀ handle ∈ some', handle ∈ handles) : ctx.Suits h held some' :=
  ⟨hs.null, hs.root, fun handle hhandle => hs.own handle (hsub handle hhandle),
    fun handle hhandle => hs.kept handle (hsub handle hhandle),
    fun handle hhandle => hs.opaques handle (hsub handle hhandle)⟩

end Suits

section Reaching

open Simulation

variable {depth : Nat} {base : Simulation} {h : Heap Object} {held : Multiset Ref}
  (hready : base.Ready) {post : Ref → Simulation → Prop}

include hready

theorem reaches_checkRef {operation : Operation} {ref : Ref} (hpost : post ref (base.withHeap h)) :
    Reaches (answer (run depth)) (ctx.checkRef operation (some ref)) (base.withHeap h) post := by
  unfold checkRef
  apply Reaches.bind
  apply reaches_errorPending hready
  exact Reaches.pure hpost

theorem reaches_scalarToForeign (s : Scalar) (hb : h.Balanced held)
    (hpost : ∀ ref h', h'.Balanced ({ref} + held) → h.Older h' → Stands h' (.scalar s) ref →
      post ref (base.withHeap h')) :
    Reaches (answer (run depth)) (ctx.scalarToForeign s) (base.withHeap h) post := by
  unfold scalarToForeign
  apply Reaches.bind
  apply Reaches.note
  apply Reaches.bind
  have hchildren : (Object.ofScalar s).children = [] := by
    cases s with
    | bool _ | int _ | real _ => rfl
  apply reaches_allocate hready rfl hchildren hb
  intro ref h' hb' hold hget
  apply ctx.reaches_checkRef hready
  apply hpost ref h' hb' hold
  unfold Stands
  exact hget

theorem reaches_textToForeign (text : String) (hb : h.Balanced held)
    (hpost : ∀ ref h', h'.Balanced ({ref} + held) → h.Older h' → Stands h' (.text text) ref →
      post ref (base.withHeap h')) :
    Reaches (answer (run depth)) (ctx.textToForeign text) (base.withHeap h) post := by
  unfold textToForeign
  apply Reaches.bind
  apply reaches_allocate hready rfl rfl hb
  intro ref h' hb' hold hget
  apply ctx.reaches_checkRef hready
  apply hpost ref h' hb' hold
  unfold Stands
  exact hget

theorem reaches_handleToForeign {handle : Handle} (hb : h.Balanced held)
    (hs : ctx.Suits h held [handle])
    (hpost : ∀ ref h', h'.Balanced ({ref} + held) → h.Older h' → Stands h' (.foreign handle) ref →
      post ref (base.withHeap h')) :
    Reaches (answer (run depth)) (ctx.handleToForeign handle) (base.withHeap h) post := by
  unfold handleToForeign
  rw [if_pos (hs.own handle List.mem_cons_self)]
  have hkept := hs.kept handle List.mem_cons_self
  apply Reaches.bind
  apply reaches_retain hready hb (Multiset.mem_add.2 (.inr hkept))
  intro h' hb' hold
  apply Reaches.pure
  apply hpost handle.ref h' hb' hold
  rcases (hs.lasts hb' hold).opaques handle List.mem_cons_self with ⟨object, hget, hsealed⟩
  unfold Stands
  exact ⟨rfl, object, hget, hsealed⟩

theorem reaches_buildTuple {values : List Value} {refs : List Ref}
    (hb : h.Balanced ((refs : Multiset Ref) + held)) (hrefs : StandEach h values refs)
    (hpost : ∀ ref h', h'.Balanced ({ref} + held) → h.Older h' → Stands h' (.cell values) ref →
      post ref (base.withHeap h')) :
    Reaches (answer (run depth)) (ctx.buildTuple refs) (base.withHeap h) post := by
  have howned : ∀ ref ∈ refs, ref ∈ (refs : Multiset Ref) + held := fun ref href =>
    Multiset.mem_add.2 (.inl href)
  unfold buildTuple
  apply Reaches.owningAll
  apply Reaches.bind
  apply reaches_newTuple hready hb howned
  intro tuple h' hb' hold hget
  apply ctx.reaches_checkRef hready
  rw [add_left_comm] at hb'
  apply reaches_releaseAll hready hb'
  intro h'' hb'' hold'
  apply hpost tuple h'' hb'' (hold.trans hold')
  -- The tuple holds references of its own to what stands for the elements.
  have hget' := get?_lasts hb'' hold' hget (by simp)
  unfold Stands
  refine ⟨refs, hget', standEach_lasts hb'' (hold.trans hold') hrefs fun ref href => ?_⟩
  exact Multiset.mem_add.2 (.inl (Heap.mem_references hget' href))

end Reaching

open Simulation in
mutual

/-- A value without matrices gets a counterpart, of which one reference is held. -/
theorem reaches_toForeign {depth : Nat} {base : Simulation} (hready : base.Ready) (v : Value)
    (hflat : v.matrices = []) {h : Heap Object} {held : Multiset Ref} (hb : h.Balanced held)
    (hs : ctx.Suits h held v.handles) {post : Ref → Simulation → Prop}
    (hpost : ∀ ref h', h'.Balanced ({ref} + held) → h.Older h' → Stands h' v ref →
      post ref (base.withHeap h')) :
    Reaches (answer (run depth)) (ctx.toForeign v) (base.withHeap h) post := by
  cases v with
  | undefined =>
      unfold toForeign
      apply reaches_null hready hb hs.root
      intro h' hb' hold
      apply hpost nullRef h' hb' hold
      unfold Stands
      exact (hs.lasts hb' hold).null
  | scalar s =>
      unfold toForeign
      exact ctx.reaches_scalarToForeign hready s hb hpost
  | text t =>
      unfold toForeign
      exact ctx.reaches_textToForeign hready t hb hpost
  | cell items =>
      rw [Value.matrices] at hflat
      rw [toForeign_cell]
      apply Reaches.bind
      apply reaches_acquireEach hready items hflat hb hs
      intro refs h' hb' hold hrefs
      apply ctx.reaches_buildTuple hready hb' hrefs
      intro ref h'' hb'' hold' href
      exact hpost ref h'' hb'' (hold.trans hold') href
  | matrix m => cases hflat
  | foreign handle =>
      unfold toForeign
      exact ctx.reaches_handleToForeign hready hb hs hpost

theorem reaches_acquireEach {depth : Nat} {base : Simulation} (hready : base.Ready)
    (values : List Value) (hflat : Value.matricesAll values = []) {h : Heap Object}
    {held : Multiset Ref} (hb : h.Balanced held)
    (hs : ctx.Suits h held (Value.handlesAll values)) {post : List Ref → Simulation → Prop}
    (hpost : ∀ refs h', h'.Balanced ((refs : Multiset Ref) + held) → h.Older h' →
      StandEach h' values refs → post refs (base.withHeap h')) :
    Reaches (answer (run depth)) (acquireEach ctx.toForeign values) (base.withHeap h) post := by
  cases values with
  | nil =>
      apply Reaches.pure
      apply hpost [] h _ (Heap.Older.refl h)
      · unfold StandEach
        rfl
      · rw [Multiset.coe_nil, zero_add]
        exact hb
  | cons v rest =>
      rw [Value.matricesAll, List.append_eq_nil_iff] at hflat
      rw [Value.handlesAll] at hs
      unfold acquireEach
      apply Reaches.bind
      apply reaches_toForeign hready v hflat.1 hb
        (hs.subset fun handle hhandle => List.mem_append_left _ hhandle)
      intro ref h' hb' hold href
      apply Reaches.bind
      apply Reaches.keeping
      apply reaches_acquireEach hready rest hflat.2 hb'
        ((hs.lasts hb' hold).subset fun handle hhandle => List.mem_append_right _ hhandle)
      intro refs h'' hb'' hold' hrefs
      apply Reaches.pure
      have hkept : ref ∈ h''.references + ((refs : Multiset Ref) + ({ref} + held)) := by simp
      apply hpost (ref :: refs) h'' _ (hold.trans hold')
      · unfold StandEach
        exact ⟨ref, refs, rfl, stands_lasts hb'' hold' href hkept, hrefs⟩
      · rw [add_left_comm, ← add_assoc, Multiset.singleton_add, Multiset.cons_coe] at hb''
        exact hb''

end

end Context
end ForeignBridge
