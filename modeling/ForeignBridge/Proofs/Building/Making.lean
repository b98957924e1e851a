import ForeignBridge.Proofs.Building.Encoding
import ForeignBridge.Proofs.RoundTrip.Unpacking

/-!
# Making counterparts

A runtime that makes the objects that it is asked for gets every host value that has a counterpart.
Arrays of three or more proper dimensions and handles of other bridges have none; if there is one in
a value, however deep, everything that was made before it is given back.
-/

namespace ForeignBridge

open Crossing

variable {σ Obj α β : Type} [Linked Obj]

namespace Context

variable (ctx : Context)

/-- All arrays in a value have rows and columns, and all handles in it are the bridge's own. -/
def Admits (v : Value) : Prop :=
  (∀ m ∈ v.matrices, m.shape?.isSome) ∧ ∀ handle ∈ v.handles, handle.context = ctx.id

theorem admits_cell (items : List Value) :
    ctx.Admits (.cell items) ↔ ∀ v ∈ items, ctx.Admits v := by
  unfold Admits
  rw [Value.matrices, Value.handles, Value.matricesAll_eq_flatMap, Value.handlesAll_eq_flatMap]
  simp only [List.mem_flatMap]
  constructor
  · rintro ⟨hshapes, hown⟩ v hv
    exact ⟨fun m hm => hshapes m ⟨v, hv, hm⟩, fun handle hhandle => hown handle ⟨v, hv, hhandle⟩⟩
  · intro hitems
    constructor
    · rintro m ⟨v, hv, hm⟩
      exact (hitems v hv).1 m hm
    · rintro handle ⟨v, hv, hhandle⟩
      exact (hitems v hv).2 handle hhandle

end Context

/-- A runtime that differs in its heap only while objects are made, and how it encodes values. -/
structure Maker (σ Obj : Type) [Linked Obj] where
  code : Encoding Obj
  answer : (r : Request) → Attempt σ r.Answer
  place : Heap Obj → σ
  first : Heap Obj
  /-- What new objects are like. -/
  plain : Obj → Prop

namespace Maker

variable (M : Maker σ Obj)

/-- The heap after references were acquired, of which some are still held. -/
structure Within (h : Heap Obj) (held : Multiset Ref) : Prop where
  acquired : M.first.Acquired h held
  plain : ∀ ref content, M.first.slots.size ≤ ref.id → h.get? ref = some content → M.plain content

/-- Objects stay what they are, and a new object has one owner more only if it had none. -/
structure Follows (h h' : Heap Obj) : Prop where
  older : h.Older h'
  sole : ∀ ref, M.first.slots.size ≤ ref.id → h'.owners ref ≤ max (h.owners ref) 1

/-- A reference to an object was handed over. -/
structure Handed (h h' : Heap Obj) (held : Multiset Ref) (content : Obj) (ref : Ref) : Prop where
  within : M.Within h' ({ref} + held)
  older : h.Older h'
  made : M.code.Made M.first h' content ref
  fresh : M.first.slots.size ≤ ref.id → h.owners ref = 0
  owners : ∀ other, h'.owners other ≤
    h.owners other + ((Linked.children content).count other + [ref].count other)

/-- A request for an object is answered by a reference to one. -/
def Hands (h : Heap Obj) (held : Multiset Ref) (r : Request) (given : Ref → r.Answer)
    (content : Obj) : Prop :=
  ∃ ref h', (M.answer r).outcome (M.place h) = (.ok (given ref), M.place h') ∧
    M.Handed h h' held content ref

/-- How the runtime answers. -/
structure Serves : Prop where
  pending : ∀ h, (M.answer .errorPending).outcome (M.place h) = (.ok false, M.place h)
  retain : ∀ h held ref, M.Within h held → (∃ content, h.get? ref = some content) →
    ∃ h', (M.answer (.retain ref)).outcome (M.place h) = (.ok (), M.place h') ∧
      M.Within h' ({ref} + held) ∧ h.Older h' ∧
        ∀ other, h'.owners other = h.owners other + [ref].count other
  release : ∀ h held ref, M.Within h ({ref} + held) →
    ∃ h', (M.answer (.release ref)).outcome (M.place h) = (.ok (), M.place h') ∧
      M.Within h' held ∧ h.Older h' ∧
        ∀ other, h'.owners other + [ref].count other ≤ h.owners other
  null : ∀ h held, M.Within h held → M.Hands h held .null id M.code.null
  newScalar : ∀ h held s, M.Within h held → M.Hands h held (.newScalar s) some (M.code.scalar s)
  newString : ∀ h held t, M.Within h held → M.Hands h held (.newString t) some (M.code.text t)
  newTuple : ∀ h held (refs : List Ref), M.Within h ((refs : Multiset Ref) + held) →
    M.Hands h ((refs : Multiset Ref) + held) (.newTuple refs) some (M.code.tuple refs)

/-!
# What crossings get
-/

/-- A crossing succeeds, and the references in its result are held. -/
def Gets (c : Crossing β) (h : Heap Obj) (held : Multiset Ref) (refs : β → List Ref)
    (stands : Heap Obj → β → Prop) : Prop :=
  ∃ b h', c.Comes M.answer (M.place h) (.ok b) (M.place h') ∧
    M.Within h' ((refs b : Multiset Ref) + held) ∧ M.Follows h h' ∧ stands h' b

/-- A crossing fails, and nothing more is held. -/
def Fails (c : Crossing β) (h : Heap Obj) (held : Multiset Ref) : Prop :=
  ∃ error h', c.Comes M.answer (M.place h) (.error error) (M.place h') ∧ M.Within h' held

/-- A crossing succeeds if what it is given is accepted, and fails otherwise. -/
def Forms (c : Crossing β) (accepted : Prop) (refs : β → List Ref)
    (stands : Heap Obj → β → Prop) : Prop :=
  ∀ h held, M.Within h held → (accepted ∧ M.Gets c h held refs stands) ∨
    (¬ accepted ∧ M.Fails c h held)

/-- What stands for something at a reference does so for as long as there is an object. -/
def Lasts (stands : Heap Obj → Ref → Prop) : Prop :=
  ∀ h h' held ref, M.Within h' held → h.Older h' → (∃ content, h'.get? ref = some content) →
    stands h ref → stands h' ref

variable {M} {h : Heap Obj} {held : Multiset Ref}

theorem Follows.refl (h : Heap Obj) : M.Follows h h := ⟨.refl h, fun _ _ => Nat.le_max_left _ _⟩

theorem Follows.trans {h h' h'' : Heap Obj} (hf : M.Follows h h') (hf' : M.Follows h' h'') :
    M.Follows h h'' := by
  refine ⟨hf.older.trans hf'.older, fun ref hnew => ?_⟩
  have hsole := hf.sole ref hnew
  have hsole' := hf'.sole ref hnew
  omega

/-- What refers to nothing is a single object more. -/
theorem Handed.follows {h h' : Heap Obj} {content : Obj} {ref : Ref}
    (hhanded : M.Handed h h' held content ref) (hchildren : Linked.children content = []) :
    M.Follows h h' := by
  refine ⟨hhanded.older, fun other hnew => ?_⟩
  have howners := hhanded.owners other
  rw [hchildren, List.count_nil, List.count_singleton] at howners
  by_cases hother : ref = other
  · subst hother
    have hfresh := hhanded.fresh hnew
    simp only [beq_self_eq_true, if_pos] at howners
    omega
  · simp only [beq_iff_eq, hother, if_false] at howners
    omega

theorem lasts_builds (v : Value) : M.Lasts fun h ref => M.code.Builds M.first h v ref :=
  fun _ _ _ _ hh hold hlive hv => hv.lasts hh.acquired hold hlive

theorem lasts_made (content : Obj) : M.Lasts fun h ref => M.code.Made M.first h content ref :=
  fun _ _ _ _ _ hold hlive hmade => hmade.lasts hold hlive

theorem forall₂_lasts {h h' : Heap Obj} {stands : α → Heap Obj → Ref → Prop} {xs : List α}
    {refs : List Ref} (hlasts : ∀ x, M.Lasts (stands x)) (hh : M.Within h' held)
    (hold : h.Older h') (hlive : ∀ ref ∈ refs, ∃ content, h'.get? ref = some content)
    (hrefs : List.Forall₂ (fun x ref => stands x h ref) xs refs) :
    List.Forall₂ (fun x ref => stands x h' ref) xs refs := by
  induction hrefs with
  | nil => exact .nil
  | @cons x ref xs rest href _ ih =>
      rw [List.forall_mem_cons] at hlive
      exact .cons (hlasts x h h' held ref hh hold hlive.1 href) (ih hlive.2)

theorem Gets.mono {c : Crossing β} {refs : β → List Ref} {stands stands' : Heap Obj → β → Prop}
    (hc : M.Gets c h held refs stands) (himp : ∀ h b, stands h b → stands' h b) :
    M.Gets c h held refs stands' := by
  obtain ⟨b, h', hcomes, hh', hold, hb⟩ := hc
  exact ⟨b, h', hcomes, hh', hold, himp h' b hb⟩

/-- One crossing after another, where the first one holds its result for the second one. -/
theorem Gets.bind {c : Crossing α} {f : α → Crossing β} {refs : α → List Ref}
    {refs' : β → List Ref} {stands : Heap Obj → α → Prop} {stands' : Heap Obj → β → Prop}
    (hc : M.Gets c h held refs stands)
    (hf : ∀ h' a, M.Within h' ((refs a : Multiset Ref) + held) → M.Follows h h' → stands h' a →
      M.Gets (f a) h' held refs' stands') : M.Gets (c >>= f) h held refs' stands' := by
  obtain ⟨a, h', hcomes, hh', hold, ha⟩ := hc
  obtain ⟨b, h'', hcomes', hh'', hold', hb⟩ := hf h' a hh' hold ha
  exact ⟨b, h'', hcomes.bind hcomes', hh'', hold.trans hold', hb⟩

theorem Forms.congr {c : Crossing β} {accepted accepted' : Prop} {refs : β → List Ref}
    {stands stands' : Heap Obj → β → Prop} (hc : M.Forms c accepted refs stands)
    (haccepted : accepted ↔ accepted') (himp : ∀ h b, stands h b → stands' h b) :
    M.Forms c accepted' refs stands' := by
  intro h held hh
  rw [← haccepted]
  exact (hc h held hh).imp_left (And.imp_right fun hgets => hgets.mono himp)

section Serving

variable (hM : M.Serves)

include hM

theorem exists_releaseAll {refs : List Ref} (hh : M.Within h ((refs : Multiset Ref) + held)) :
    ∃ h', (Program.releaseAll refs).Succeeds M.answer (M.place h) () (M.place h') ∧
      M.Within h' held ∧ h.Older h' ∧
        ∀ other, h'.owners other + refs.count other ≤ h.owners other := by
  induction refs generalizing h with
  | nil =>
      rw [Multiset.coe_nil, zero_add] at hh
      exact ⟨h, .done () _, hh, .refl h, fun _ => Nat.le_refl _⟩
  | cons ref rest ih =>
      rw [← Multiset.cons_coe, ← Multiset.singleton_add, add_assoc] at hh
      obtain ⟨h', houtcome, hh', hold, howners⟩ := hM.release h _ ref hh
      obtain ⟨h'', hrest, hh'', hold', howners'⟩ := ih hh'
      refine ⟨h'', .ask houtcome hrest, hh'', hold.trans hold', fun other => ?_⟩
      have hone := howners other
      have hothers := howners' other
      rw [← List.singleton_append, List.count_append]
      omega

theorem comes_checkRef (ctx : Context) (operation : Operation) (ref : Ref) (h : Heap Obj) :
    (ctx.checkRef operation (some ref)).Comes M.answer (M.place h) (.ok ref) (M.place h) := by
  unfold Context.checkRef
  exact Comes.bind (Comes.ask (hM.pending h)) Comes.pure

/-- An object that was asked for is made. -/
theorem comes_checked (ctx : Context) {r : Request} {given : Ref → r.Answer} {content : Obj}
    (operation : Operation) (asOption : r.Answer → Option Ref)
    (hgiven : ∀ ref, asOption (given ref) = some ref) (hhands : M.Hands h held r given content) :
    ∃ ref h', (Crossing.ask r >>= fun answer => ctx.checkRef operation (asOption answer)).Comes
        M.answer (M.place h) (.ok ref) (M.place h') ∧ M.Handed h h' held content ref := by
  obtain ⟨ref, h', houtcome, hhanded⟩ := hhands
  refine ⟨ref, h', Comes.bind (Comes.ask houtcome) ?_, hhanded⟩
  rw [hgiven]
  exact comes_checkRef hM ctx operation ref h'

theorem forms_scalarToForeign (ctx : Context) (s : Scalar) :
    M.Forms (ctx.scalarToForeign s) True (fun ref => [ref])
      fun h ref => M.code.Made M.first h (M.code.scalar s) ref := by
  intro h held hh
  obtain ⟨ref, h', hcomes, hhanded⟩ := comes_checked hM ctx (r := .newScalar s) .unpackScalar id
    (fun _ => rfl) (hM.newScalar h held s hh)
  refine .inl ⟨trivial, ref, h', ?_, hhanded.within, hhanded.follows (M.code.children_scalar s),
    hhanded.made⟩
  unfold Context.scalarToForeign
  exact Comes.bind Comes.note hcomes

theorem forms_textToForeign (ctx : Context) (t : String) :
    M.Forms (ctx.textToForeign t) True (fun ref => [ref])
      fun h ref => M.code.Made M.first h (M.code.text t) ref := by
  intro h held hh
  obtain ⟨ref, h', hcomes, hhanded⟩ := comes_checked hM ctx (r := .newString t) .unpackString id
    (fun _ => rfl) (hM.newString h held t hh)
  exact .inl ⟨trivial, ref, h', hcomes, hhanded.within, hhanded.follows (M.code.children_text t),
    hhanded.made⟩

theorem forms_handleToForeign (ctx : Context) (handle : Handle)
    (hlive : handle.context = ctx.id → ∃ content, M.first.get? handle.ref = some content) :
    M.Forms (ctx.handleToForeign handle) (handle.context = ctx.id) (fun ref => [ref])
      fun _ ref => ref = handle.ref := by
  intro h held hh
  unfold Context.handleToForeign
  by_cases hown : handle.context = ctx.id
  · obtain ⟨content, hcontent⟩ := hlive hown
    obtain ⟨h', houtcome, hh', hold, howners⟩ :=
      hM.retain h held handle.ref hh ⟨content, hh.acquired.get? hcontent⟩
    rw [if_pos hown]
    refine .inl ⟨hown, handle.ref, h', Comes.bind (Comes.ask houtcome) Comes.pure, hh',
      ⟨hold, fun other hnew => ?_⟩, rfl⟩
    -- The object was there at first.
    have hother : handle.ref ≠ other := by
      rintro rfl
      exact Nat.not_lt.2 hnew (Heap.id_lt_size hcontent)
    simp [howners, hother]
  · rw [if_neg hown]
    exact .inr ⟨hown, _, h, Comes.throw, hh⟩

/-!
# Tuples
-/

/-- References are acquired one by one; after a failure those acquired before are given back. -/
theorem forms_acquireEach {acquire : α → Crossing Ref} {accepted : α → Prop}
    {stands : α → Heap Obj → Ref → Prop} {xs : List α}
    (hacquire : ∀ x ∈ xs, M.Forms (acquire x) (accepted x) (fun ref => [ref]) (stands x))
    (hlasts : ∀ x, M.Lasts (stands x)) :
    M.Forms (acquireEach acquire xs) (∀ x ∈ xs, accepted x) id
      fun h refs => List.Forall₂ (fun x ref => stands x h ref) xs refs := by
  induction xs with
  | nil =>
      intro h held hh
      refine .inl ⟨by simp, [], h, Comes.pure, ?_, Follows.refl h, .nil⟩
      rwa [id, Multiset.coe_nil, zero_add]
  | cons x rest ih =>
      intro h held hh
      rw [List.forall_mem_cons]
      rw [List.forall_mem_cons] at hacquire
      rcases hacquire.1 h held hh with ⟨hx, ref, h', hcomes, hh', hold, href⟩ |
        ⟨hx, error, h', hcomes, hh'⟩
      · rw [Multiset.coe_singleton] at hh'
        rcases ih hacquire.2 h' _ hh' with ⟨hrest, refs, h'', hcomes', hh'', hold', hrefs⟩ |
          ⟨hrest, error, h'', hcomes', hh''⟩
        · have hheld : M.Within h'' (((ref :: refs : List Ref) : Multiset Ref) + held) := by
            rwa [id, add_left_comm, ← add_assoc, Multiset.singleton_add, Multiset.cons_coe] at hh''
          have hlive := hheld.acquired.live_held (Multiset.mem_add.2 (.inl List.mem_cons_self))
          refine .inl ⟨⟨hx, hrest⟩, ref :: refs, h'', ?_, hheld, hold.trans hold', ?_⟩
          · exact Comes.bind hcomes (Comes.bind (Comes.keeping hcomes') Comes.pure)
          · exact .cons (hlasts x h' h'' _ ref hheld hold'.older hlive href) hrefs
        · rw [← Multiset.coe_singleton] at hh''
          obtain ⟨h₃, hreleased, hh₃, -⟩ := exists_releaseAll hM hh''
          refine .inr ⟨fun hall => hrest hall.2, error, h₃, ?_, hh₃⟩
          exact Comes.bind hcomes (Comes.keeping_error hcomes' hreleased).bind_error
      · exact .inr ⟨fun hall => hx hall.1, error, h', hcomes.bind_error, hh'⟩

/-- A tuple keeps alive what it is made of. -/
theorem gets_buildTuple (ctx : Context) {stands : α → Heap Obj → Ref → Prop} {xs : List α}
    {refs : List Ref} (hh : M.Within h ((refs : Multiset Ref) + held))
    (hlasts : ∀ x, M.Lasts (stands x))
    (hrefs : List.Forall₂ (fun x ref => stands x h ref) xs refs) :
    M.Gets (ctx.buildTuple refs) h held (fun ref => [ref]) fun h' tuple => ∃ refs,
      M.code.Made M.first h' (M.code.tuple refs) tuple ∧
        List.Forall₂ (fun x ref => stands x h' ref) xs refs := by
  obtain ⟨tuple, h', hcomes, hhanded⟩ := comes_checked hM ctx (r := .newTuple refs)
    .buildSequence id (fun _ => rfl) (hM.newTuple h held refs hh)
  have hh' := hhanded.within
  rw [add_left_comm] at hh'
  obtain ⟨h'', hreleased, hh'', hold', howners'⟩ := exists_releaseAll hM hh'
  have hlive := hh''.acquired.live_held (Multiset.mem_add.2 (.inl (List.mem_singleton.2 rfl)))
  have hmade := hhanded.made.lasts hold' hlive
  have hold := hhanded.older.trans hold'
  refine ⟨tuple, h'', Comes.owningAll hcomes hreleased, hh'', ⟨hold, fun other hnew => ?_⟩, refs,
    hmade, forall₂_lasts hlasts hh'' hold (hmade.exists_item hh''.acquired) hrefs⟩
  have howners := hhanded.owners other
  have hgiven := howners' other
  rw [M.code.children_tuple, List.count_singleton] at howners
  by_cases hother : tuple = other
  · subst hother
    have hfresh := hhanded.fresh hnew
    simp only [beq_self_eq_true, if_pos] at howners
    omega
  · simp only [beq_iff_eq, hother, if_false] at howners
    omega

theorem forms_tuple (ctx : Context) {acquire : α → Crossing Ref} {accepted : α → Prop}
    {stands : α → Heap Obj → Ref → Prop} {xs : List α}
    (hacquire : ∀ x ∈ xs, M.Forms (acquire x) (accepted x) (fun ref => [ref]) (stands x))
    (hlasts : ∀ x, M.Lasts (stands x)) :
    M.Forms (acquireEach acquire xs >>= ctx.buildTuple) (∀ x ∈ xs, accepted x) (fun ref => [ref])
      fun h tuple => ∃ refs, M.code.Made M.first h (M.code.tuple refs) tuple ∧
        List.Forall₂ (fun x ref => stands x h ref) xs refs := by
  intro h held hh
  rcases forms_acquireEach hM hacquire hlasts h held hh with ⟨hall, hgets⟩ |
    ⟨hall, error, h', hcomes, hh'⟩
  · exact .inl ⟨hall, hgets.bind fun h' refs hh' _ hrefs => gets_buildTuple hM ctx hh' hlasts hrefs⟩
  · exact .inr ⟨hall, error, h', hcomes.bind_error, hh'⟩

omit hM in
/-- What stands for a tuple lasts if what stands for its items does. -/
theorem lasts_tuple {stands : α → Heap Obj → Ref → Prop} (hlasts : ∀ x, M.Lasts (stands x))
    (xs : List α) :
    M.Lasts fun h tuple => ∃ refs, M.code.Made M.first h (M.code.tuple refs) tuple ∧
      List.Forall₂ (fun x ref => stands x h ref) xs refs := by
  rintro h h' held tuple hh' hold hlive ⟨refs, hmade, hrefs⟩
  have hmade' := hmade.lasts hold hlive
  exact ⟨refs, hmade', forall₂_lasts hlasts hh' hold (hmade'.exists_item hh'.acquired) hrefs⟩

/-!
# Values
-/

/-- The rows of a matrix are tuples, and so is the matrix. -/
theorem forms_matrixToForeign (ctx : Context) (m : Matrix) :
    M.Forms (ctx.matrixToForeign m) m.shape?.isSome (fun ref => [ref])
      fun h ref => M.code.BuildsMatrix M.first h m ref := by
  unfold Context.matrixToForeign Matrix.rows?
  cases hshape : m.shape? with
  | none =>
      intro h held hh
      exact .inr ⟨by simp, _, h, Comes.throw, hh⟩
  | some shape =>
      obtain ⟨rows, columns⟩ := shape
      have hrow : ∀ row ∈ Matrix.rowsOf columns rows m.elements,
          M.Forms (acquireEach ctx.scalarToForeign row >>= ctx.buildTuple) True (fun ref => [ref])
            fun h rowRef => ∃ leaves, M.code.Made M.first h (M.code.tuple leaves) rowRef ∧
              List.Forall₂ (fun s leaf => M.code.Made M.first h (M.code.scalar s) leaf) row leaves :=
        fun row _ => (forms_tuple hM ctx (fun s _ => forms_scalarToForeign hM ctx s)
          (fun s => lasts_made (M.code.scalar s))).congr (by simp) fun _ _ hleaves => hleaves
      refine (forms_tuple hM ctx hrow fun row =>
        lasts_tuple (fun s => lasts_made (M.code.scalar s)) row).congr (by simp) ?_
      rintro h ref ⟨rowRefs, hmade, hrows⟩
      exact Matrix.buildsMatrix_of_rows hshape hmade hrows

end Serving

mutual

theorem forms_toForeign (hM : M.Serves) (ctx : Context) (v : Value)
    (hlive : ∀ handle ∈ v.handles, handle.context = ctx.id →
      ∃ content, M.first.get? handle.ref = some content) :
    M.Forms (ctx.toForeign v) (ctx.Admits v) (fun ref => [ref])
      fun h ref => M.code.Builds M.first h v ref := by
  cases v with
  | undefined =>
      intro h held hh
      obtain ⟨ref, h', houtcome, hhanded⟩ := hM.null h held hh
      refine .inl ⟨by simp [Context.Admits, Value.matrices, Value.handles], ref, h', ?_,
        hhanded.within, hhanded.follows M.code.children_null, ?_⟩
      · unfold Context.toForeign
        exact Comes.ask houtcome
      · simpa [Encoding.Builds] using hhanded.made
  | scalar s =>
      unfold Context.toForeign
      refine (forms_scalarToForeign hM ctx s).congr ?_ fun h ref hmade => ?_
      · simp [Context.Admits, Value.matrices, Value.handles]
      · rwa [Encoding.Builds]
  | text t =>
      unfold Context.toForeign
      refine (forms_textToForeign hM ctx t).congr ?_ fun h ref hmade => ?_
      · simp [Context.Admits, Value.matrices, Value.handles]
      · rwa [Encoding.Builds]
  | cell items =>
      rw [Context.toForeign_cell]
      refine (forms_tuple hM ctx (forms_each hM ctx items hlive) lasts_builds).congr
        (ctx.admits_cell items).symm fun h ref hitems => ?_
      rw [Encoding.Builds]
      simpa [Encoding.buildsEach_iff] using hitems
  | matrix m =>
      unfold Context.toForeign
      refine (forms_matrixToForeign hM ctx m).congr ?_ fun h ref hm => ?_
      · simp [Context.Admits, Value.matrices, Value.handles]
      · rwa [Encoding.Builds]
  | foreign handle =>
      unfold Context.toForeign
      refine (forms_handleToForeign hM ctx handle (hlive handle (by simp [Value.handles]))).congr
        ?_ fun h ref hsame => ?_
      · simp [Context.Admits, Value.matrices, Value.handles]
      · rwa [Encoding.Builds]

theorem forms_each (hM : M.Serves) (ctx : Context) (values : List Value)
    (hlive : ∀ handle ∈ Value.handlesAll values, handle.context = ctx.id →
      ∃ content, M.first.get? handle.ref = some content) :
    ∀ v ∈ values, M.Forms (ctx.toForeign v) (ctx.Admits v) (fun ref => [ref])
      fun h ref => M.code.Builds M.first h v ref := by
  cases values with
  | nil => simp
  | cons v rest =>
      rw [Value.handlesAll, List.forall_mem_append] at hlive
      rw [List.forall_mem_cons]
      exact ⟨forms_toForeign hM ctx v hlive.1, forms_each hM ctx rest hlive.2⟩

end

end Maker
end ForeignBridge
