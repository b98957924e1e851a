import ForeignBridge.Proofs.Crossing.Confinement
import ForeignBridge.Proofs.Matrix.Views

/-!
# Origin

What a bridge hands to the host it has made itself.  Every handle is one of its own: it is made by
that bridge, or it was given to the bridge and found to be its own; and every matrix is put together
of the rows of a sequence.
-/

namespace ForeignBridge

variable {α β : Type} {post : α → Prop}

/-- The handles that the host owns with a reply. -/
def Reply.handles : Reply → List Handle
  | .value v => v.handles
  | .names _ | .nothing => []

namespace Crossing

/-- A result of a crossing is as wanted, whatever the runtime answers. -/
def Yields (post : α → Prop) (c : Crossing α) : Prop :=
  c.Follows (confinement true fun _ => True) (fun a _ => post a) (fun _ _ => True) ()

namespace Yields

theorem pure {a : α} (h : post a) : Yields post (pure a) := h

theorem throw {e : BridgeError} : Yields post (throw e) := trivial

theorem abort {panic : Panic} : Yields post (abort panic) := trivial

theorem bind {middle : β → Prop} {c : Crossing β} {f : β → Crossing α} (hc : Yields middle c)
    (hf : ∀ b, middle b → Yields post (f b)) : Yields post (c >>= f) := by
  unfold Yields
  rw [follows_bind]
  exact follows_mono (fun b _ hb => hf b hb) (fun _ _ h => h) hc

theorem trivially (c : Crossing α) : Yields (fun _ => True) c := by
  have hall : ∀ p : Program (Except BridgeError α),
      p.Follows (confinement true fun _ => True) (fun _ _ => True) () := by
    intro p
    induction p with
    | done result => trivial
    | abort panic => trivial
    | ask r next ih => exact ⟨fun _ => rfl, fun answer _ _ => ih answer⟩
    | note event next ih => exact ih
  refine Program.follows_mono (fun outcome _ _ => ?_) (hall c.run)
  cases outcome with
  | ok a => trivial
  | error e => trivial

/-- What comes first does not matter to the result. -/
theorem after {c : Crossing β} {f : β → Crossing α} (hf : ∀ b, Yields post (f b)) :
    Yields post (c >>= f) :=
  bind (trivially c) fun b _ => hf b

theorem owningAll {refs : List Ref} {body : Crossing α} (hbody : Yields post body) :
    Yields post (owningAll refs body) := by
  unfold Yields at hbody ⊢
  rw [follows_owningAll]
  refine follows_mono (fun a _ ha => ?_) (fun _ _ _ => ?_) hbody
  · exact Confined.follows_releaseAll refs ha
  · exact Confined.follows_releaseAll refs trivial

theorem keeping {refs : List Ref} {body : Crossing α} (hbody : Yields post body) :
    Yields post (keeping refs body) := by
  unfold Yields at hbody ⊢
  rw [follows_keeping]
  refine follows_mono (fun _ _ ha => ha) (fun _ _ _ => ?_) hbody
  exact Confined.follows_releaseAll refs trivial

end Yields

section Runs

variable {σ : Type} {answer : (r : Request) → Attempt σ r.Answer} {record : Event → StateM σ Unit}

theorem result_of_follows {post : α → Unit → Prop} {p : Program α} {held held' : List Ref}
    {s s' : σ} {a : α} (h : p.Follows (confinement true fun _ => True) post ())
    (hrun : (p.runHolding answer record held).run s = ((.ok a, held'), s')) : post a () := by
  induction p generalizing held s with
  | done result =>
      cases hrun
      exact h
  | abort panic => cases hrun
  | ask r next ih =>
      rw [Program.runHolding_ask] at hrun
      rcases houtcome : (answer r).outcome s with ⟨outcome, s''⟩
      rw [houtcome] at hrun
      cases outcome with
      | ok given => exact ih given (h.2 given () trivial) hrun
      | error panic => cases hrun
  | note event next ih => exact ih h hrun

/-- What a crossing yields it also yields when it is run. -/
theorem Yields.of_run {c : Crossing α} (h : Yields post c) {s s' : σ} {a : α}
    (hrun : (c.run.run answer record).outcome s = (.ok (.ok a), s')) : post a := by
  rw [Program.outcome_run] at hrun
  rcases hholding : (c.run.runHolding answer record []).run s with ⟨⟨outcome, held⟩, s''⟩
  rw [hholding] at hrun
  cases outcome with
  | ok result =>
      cases hrun
      exact result_of_follows h hholding
  | error panic => cases hrun

end Runs
end Crossing

namespace Context

open Crossing

variable (ctx : Context)

/-- A property of values that a value has if its parts have it.  The handles are those of the bridge,
and the matrices those that are made of sequences. -/
structure Composes (P : Value → Prop) : Prop where
  undefined : P .undefined
  scalar : ∀ s, P (.scalar s)
  text : ∀ text, P (.text text)
  foreign : ∀ h, h.context = ctx.id → P (.foreign h)
  matrix : ∀ m, m.Flat → P (.matrix m)
  cell : ∀ values, (∀ v ∈ values, P v) → P (.cell values)

theorem yields_wrap (object : Ref) : Yields (fun h => h.context = ctx.id) (ctx.wrap object) := by
  unfold wrap
  apply Yields.after
  intro name
  apply Yields.after
  intro _
  exact Yields.pure rfl

/-- A matrix is made of sequences, or none is. -/
theorem yields_matrixToHost (rows : List Ref) :
    Yields (fun matrix? => ∀ m, matrix? = some m → m.Flat) (ctx.matrixToHost rows) := by
  unfold matrixToHost
  apply Yields.after
  intro leaves?
  cases leaves? with
  | none => exact Yields.pure nofun
  | some leaves =>
      apply Yields.owningAll
      apply Yields.after
      intro elements
      dsimp only
      cases hmade : Matrix.ofDoubles rows.length ((leaves.head?.map List.length).getD 0) elements with
      | error fault => exact Yields.throw
      | ok m =>
          apply Yields.pure
          rintro _ ⟨⟩
          exact Matrix.flat_of_ofDoubles hmade

section Composing

variable {P : Value → Prop} (hP : ctx.Composes P)

include hP

theorem yields_plainToHost (object : Ref) (kind : ForeignKind) :
    Yields P (ctx.plainToHost object kind) := by
  cases kind with
  | null => exact Yields.owningAll (Yields.pure hP.undefined)
  | bool | integer | float =>
      exact Yields.owningAll (Yields.after fun _ => Yields.pure (hP.scalar _))
  | bytes | unicode => exact Yields.owningAll (Yields.after fun _ => Yields.pure (hP.text _))
  | sequence | attributeBag | object =>
      exact Yields.bind (ctx.yields_wrap object) fun h hown => Yields.pure (hP.foreign h hown)

omit hP in
theorem yields_convertEach {convert : Ref → Crossing Value}
    (hconvert : ∀ object, Yields P (convert object)) (objects : List Ref) :
    Yields (fun values => ∀ v ∈ values, P v) (convertEach convert objects) := by
  induction objects with
  | nil => exact Yields.pure nofun
  | cons object rest ih =>
      unfold convertEach
      apply Yields.bind (Yields.keeping (hconvert object))
      intro value hvalue
      apply Yields.bind (Yields.keeping ih)
      intro values hvalues
      exact Yields.pure (List.forall_mem_cons.2 ⟨hvalue, hvalues⟩)

theorem yields_sequenceToHost {convert : Ref → Crossing Value}
    (hconvert : ∀ object, Yields P (convert object)) (sequence : Ref) :
    Yields P (ctx.sequenceToHost convert sequence) := by
  unfold sequenceToHost
  apply Yields.owningAll
  apply Yields.after
  intro items
  have hcell : Yields P (convertEach convert items >>= fun values => Pure.pure (.cell values)) :=
    Yields.bind (yields_convertEach hconvert items) fun _ hvalues =>
      Yields.pure (hP.cell _ hvalues)
  cases ctx.settings.matrixAutoconversion with
  | false => exact hcell
  | true =>
      cases items with
      | nil => exact Yields.pure (hP.matrix _ Matrix.flat_empty)
      | cons item rest =>
          apply Yields.bind (Yields.keeping (ctx.yields_matrixToHost (item :: rest)))
          intro matrix? hmatrix
          cases matrix? with
          | some m => exact Yields.after fun _ => Yields.pure (hP.matrix m (hmatrix m rfl))
          | none => exact hcell

theorem yields_elementToHost {convert : Ref → Crossing Value}
    (hconvert : ∀ object, Yields P (convert object)) (item : Ref) :
    Yields P (ctx.elementToHost convert item) := by
  unfold elementToHost
  apply Yields.after
  intro kind
  by_cases hkind : kind = .sequence
  · rw [if_pos hkind]
    apply Yields.owningAll
    apply Yields.after
    intro inner
    apply Yields.after
    intro nested
    cases nested with
    | true =>
        apply Yields.after
        intro _
        apply Yields.after
        intro _
        refine Yields.pure (hP.cell _ fun v hv => ?_)
        rw [List.eq_of_mem_replicate hv]
        exact hP.undefined
    | false =>
        exact Yields.bind (yields_convertEach hconvert inner) fun _ hvalues =>
          Yields.pure (hP.cell _ hvalues)
  · rw [if_neg hkind]
    exact hconvert item

theorem yields_objectToHost {convertSequence : Ref → Crossing Value}
    (hconvert : ∀ object, Yields P (convertSequence object)) (object : Ref) :
    Yields P (ctx.objectToHost convertSequence object) := by
  unfold objectToHost
  apply Yields.after
  intro kind
  cases kind with
  | sequence => exact hconvert object
  | null | bool | integer | float | bytes | unicode | attributeBag | object =>
      exact ctx.yields_plainToHost hP object _

theorem yields_toHostWithin (depth : Nat) (object : Ref) :
    Yields P (ctx.toHostWithin depth object) := by
  induction depth generalizing object with
  | zero => exact ctx.yields_objectToHost hP (fun _ => Yields.abort) object
  | succ depth ih =>
      exact ctx.yields_objectToHost hP
        (ctx.yields_sequenceToHost hP (ctx.yields_elementToHost hP ih)) object

theorem yields_toHost (object : Ref) : Yields P (ctx.toHost object) :=
  ctx.yields_toHostWithin hP _ object

end Composing

/-!
# Handles
-/

/-- The handles in a value are those of a bridge. -/
def Made (v : Value) : Prop := ∀ h ∈ v.handles, h.context = ctx.id

theorem made_foreign {h : Handle} (hown : h.context = ctx.id) : ctx.Made (.foreign h) := by
  intro other hother
  rw [List.mem_singleton.1 hother]
  exact hown

theorem composes_made : ctx.Composes ctx.Made where
  undefined := nofun
  scalar _ := nofun
  text _ := nofun
  foreign _ := ctx.made_foreign
  matrix _ _ := nofun
  cell values h := by
    intro handle hhandle
    rw [Value.handles, Value.handlesAll_eq_flatMap, List.mem_flatMap] at hhandle
    rcases hhandle with ⟨v, hv, hmem⟩
    exact h v hv handle hmem

theorem yields_requireOwn (h : Handle) : Yields (fun _ => h.context = ctx.id) (ctx.requireOwn h) := by
  unfold requireOwn
  by_cases hown : h.context = ctx.id
  · rw [if_pos hown]
    exact Yields.pure hown
  · rw [if_neg hown]
    exact Yields.throw

theorem yields_readChain {root : Handle} (hroot : root.context = ctx.id) (chain : List Accessor) :
    Yields ctx.Made (ctx.readChain root chain) := by
  unfold readChain
  apply Yields.after
  intro target
  cases chain with
  | nil => exact Yields.pure (ctx.made_foreign hroot)
  | cons link links => exact Yields.after (ctx.yields_toHost ctx.composes_made)

theorem yields_assignChain (root : Handle) (chain : List Accessor) (value : Value) :
    Yields (fun h => h = root) (ctx.assignChain root chain value) := by
  unfold assignChain
  cases chain.getLast? with
  | none => exact Yields.throw
  | some last =>
      apply Yields.after
      intro target
      apply Yields.after
      intro target
      apply Yields.owningAll
      apply Yields.after
      intro _
      exact Yields.after fun _ => Yields.pure rfl

/-- The handles in a reply are those of the bridge that replies. -/
theorem yields_serve (entry : Entry) :
    Yields (fun reply => ∀ h ∈ reply.handles, h.context = ctx.id) (ctx.serve entry) := by
  have hwrap : ∀ object : Ref, Yields (fun reply => ∀ h ∈ reply.handles, h.context = ctx.id)
      (ctx.wrap object >>= fun h => Pure.pure (Reply.value (.foreign h))) :=
    fun object => Yields.bind (ctx.yields_wrap object) fun h hown =>
      Yields.pure (ctx.made_foreign hown)
  have hconvert : ∀ object : Ref, Yields (fun reply => ∀ h ∈ reply.handles, h.context = ctx.id)
      (ctx.toHost object >>= fun v => Pure.pure (Reply.value v)) :=
    fun object => Yields.bind (ctx.yields_toHost ctx.composes_made object) fun v hv => Yields.pure hv
  cases entry with
  | importModule name => exact Yields.after hwrap
  | construct module className arguments =>
      apply Yields.after
      intro module
      apply Yields.owningAll
      apply Yields.after
      intro constructor
      apply Yields.owningAll
      exact Yields.after hwrap
  | invoke on method arguments =>
      apply Yields.after
      intro target
      apply Yields.owningAll
      apply Yields.after
      intro callable
      apply Yields.owningAll
      exact Yields.after hconvert
  | getField on field =>
      apply Yields.after
      intro target
      apply Yields.owningAll
      exact Yields.after hconvert
  | setField on field value =>
      apply Yields.after
      intro target
      apply Yields.owningAll
      apply Yields.after
      intro ref
      exact Yields.after fun _ => Yields.pure nofun
  | read root chain =>
      apply Yields.bind (ctx.yields_requireOwn root)
      intro _ hroot
      exact Yields.bind (ctx.yields_readChain hroot chain) fun v hv => Yields.pure hv
  | assign root chain value =>
      apply Yields.bind (ctx.yields_requireOwn root)
      intro _ hroot
      apply Yields.bind (ctx.yields_assignChain root chain value)
      intro h hh
      rw [hh]
      exact Yields.pure (ctx.made_foreign hroot)
  | members h =>
      apply Yields.after
      intro _
      exact Yields.after fun _ => Yields.pure nofun

end Context
end ForeignBridge
