import ForeignBridge.Proofs.Names.Resolving

/-!
# Requests that agree with chains

A field is read, written and called by requests of their own, and by chains.  Both ask the runtime for
the same, but give references back in another order: a request owns what it works on until the end, and
a chain only until its next link.  What is asked meanwhile does not tell the difference.

A name that leads to an object is as good as a handle of it.
-/

namespace ForeignBridge

open Simulation

variable {α β : Type} {depth : Nat} {s t : Simulation} {ref : Ref}

namespace Crossing

/-- What comes after the first part may be replaced by something that comes to the same. -/
theorem Comes.bind_congr {σ : Type} {answer : (r : Request) → Attempt σ r.Answer} {s t : σ}
    {c : Crossing α} {k k' : α → Crossing β} {outcome : Except BridgeError β}
    (h : (c >>= k).Comes answer s outcome t)
    (hk : ∀ a s', c.Comes answer s (.ok a) s' → (k a).Comes answer s' outcome t →
      (k' a).Comes answer s' outcome t) :
    (c >>= k').Comes answer s outcome t := by
  rcases h.cases_bind with ⟨a, s', hc, hrest⟩ | ⟨error, rfl, hc⟩
  · exact Comes.bind hc (hk a s' hc hrest)
  · exact Comes.bind_error hc

/-- What was done after a reference was given back may be done before. -/
theorem Comes.owning_bind {c : Crossing α} {k : α → Crossing β} {outcome : Except BridgeError β}
    (hrunning : s.phase = .running)
    (h : (owning ref c >>= k).Comes (answer (run depth)) s outcome t) :
    (owning ref (c >>= k)).Comes (answer (run depth)) s outcome t := by
  rcases h.cases_bind with ⟨a, s', howning, hrest⟩ | ⟨error, rfl, howning⟩
  · rcases howning.of_owningAll with ⟨middle, hc, hrelease⟩
    rcases (owes_of_releaseAll hrelease).exists_comes hrest with ⟨t', hrest', howes⟩
    have hboth := Comes.bind hc hrest'
    exact Comes.owningAll hboth (howes.succeeds_releaseAll ((phase_of_comes hboth).trans hrunning))
  · rcases howning.of_owningAll with ⟨middle, hc, hrelease⟩
    exact Comes.owningAll (Comes.bind_error hc) hrelease

end Crossing

namespace Simulation

/-!
# Lent references
-/

theorem contentOf_lent (h : Heap Object) (held : Multiset Ref) (ref : Ref) :
    contentOf (h.lent held) ref = contentOf h ref := by
  unfold contentOf
  rw [Heap.get?_lent]

theorem attributeOf?_lent (h : Heap Object) (held : Multiset Ref) (ref : Ref) (name : String) :
    attributeOf? (h.lent held) ref name = attributeOf? h ref name := by
  unfold attributeOf?
  simp only [contentOf_lent]

theorem Attribute.isCallable_lent (a : Attribute) (h : Heap Object) (held : Multiset Ref) :
    a.isCallable (h.lent held) = a.isCallable h := by
  unfold isCallable
  simp only [contentOf_lent]

theorem Closed.lent {h : Heap Object} (hclosed : Closed h) (held : Multiset Ref) :
    Closed (h.lent held) := by
  intro ref object hget child hchild
  rw [Heap.get?_lent] at hget ⊢
  exact hclosed ref object hget child hchild

theorem isLive_lent (h : Heap Object) (held : Multiset Ref) (ref : Ref) :
    (h.lent held).isLive ref = h.isLive ref := by
  unfold Heap.isLive
  rw [Heap.slot?_lent, Option.isSome_map]

theorem comes_retain_live (hrunning : s.phase = .running) (hlive : s.heap.isLive ref = true) :
    (Crossing.ask (.retain ref)).Comes (answer (run depth)) s (.ok ()) (s.lending {ref}) := by
  have hretain := Heap.retain?_lent (get?_contentOf hlive) 0
  rw [Heap.lent_zero] at hretain
  have houtcome : (retain ref).outcome s = (.ok (), s.lending {ref}) := outcome_retain hretain
  exact Crossing.Comes.ask ((outcome_answer_of_running hrunning _).trans houtcome)

/-- An attribute that was read can be called if the heap says so. -/
theorem comes_isCallable_of_getAttr (ctx : Context) (hclosed : Closed s.heap) (hlive : s.heap.isLive ref = true)
    {name : String} {a : Attribute} (ha : attributeOf? s.heap ref name = some a)
    (hcallable : a.isCallable s.heap = true) {callable : Ref}
    (hread : (ctx.getAttr ref name).Comes (answer (run depth)) s (.ok callable) t) :
    (Crossing.ask (.isCallable callable)).Comes (answer (run depth)) t (.ok true) t := by
  rcases (hread.of_bind_of_comes Crossing.Comes.note).of_bind with ⟨given, middle, hasked, hcheck⟩
  rcases serve_of_answer hasked.of_ask with ⟨hrunning, hserved⟩
  have houtcome : (Simulation.serve (run depth) (.getAttr ref name)).outcome s = _ :=
    outcome_getAttr_eq hclosed hlive name
  rw [hserved, ha, ctx.of_checkRef hcheck, ← (ctx.eq_of_checkRef hcheck).1] at houtcome
  dsimp only at houtcome
  cases houtcome
  have hlook : ∀ {object : Object}, (a.owned s.heap).2.get? (a.owned s.heap).1 = some object →
      object.isCallable = true →
      (Crossing.ask (.isCallable (a.owned s.heap).1)).Comes (answer (run depth))
        (s.withHeap (a.owned s.heap).2) (.ok true) (s.withHeap (a.owned s.heap).2) := by
    intro object hget hobject
    have hserve : (Simulation.serve (run depth) (.isCallable (a.owned s.heap).1)).outcome
        (s.withHeap (a.owned s.heap).2) = _ := outcome_access_bind hget _
    have hanswer := (outcome_answer_of_running (s := s.withHeap (a.owned s.heap).2) hrunning _).trans
      hserve
    rw [hobject] at hanswer
    exact Crossing.Comes.ask hanswer
  cases a with
  | object found =>
      have hget := get?_lending (lives_of_attributeOf? hclosed hlive ha) {found}
      exact hlook hget hcallable
  | method receiver function => exact hlook (Heap.get?_allocate _ _) rfl

end Simulation
namespace Context

open Crossing

variable (ctx : Context) {root : Handle} {outcome : Except BridgeError Reply}

/-!
# Requests about a handle
-/

section Handles

variable (hown : root.context = ctx.id)

include hown

/-- What a handle stands for is its object, of which a reference is acquired. -/
theorem resolve_handle : ctx.resolve (.handle root) = Crossing.ask (.retain root.ref) >>= fun _ =>
    pure root.ref := by
  unfold resolve acquire
  dsimp only
  rw [ctx.serve_of_own hown]

theorem serve_getField (name : String) :
    ctx.serve (.getField (.handle root) name) = Crossing.ask (.retain root.ref) >>= fun _ =>
      owning root.ref (ctx.getAttr root.ref name >>= fun last =>
        ctx.toHost last >>= fun v => pure (.value v)) := by
  unfold serve
  dsimp only
  rw [ctx.resolve_handle hown]
  simp only [bind_assoc, pure_bind]

theorem serve_invoke (name : String) (arguments : List Value) :
    ctx.serve (.invoke (.handle root) name arguments) =
      Crossing.ask (.retain root.ref) >>= fun _ =>
        owning root.ref (ctx.getAttr root.ref name >>= fun callable =>
          owning callable (ctx.callWith callable arguments >>= fun last =>
            ctx.toHost last >>= fun v => pure (.value v))) := by
  unfold serve
  dsimp only
  rw [ctx.resolve_handle hown]
  simp only [bind_assoc, pure_bind]

theorem serve_setField (name : String) (v : Value) :
    ctx.serve (.setField (.handle root) name v) = Crossing.ask (.retain root.ref) >>= fun _ =>
      owning root.ref (ctx.assign root.ref v (.field name) >>= fun _ => pure .nothing) := by
  unfold serve assign
  dsimp only
  rw [ctx.resolve_handle hown]
  simp only [bind_assoc, pure_bind]

theorem serve_assign_field (name : String) (v : Value) :
    ctx.serve (.assign root [.field name] v) = Crossing.ask (.retain root.ref) >>= fun _ =>
      owning root.ref (ctx.assign root.ref v (.field name) >>= fun _ =>
        Crossing.ask (.retain root.ref) >>= fun _ => pure root) >>= fun h =>
          pure (.value (.foreign h)) := by
  show (ctx.requireOwn root >>= fun _ => ctx.assignChain root [.field name] v >>= fun h =>
    pure (Reply.value (.foreign h))) = _
  rw [ctx.serve_of_own hown]
  unfold assignChain acquire
  simp only [List.getLast?_singleton, List.dropLast_singleton, walk, bind_assoc, pure_bind]

/-- A field is read as by a chain. -/
theorem comes_getField_of_read (name : String)
    (h : (ctx.serve (.read root [.field name])).Comes (answer (run depth)) s outcome t) :
    (ctx.serve (.getField (.handle root) name)).Comes (answer (run depth)) s outcome t := by
  rw [ctx.serve_read hown (List.cons_ne_nil _ _)] at h
  rw [ctx.serve_getField hown]
  simp only [walk, bind_assoc, pure_bind] at h
  refine h.bind_congr fun _ s' hretain hrest => ?_
  have hphase : s'.phase = .running := (phase_of_comes hretain).trans (serve_of_answer hretain.of_ask).1
  exact Comes.owning_bind hphase hrest

/-- A field that can be called is called as by a chain. -/
theorem comes_invoke_of_read {name : String} (arguments : List Value) (hclosed : Closed s.heap)
    (hlive : s.heap.isLive root.ref = true) {a : Attribute}
    (ha : attributeOf? s.heap root.ref name = some a) (hcallable : a.isCallable s.heap = true)
    (h : (ctx.serve (.read root [.field name, .call arguments])).Comes (answer (run depth)) s
      outcome t) :
    (ctx.serve (.invoke (.handle root) name arguments)).Comes (answer (run depth)) s outcome t := by
  rw [ctx.serve_read hown (List.cons_ne_nil _ _)] at h
  rw [ctx.serve_invoke hown]
  simp only [walk, bind_assoc, pure_bind] at h
  refine h.bind_congr fun _ s' hretain hrest => ?_
  have hrunning := (serve_of_answer hretain.of_ask).1
  have hphase : s'.phase = .running := (phase_of_comes hretain).trans hrunning
  have hs' : s' = s.lending {root.ref} := (hretain.unique (comes_retain_live hrunning hlive)).2
  rcases (Comes.owning_bind hphase hrest).of_owningAll with ⟨middle, hbody, hrelease⟩
  refine Comes.owningAll (hbody.bind_congr fun callable s'' hread hcall => ?_) hrelease
  have hphase' : s''.phase = .running := (phase_of_comes hread).trans hphase
  rcases (Comes.owning_bind hphase' hcall).of_owningAll with ⟨last, hstep, hrelease'⟩
  refine Comes.owningAll ?_ hrelease'
  -- The chain asks first whether the field can be called.
  rw [hs'] at hread
  have hclosed' : Closed (s.lending {root.ref}).heap := hclosed.lent {root.ref}
  have hlive' : (s.lending {root.ref}).heap.isLive root.ref = true :=
    (isLive_lent s.heap {root.ref} root.ref).trans hlive
  have ha' : attributeOf? (s.lending {root.ref}).heap root.ref name = some a :=
    (attributeOf?_lent s.heap {root.ref} root.ref name).trans ha
  have hcallable' : a.isCallable (s.lending {root.ref}).heap = true :=
    (a.isCallable_lent s.heap {root.ref}).trans hcallable
  have hasked := comes_isCallable_of_getAttr ctx hclosed' hlive' ha' hcallable' hread
  unfold step at hstep
  dsimp only at hstep
  rw [bind_assoc] at hstep
  have hcalled := hstep.of_bind_of_comes hasked
  rw [if_pos rfl] at hcalled
  exact hcalled

/-- A field is written as by a chain, which returns the handle it began with. -/
theorem comes_assign_of_setField {name : String} {v : Value}
    (h : (ctx.serve (.setField (.handle root) name v)).Comes (answer (run depth)) s outcome t) :
    (∃ error, outcome = .error error ∧
        (ctx.serve (.assign root [.field name] v)).Comes (answer (run depth)) s (.error error) t) ∨
      (outcome = .ok .nothing ∧ ∃ t',
        (ctx.serve (.assign root [.field name] v)).Comes (answer (run depth)) s
          (.ok (.value (.foreign root))) t' ∧ t'.Owes [root.ref] t ∧ t'.phase = .running) := by
  rw [ctx.serve_setField hown] at h
  rw [ctx.serve_assign_field hown]
  rcases h.cases_bind with ⟨_, s', hretain, hrest⟩ | ⟨error, rfl, hretain⟩
  · rcases hrest.of_owningAll with ⟨middle, hbody, hrelease⟩
    rcases hbody.cases_bind with ⟨_, after, hassign, hpure⟩ | ⟨error, rfl, hassign⟩
    · cases hpure
      have howes := owes_of_releaseAll hrelease
      have hrunning : middle.phase = .running :=
        ((phase_of_comes hassign).trans (phase_of_comes hretain)).trans
          (serve_of_answer hretain.of_ask).1
      have hget : ∃ object, middle.heap.get? root.ref = some object := by
        cases howes.pays with
        | cons hslot _ => exact ⟨_, Option.map_eq_some_iff.2 ⟨_, hslot, rfl⟩⟩
      rcases hget with ⟨object, hget⟩
      have hlast : (Crossing.ask (.retain root.ref)).Comes (answer (run depth)) middle (.ok ())
          (middle.lending {root.ref}) := comes_retain_live hrunning (Heap.isLive_of_get? hget)
      have hback : (Program.releaseAll [root.ref]).Succeeds (answer (run depth))
          (middle.lending {root.ref}) () middle :=
        (owes_of_retain (serve_of_answer hlast.of_ask).2).succeeds_releaseAll hrunning
      have hwritten : (ctx.assign root.ref v (.field name) >>= fun _ =>
          Crossing.ask (.retain root.ref) >>= fun _ => pure root).Comes (answer (run depth)) s'
            (.ok root) (middle.lending {root.ref}) := Comes.bind hassign (Comes.bind hlast Comes.pure)
      have hwhole := Comes.owningAll hwritten hback
      exact .inr ⟨rfl, middle, Comes.bind hretain (Comes.bind hwhole Comes.pure), howes, hrunning⟩
    · exact .inl ⟨error, rfl, Comes.bind hretain
        (Comes.bind_error (Comes.owningAll (Comes.bind_error hassign) hrelease))⟩
  · exact .inl ⟨error, rfl, Comes.bind_error hretain⟩

end Handles

/-!
# Names
-/

/-- A name that is resolved to the object of a handle is resolved as the handle is. -/
theorem comes_resolve_name (hready : s.Ready) (hcoherent : s.Coherent)
    (hlive : s.heap.isLive root.ref = true) (hown : root.context = ctx.id) {path : String}
    (hresolved : (ctx.resolveName path).Comes (answer (run depth)) s (.ok root.ref) t) {k : Ref → Crossing β}
    {outcome : Except BridgeError β} {t' : Simulation}
    (h : (ctx.resolve (.handle root) >>= k).Comes (answer (run depth)) s outcome t') :
    (ctx.resolve (.name path) >>= k).Comes (answer (run depth)) s outcome t' := by
  have hacquired : (ctx.resolve (.handle root)).Comes (answer (run depth)) s (.ok root.ref) t := by
    rw [ctx.resolve_handle hown, ctx.acquired_of_resolveName hready hcoherent hlive hresolved]
    exact Comes.bind (comes_retain_live hready.running hlive) Comes.pure
  exact Comes.bind hresolved (h.of_bind_of_comes hacquired)

end Context
end ForeignBridge
