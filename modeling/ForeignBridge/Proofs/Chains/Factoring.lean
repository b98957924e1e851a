import ForeignBridge.Crossing.Entry
import ForeignBridge.Proofs.Chains.Following
import ForeignBridge.Proofs.Crossing.Origin
import ForeignBridge.Proofs.Heap.Covering
import ForeignBridge.Proofs.Simulation.Contract
import ForeignBridge.Proofs.Simulation.Deferring

/-!
# Chains in two parts

A chain may be read in two parts, the second of them from a handle of what the first one came to.  The
handle keeps the object alive that the first part led to, and with it whatever that object refers to, until
the host drops it.  So the second part meets a runtime that owes one reference, and this is all that it
does not have in common with the end of the whole chain.
-/

namespace ForeignBridge

open Simulation

variable {α : Type} {depth : Nat} {s t : Simulation} {ref : Ref}

namespace Crossing

/-- What a crossing yields it also comes to. -/
theorem Yields.of_comes {σ : Type} {answer : (r : Request) → Attempt σ r.Answer} {post : α → Prop}
    {c : Crossing α} (h : Yields post c) {s t : σ} {a : α} (hcomes : c.Comes answer s (.ok a) t) :
    post a := by
  unfold Yields Follows at h
  unfold Comes at hcomes
  generalize c.run = p at h hcomes
  generalize hresult : (Except.ok a : Except BridgeError α) = result at hcomes
  induction hcomes with
  | done result s =>
      cases hresult
      exact h
  | ask _ _ ih => exact ih (h.2 _ () trivial) hresult
  | note _ ih => exact ih h hresult

end Crossing

/-- The requests that leave a runtime as it is. -/
def Request.peeks : Request → Bool
  | kindOf _ | typeName _ | isCallable _ | supportsIndexing _ | errorPending => true
  | _ => false

namespace Simulation

theorem eq_of_peeks {r : Request} (hpeeks : r.peeks = true) {given : r.Answer}
    (h : (answer (run depth) r).outcome s = (.ok given, t)) : t = s := by
  have hserved : (serve (run depth) r).Returns s fun _ t => t = s := by
    cases r with
    | kindOf ref | isCallable ref | supportsIndexing ref => exact returns_look_eq ref _
    | typeName ref =>
        show (typeName ref >>= fun name => pure (some name)).Returns s _
        rw [Attempt.returns_bind]
        exact returns_typeName_eq ref
    | errorPending => exact rfl
    | _ => cases hpeeks
  have hsame := Attempt.returns_of_outcome hserved (serve_of_answer h).2
  exact hsame

theorem errorPending_of_answer {pending : Bool}
    (h : (answer (run depth) .errorPending).outcome s = (.ok pending, t)) :
    pending = s.pending.isSome ∧ t = s := by
  have hserved := (serve_of_answer h).2
  cases hserved
  exact ⟨rfl, rfl⟩

/-- What is asked of a runtime keeps what all that it does keeps. -/
theorem upheld_of_comes {I : Simulation → Prop} {fine : Panic → Prop} (hI : Lasting I fine)
    {c : Crossing α} {outcome : Except BridgeError α} (hs : I s)
    (h : c.Comes (answer (run depth)) s outcome t) : I t := by
  unfold Crossing.Comes at h
  generalize c.run = p at h
  induction h with
  | done result s => exact hs
  | @ask r next given result s middle t hanswer _ ih =>
      have hkept := (upholds_answer hI (upholds_run hI depth) r).returns hs
      have hmiddle := Attempt.returns_of_outcome hkept hanswer
      exact ih hmiddle
  | note _ ih => exact ih hs

/-- What is asked of a runtime neither starts nor stops it. -/
theorem phase_of_comes {c : Crossing α} {outcome : Except BridgeError α}
    (h : c.Comes (answer (run depth)) s outcome t) : t.phase = s.phase :=
  (life_eq_iff.1 (upheld_of_comes (lasting_life_of s.life) rfl h)).1

/-- What is done while a reference is owned is done as if it were not, and then it is given back. -/
theorem Owes.comes_owning (howes : t.Owes [ref] s) (hrunning : s.phase = .running) {c : Crossing α}
    {outcome : Except BridgeError α} {s' : Simulation}
    (h : c.Comes (answer (run depth)) s outcome s') :
    (Crossing.owning ref c).Comes (answer (run depth)) t outcome s' := by
  rcases howes.exists_comes h with ⟨t', ht', howes'⟩
  have hsame : t'.phase = s'.phase := howes'.same fun _ _ => rfl
  have hphase : t'.phase = .running := by
    rw [hsame, phase_of_comes h]
    exact hrunning
  exact Crossing.Comes.owningAll ht' (howes'.succeeds_releaseAll hphase)

/-- Only of what lives the kind is told. -/
theorem exists_get?_of_kindOf {kind : ForeignKind}
    (h : (answer (run depth) (.kindOf ref)).outcome s = (.ok kind, t)) :
    ∃ object, s.heap.get? ref = some object := by
  have hlook : (serve (run depth) (.kindOf ref)).Returns s fun _ _ =>
      ∃ object, s.heap.get? ref = some object := by
    show (access ref >>= fun object => pure object.kind).Returns s _
    rw [Attempt.returns_bind]
    exact returns_access fun object hget => ⟨object, hget⟩
  exact Attempt.returns_of_outcome hlook (serve_of_answer h).2

end Simulation

namespace Context

open Crossing

variable (ctx : Context) {target : Ref}

/-!
# Where a walk ends
-/

/-- A reference is checked without a trace, and no error is pending then. -/
theorem eq_of_checkRef {operation : Operation} {answered : Option Ref}
    (h : (ctx.checkRef operation answered).Comes (answer (run depth)) s (.ok ref) t) :
    t = s ∧ s.pending = none := by
  rcases h.of_bind with ⟨pending, middle, hasked, hrest⟩
  rcases errorPending_of_answer hasked.of_ask with ⟨hpending, hmiddle⟩
  rw [hpending, hmiddle] at hrest
  cases hcalm : s.pending with
  | some diagnostic =>
      rw [hcalm] at hrest
      rcases hrest.of_bind with ⟨_, _, _, hrest⟩
      rcases hrest.of_bind with ⟨_, _, _, hrest⟩
      exact absurd hrest ctx.not_fail
  | none =>
      rw [hcalm] at hrest
      cases answered with
      | none => exact absurd hrest ctx.not_fail
      | some found => exact ⟨hrest.of_pure.2, rfl⟩

theorem calm_of_checkRef {operation : Operation} {answered : Option Ref}
    (h : (ctx.checkRef operation answered).Comes (answer (run depth)) s (.ok ref) t) :
    t.pending = none := by
  rcases ctx.eq_of_checkRef h with ⟨hsame, hcalm⟩
  rw [hsame]
  exact hcalm

/-- Giving references back raises no error. -/
theorem calm_of_owningAll {refs : List Ref} {c : Crossing α} {a : α}
    (hc : ∀ t, c.Comes (answer (run depth)) s (.ok a) t → t.pending = none)
    (h : (Crossing.owningAll refs c).Comes (answer (run depth)) s (.ok a) t) : t.pending = none := by
  rcases h.of_owningAll with ⟨middle, hbody, hrelease⟩
  have hsame : middle.pending = t.pending := (owes_of_releaseAll hrelease).same fun _ _ => rfl
  rw [← hsame]
  exact hc middle hbody

/-- What is asked for a reference ends with a check of it. -/
theorem calm_of_checked {event : Event} {c : Crossing (Option Ref)} {operation : Operation}
    (h : (Crossing.note event >>= fun _ => c >>= ctx.checkRef operation).Comes (answer (run depth)) s
      (.ok ref) t) : t.pending = none := by
  rcases h.of_bind with ⟨_, _, _, hrest⟩
  rcases hrest.of_bind with ⟨_, _, _, hrest⟩
  exact ctx.calm_of_checkRef hrest

theorem calm_of_getAttr {name : String}
    (h : (ctx.getAttr target name).Comes (answer (run depth)) s (.ok ref) t) : t.pending = none :=
  ctx.calm_of_checked h

theorem calm_of_callWith {arguments : List Value}
    (h : (ctx.callWith target arguments).Comes (answer (run depth)) s (.ok ref) t) :
    t.pending = none := by
  rcases h.of_bind with ⟨tuple, _, _, hrest⟩
  exact calm_of_owningAll (fun _ => ctx.calm_of_checked) hrest

theorem calm_of_getItem {arguments : List Value}
    (h : (ctx.getItem target arguments).Comes (answer (run depth)) s (.ok ref) t) :
    t.pending = none := by
  rcases h.of_bind with ⟨key, _, _, hrest⟩
  exact calm_of_owningAll (fun _ => ctx.calm_of_checked) hrest

/-- Every link ends with a reference that was checked. -/
theorem calm_of_step {link : Accessor}
    (h : (ctx.step target link).Comes (answer (run depth)) s (.ok ref) t) : t.pending = none := by
  have hitem : ∀ {arguments : List Value} {indexable : Bool} {s : Simulation}
      {fault : ForeignKind → Unsupported},
      (if indexable then ctx.getItem target arguments else refuseKind target fault).Comes
        (answer (run depth)) s (.ok ref) t → t.pending = none := by
    intro arguments indexable s fault h
    cases indexable with
    | true => exact ctx.calm_of_getItem h
    | false => exact absurd h not_refuseKind
  cases link with
  | field name => exact ctx.calm_of_getAttr h
  | call arguments =>
      rcases h.of_bind with ⟨callable, _, _, hrest⟩
      cases callable with
      | true => exact ctx.calm_of_callWith hrest
      | false =>
          rcases hrest.of_bind with ⟨indexable, _, _, hrest⟩
          exact hitem hrest
  | index arguments =>
      rcases h.of_bind with ⟨indexable, _, _, hrest⟩
      exact hitem hrest

theorem calm_of_walk {chain : List Accessor} (hchain : chain ≠ [])
    (h : (ctx.walk target chain).Comes (answer (run depth)) s (.ok ref) t) : t.pending = none := by
  induction chain generalizing target s with
  | nil => exact absurd rfl hchain
  | cons link rest ih =>
      rcases h.of_bind with ⟨next, middle, hstep, hrest⟩
      cases rest with
      | nil =>
          rw [hrest.of_pure.2]
          exact calm_of_owningAll (fun t => ctx.calm_of_step) hstep
      | cons link rest => exact ih nofun hrest

theorem walk_append (target : Ref) (chain links : List Accessor) :
    ctx.walk target (chain ++ links) = ctx.walk target chain >>= fun next => ctx.walk next links := by
  induction chain generalizing target with
  | nil => rw [List.nil_append, walk, pure_bind]
  | cons link rest ih =>
      rw [List.cons_append, walk, walk, bind_assoc]
      exact congrArg _ (funext ih)

/-!
# Handles of what is packed
-/

/-- Only objects that are no sequences, numbers or texts become handles. -/
theorem yields_sequenceToHost_sealed {convert : Ref → Crossing Value} (sequence : Ref) :
    Yields (fun v => v.handle? = none) (ctx.sequenceToHost convert sequence) := by
  unfold sequenceToHost
  apply Yields.owningAll
  apply Yields.after
  intro items
  have hcell : Yields (fun v => v.handle? = none)
      (convertEach convert items >>= fun values => pure (Value.cell values)) :=
    Yields.after fun _ => Yields.pure rfl
  cases ctx.settings.matrixAutoconversion with
  | false => exact hcell
  | true =>
      cases items with
      | nil => exact Yields.pure rfl
      | cons item rest =>
          apply Yields.after
          intro matrix?
          cases matrix? with
          | some m => exact Yields.after fun _ => Yields.pure rfl
          | none => exact hcell

/-- What is packed as a handle is left as it is. -/
theorem packed_of_wrap {h : Handle} (hcalm : s.pending = none)
    (hwrap : (ctx.wrap ref).Comes (answer (run depth)) s (.ok h) t) :
    t = s ∧ h.context = ctx.id ∧ h.ref = ref := by
  rcases hwrap.of_bind with ⟨name, s₁, hname, hrest⟩
  have hs₁ := eq_of_peeks rfl hname.of_ask
  rcases hrest.of_bind with ⟨cleared, s₂, hclear, hrest⟩
  rcases hclear.of_bind with ⟨pending, s₃, hasked, hclear⟩
  rcases errorPending_of_answer hasked.of_ask with ⟨hpending, hs₃⟩
  rw [hpending, hs₃, hs₁, hcalm] at hclear
  rcases hrest.of_pure with ⟨hhandle, ht⟩
  refine ⟨ht.trans hclear.of_pure.2, ?_, ?_⟩
  · rw [hhandle]
  · rw [hhandle]

theorem packed_of_toHost {h : Handle} (hcalm : s.pending = none)
    (hpacked : (ctx.toHost ref).Comes (answer (run depth)) s (.ok (.foreign h)) t) :
    t = s ∧ h.context = ctx.id ∧ h.ref = ref ∧ ∃ object, s.heap.get? ref = some object := by
  rcases hpacked.of_bind with ⟨kind, middle, hkind, hrest⟩
  have hmiddle := eq_of_peeks rfl hkind.of_ask
  have hlive := exists_get?_of_kindOf hkind.of_ask
  rw [hmiddle] at hrest
  -- A handle is not what comes of giving the object back.
  have hsealed : ∀ {c : Crossing Value}, Yields (fun v => v.handle? = none) c →
      ¬ c.Comes (answer (run depth)) s (.ok (.foreign h)) t := by
    intro c hc hcomes
    cases hc.of_comes hcomes
  have hwrapped : (ctx.wrap ref >>= fun h => pure (Value.foreign h)).Comes (answer (run depth)) s
      (.ok (.foreign h)) t → (ctx.wrap ref).Comes (answer (run depth)) s (.ok h) t := by
    intro hcomes
    rcases hcomes.of_bind with ⟨found, last, hwrap, hpure⟩
    rcases hpure.of_pure with ⟨hsame, hlast⟩
    cases hsame
    rw [hlast]
    exact hwrap
  cases kind with
  | sequence => exact absurd hrest (hsealed (ctx.yields_sequenceToHost_sealed ref))
  | null => exact absurd hrest (hsealed (Yields.owningAll (Yields.pure rfl)))
  | bool | integer | float | bytes | unicode =>
      exact absurd hrest (hsealed (Yields.owningAll (Yields.after fun _ => Yields.pure rfl)))
  | attributeBag | object =>
      rcases ctx.packed_of_wrap hcalm (hwrapped hrest) with ⟨ht, hcontext, href⟩
      exact ⟨ht, hcontext, href, hlive⟩

/-!
# Reading in two parts
-/

theorem serve_of_own {β : Type} {h : Handle} (hown : h.context = ctx.id) (rest : Crossing β) :
    (ctx.requireOwn h >>= fun _ => rest) = rest := by
  unfold requireOwn
  rw [if_pos hown, pure_bind]

/-- A chain that is not empty is read from the object of its root. -/
theorem serve_read {root : Handle} (hown : root.context = ctx.id) {chain : List Accessor}
    (hchain : chain ≠ []) :
    ctx.serve (.read root chain) = Crossing.ask (.retain root.ref) >>= fun _ =>
      ctx.walk root.ref chain >>= fun last => ctx.toHost last >>= fun v => pure (.value v) := by
  show (ctx.requireOwn root >>= fun _ => ctx.readChain root chain >>= fun v => pure (Reply.value v)) = _
  rw [ctx.serve_of_own hown]
  cases chain with
  | nil => exact absurd rfl hchain
  | cons link rest =>
      unfold readChain acquire
      simp only [bind_assoc, pure_bind]

/-- A handle of another bridge is refused. -/
theorem own_of_read {root : Handle} {chain : List Accessor} {reply : Reply}
    (h : (ctx.serve (.read root chain)).Comes (answer (run depth)) s (.ok reply) t) :
    root.context = ctx.id := by
  rcases h.of_bind with ⟨_, _, hown, _⟩
  exact (ctx.yields_requireOwn root).of_comes hown

/-- A reference to an object that lives in a running runtime is acquired, and owed from then on. -/
theorem exists_retain_owes {object : Simulation.Object} (hrunning : s.phase = .running)
    (hget : s.heap.get? ref = some object) :
    ∃ s', (Crossing.ask (.retain ref)).Comes (answer (run depth)) s (.ok ()) s' ∧ s'.Owes [ref] s := by
  rcases Heap.exists_retain? hget with ⟨heap, hretain⟩
  have houtcome : (retain ref).outcome (s.withHeap s.heap) = (.ok (), s.withHeap heap) :=
    outcome_retain hretain
  have hanswer : (answer (run depth) (.retain ref)).outcome s = (.ok (), s.withHeap heap) :=
    (outcome_answer_of_running hrunning (.retain ref)).trans houtcome
  exact ⟨_, Comes.ask hanswer, owes_of_retain houtcome⟩

/-- A chain that comes to a handle ends, without an error, at the object of the handle. -/
theorem reached_of_read {root h : Handle} {chain : List Accessor} (hchain : chain ≠ [])
    (hread : (ctx.serve (.read root chain)).Comes (answer (run depth)) s
      (.ok (.value (.foreign h))) t) :
    h.context = ctx.id ∧ t.phase = .running ∧ (∃ object, t.heap.get? h.ref = some object) ∧
      ∃ start, (Crossing.ask (.retain root.ref)).Comes (answer (run depth)) s (.ok ()) start ∧
        (ctx.walk root.ref chain).Comes (answer (run depth)) start (.ok h.ref) t := by
  rw [ctx.serve_read (ctx.own_of_read hread) hchain] at hread
  rcases hread.of_bind with ⟨_, start, hretain, hread⟩
  rcases hread.of_bind with ⟨last, reached, hwalk, hread⟩
  rcases hread.of_bind with ⟨v, packed, hpacked, hpure⟩
  rcases hpure.of_pure with ⟨hv, ht⟩
  cases hv
  rcases ctx.packed_of_toHost (ctx.calm_of_walk hchain hwalk) hpacked with
    ⟨hsame, hcontext, href, hlive⟩
  rcases hpacked.of_bind with ⟨_, _, hkind, _⟩
  rw [ht, hsame, href]
  exact ⟨hcontext, (serve_of_answer hkind.of_ask).1, hlive, start, hretain, hwalk⟩

/-- Where the first part of a chain comes to a handle, the second part can be read from it: it comes to
what the whole chain comes to, and leaves a runtime that owes the reference of the handle. -/
theorem comes_second_part {root h : Handle} {p q : List Accessor} (hp : p ≠ []) (hq : q ≠ [])
    {middle : Simulation} {outcome : Except BridgeError Reply}
    (hfirst : (ctx.serve (.read root p)).Comes (answer (run depth)) s
      (.ok (.value (.foreign h))) middle)
    (hwhole : (ctx.serve (.read root (p ++ q))).Comes (answer (run depth)) s outcome t) :
    ∃ t', (ctx.serve (.read h q)).Comes (answer (run depth)) middle outcome t' ∧
      t'.Owes [h.ref] t := by
  rcases ctx.reached_of_read hp hfirst with
    ⟨hcontext, hrunning, ⟨object, hget⟩, start, hretain, hwalk⟩
  rw [ctx.serve_read (ctx.own_of_read hfirst) (List.append_ne_nil_of_left_ne_nil hp q)] at hwhole
  rw [ctx.serve_read hcontext hq]
  -- The whole chain goes through the object that the first part came to.
  have hrest : (ctx.walk h.ref q >>= fun last => ctx.toHost last >>= fun v =>
      pure (Reply.value v)).Comes (answer (run depth)) middle outcome t := by
    simp only [walk_append, bind_assoc] at hwhole
    exact (hwhole.of_bind_of_comes hretain).of_bind_of_comes hwalk
  rcases exists_retain_owes hrunning hget with ⟨held, hheld, howes⟩
  rcases howes.exists_comes hrest with ⟨t', ht', howes'⟩
  exact ⟨t', Comes.bind hheld ht', howes'⟩

end Context
end ForeignBridge
