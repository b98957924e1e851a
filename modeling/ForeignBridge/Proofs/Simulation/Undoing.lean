import ForeignBridge.Proofs.Crossing.Discretion
import ForeignBridge.Proofs.Crossing.Ownership
import ForeignBridge.Proofs.Heap.Undoing
import ForeignBridge.Proofs.Simulation.Conservation
import ForeignBridge.Proofs.Simulation.Invariants
import ForeignBridge.Proofs.Simulation.Requests

/-!
# Undoing in the simulated runtime

As long as no function is called and nothing is written, the runtime goes on from its first state:
its modules are the same, and its heap has only new objects beside those of the first one.  What is
acquired meanwhile can be given back without any harm.  When nothing is held any more, all is as it
was at first.

The runtime also says truly whether an error is pending, raises one only where it may, and does not
complain of what it wrote.  So it keeps the protocols of ownership and discretion, up to the moment
when a function is called.
-/

namespace ForeignBridge
namespace Simulation

open Attempt

variable {α : Type} {first s s' : Simulation} {base owned : Multiset Ref} {written : Bool}
  {prefixes : List String}

/-- The modules are the same, and the heap goes on from the first one. -/
structure Intact (first s : Simulation) : Prop where
  modules : s.modules = first.modules
  goesOn : first.heap.GoesOn s.heap

theorem Intact.refl (s : Simulation) : Intact s s := ⟨rfl, Heap.GoesOn.refl s.heap⟩

/-- All objects and modules are as they were, and no error is pending. -/
structure Undone (first s : Simulation) : Prop where
  objects : ∀ ref, s.heap.slot? ref = first.heap.slot? ref
  modules : s.modules = first.modules
  calm : s.pending = none

/-- When nothing is held any more than at first, all objects are as they were. -/
theorem Intact.undone (h : Intact first s) (hfirst : first.Sound base) (hs : s.Sound base)
    (hcalm : s.pending = none) : Undone first s := by
  have hbalanced := hs.balanced
  unfold roots at hbalanced
  rw [h.modules] at hbalanced
  exact ⟨h.goesOn.undone hfirst.balanced hbalanced, h.modules, hcalm⟩

/-- What is held beyond what was held at first can be given back. -/
theorem Intact.release (h : Intact first s) (hfirst : first.Sound base) {ref : Ref}
    (hs : s.Sound ({ref} + (owned + base))) :
    Intact first { s with heap := (s.heap.release ref).heap } := by
  have hbalanced := hs.balanced
  have hroots : s.roots + ({ref} + (owned + base)) =
      (([ref] : List Ref) : Multiset Ref) + (owned + (first.roots + base)) := by
    unfold roots
    rw [h.modules, Multiset.coe_singleton]
    abel
  rw [hroots] at hbalanced
  exact ⟨h.modules, h.goesOn.releaseAll hfirst.balanced hbalanced⟩

/-!
# Reading
-/

/-- What reading makes of a state: an error may be pending after it. -/
structure Read (first : Simulation) (written : Bool) (s s' : Simulation) : Prop where
  phase : s'.phase = s.phase
  called : s'.called = s.called
  pending : s.pending.isSome = true → s'.pending.isSome = true
  intact : written = false → Intact first s'

theorem Read.refl (h : written = false → Intact first s) : Read first written s s :=
  ⟨rfl, rfl, fun hpending => hpending, h⟩

theorem mild_read (first : Simulation) (written : Bool) (s : Simulation) :
    Mild (Read first written s) fun _ => True where
  misuse _ _ := trivial
  gate _ _ _ _ := ⟨trivial, trivial⟩
  retain _ _ _ hread hretain :=
    ⟨hread.phase, hread.called, hread.pending, fun hw =>
      ⟨(hread.intact hw).modules, (hread.intact hw).goesOn.retain hretain⟩⟩
  allocate _ _ hread _ hchildren :=
    ⟨hread.phase, hread.called, hread.pending, fun hw =>
      ⟨(hread.intact hw).modules, (hread.intact hw).goesOn.allocate hchildren⟩⟩
  report _ _ hread :=
    ⟨hread.phase, hread.called, fun _ => rfl, fun hw =>
      ⟨(hread.intact hw).modules, (hread.intact hw).goesOn⟩⟩

/-- A reference that is held is given back without a panic. -/
theorem outcome_release {ref : Ref} {held : Multiset Ref} (hs : s.Sound ({ref} + held)) :
    (release ref).outcome s = (.ok (), { s with heap := (s.heap.release ref).heap }) := by
  have hbalanced := hs.balanced
  rw [add_left_comm, ← Multiset.coe_singleton] at hbalanced
  exact outcome_release_of_dead hbalanced.releaseAll.1

theorem returns_release_eq (ref : Ref) :
    (release ref).Returns s fun _ s' => s' = { s with heap := (s.heap.release ref).heap } := by
  unfold release
  rw [returns_bind, returns_get, returns_bind, returns_set]
  cases (s.heap.release ref).dead with
  | some dead => exact returns_throw
  | none => rfl

theorem returns_release_read {before : Simulation} (hfirst : first.Sound base) {ref : Ref}
    (hs : s.Sound ({ref} + (owned + base))) (hread : Read first written before s) :
    (release ref).Returns s fun _ s' => Read first written before s' := by
  refine returns_mono (fun _ s' h => ?_) (returns_release_eq ref)
  rw [h]
  exact ⟨hread.phase, hread.called, hread.pending, fun hw => (hread.intact hw).release hfirst hs⟩

theorem returns_displayType (ref : Ref) : (displayType ref).Returns s fun _ s' => s' = s := by
  unfold displayType
  rw [returns_bind]
  apply returns_access
  intro object _
  cases object.class? with
  | none => rfl
  | some cls =>
      dsimp only
      rw [returns_bind]
      apply returns_access
      intro found _
      cases found with
      | _ => rfl

theorem returns_failWith (kind message : String) (sentinel : α) :
    (failWith kind message sentinel).Returns s fun answer s' =>
      answer = sentinel ∧ s' = { s with pending := some ⟨kind, message⟩ } := ⟨rfl, rfl⟩

/-- A failure is answered with the sentinel, and reads only. -/
theorem returns_failWith_read {before : Simulation} (kind message : String) (sentinel : α)
    (hread : Read first written before s) :
    (failWith kind message sentinel).Returns s fun answer s' =>
      answer = sentinel ∧ Read first written before s' := by
  refine returns_mono (fun answer s' h => ?_) (returns_failWith kind message sentinel)
  rw [h.2]
  exact ⟨h.1, (mild_read first written before).report s _ hread⟩

theorem returns_complaint_read {before : Simulation} (ref : Ref) (kind : String)
    (message : String → String) (sentinel : α) (hread : Read first written before s) :
    (displayType ref >>= fun type => failWith kind (message type) sentinel).Returns s
      fun answer s' => answer = sentinel ∧ Read first written before s' := by
  rw [returns_bind]
  refine returns_mono (fun type s' h => ?_) (returns_displayType ref)
  rw [h]
  exact returns_failWith_read kind (message type) sentinel hread

/-!
# Effects of requests
-/

/-- What a request makes of a state if no function is called for it. -/
structure Effect (first : Simulation) (written : Bool) (r : Request) (s : Simulation)
    (answer : r.Answer) (s' : Simulation) : Prop where
  phase : s'.phase = s.phase
  called : s'.called = s.called
  raises : ∃ raised : Bool, (raised = true → r.mayRaise = true ∧ r.wrote answer = false) ∧
    r.reported s.pending.isSome answer = answer ∧
    s'.pending.isSome = r.pendingAfter (s.pending.isSome || raised)
  intact : (written || r.wrote answer) = false → Intact first s'

theorem Effect.of_read {r : Request} {answer : r.Answer} (hraises : r.mayRaise = true)
    (hwrote : r.wrote answer = false) (h : Read first written s s') :
    Effect first written r s answer s' := by
  have hplain : r.reported s.pending.isSome answer = answer ∧ ∀ b, r.pendingAfter b = b := by
    cases r with
    | errorPending => cases hraises
    | takeError => cases hraises
    | _ => exact ⟨rfl, fun _ => rfl⟩
  have hpending : s'.pending.isSome = (s.pending.isSome || s'.pending.isSome) := by
    cases hbefore : s.pending.isSome with
    | true => exact h.pending hbefore
    | false => rfl
  constructor
  · exact h.phase
  · exact h.called
  · refine ⟨s'.pending.isSome, fun _ => ⟨hraises, hwrote⟩, hplain.1, ?_⟩
    rw [hplain.2]
    exact hpending
  · rw [hwrote, Bool.or_false]
    exact h.intact

variable {runScript : Script → Attempt Simulation (Option Ref)}

/-- A request that cannot fail raises no error. -/
theorem returns_quiet {r : Request} (hreading : reading r = true) (hquiet : r.mayRaise = false) :
    (serve runScript r).Returns s fun answer s' =>
      s'.pending = s.pending ∧ r.reported s.pending.isSome answer = answer := by
  have hlook : ∀ {β : Type} (ref : Ref) (f : Object → β),
      (access ref >>= fun object => pure (f object)).Returns s fun _ s' => s'.pending = s.pending := by
    intro β ref f
    rw [returns_bind]
    exact returns_access fun _ _ => rfl
  have hretain : ∀ ref, (retain ref).Returns s fun _ s' => s'.pending = s.pending := by
    intro ref
    unfold retain
    rw [returns_bind, returns_get]
    cases s.heap.retain? ref with
    | none => exact returns_throw
    | some h => rfl
  cases r with
  | kindOf ref => exact returns_mono (fun _ _ h => ⟨h, rfl⟩) (hlook ref _)
  | isCallable ref => exact returns_mono (fun _ _ h => ⟨h, rfl⟩) (hlook ref _)
  | supportsIndexing ref => exact returns_mono (fun _ _ h => ⟨h, rfl⟩) (hlook ref _)
  | boolValue ref => exact returns_mono (fun _ _ h => ⟨h, rfl⟩) (hlook ref _)
  | retain ref => exact returns_mono (fun _ _ h => ⟨h, rfl⟩) (hretain ref)
  | null =>
      show (retain nullRef >>= fun _ => pure nullRef).Returns s _
      rw [returns_bind]
      exact returns_mono (fun _ _ h => ⟨h, rfl⟩) (hretain nullRef)
  | errorPending => exact ⟨rfl, rfl⟩
  | release ref => cases hreading
  | takeError => cases hreading
  | _ => cases hquiet

theorem returns_serve_reading {r : Request} (hreading : reading r = true)
    (hs : written = false → Intact first s) :
    (serve runScript r).Returns s fun answer s' => Effect first written r s answer s' := by
  have hread : (serve runScript r).Returns s fun _ s' => Read first written s s' :=
    (upholds_serve_of_reading (mild_read first written s) hreading).returns (Read.refl hs)
  have hwrote : ∀ answer, r.wrote answer = false := by
    intro answer
    cases r with
    | setAttr _ _ _ | setItem _ _ _ => cases hreading
    | _ => rfl
  cases hraises : r.mayRaise with
  | true => exact returns_mono (fun answer _ h => Effect.of_read hraises (hwrote answer) h) hread
  | false =>
      refine returns_mono (fun answer s' h => ?_) (returns_and hread (returns_quiet hreading hraises))
      rcases h with ⟨h, hpending, hreported⟩
      have hplain : ∀ b, r.pendingAfter b = b := by
        cases r with
        | takeError => cases hreading
        | _ => exact fun _ => rfl
      constructor
      · exact h.phase
      · exact h.called
      · refine ⟨false, nofun, hreported, ?_⟩
        rw [hpending, hplain, Bool.or_false]
      · rw [hwrote answer, Bool.or_false]
        exact h.intact

theorem returns_serve_takeError (hs : written = false → Intact first s) :
    (serve runScript .takeError).Returns s fun answer s' =>
      Effect first written .takeError s answer s' := by
  constructor
  · rfl
  · rfl
  · exact ⟨false, nofun, rfl, rfl⟩
  · intro hw
    have hintact := hs (Bool.or_eq_false_iff.1 hw).1
    exact ⟨hintact.modules, hintact.goesOn⟩

theorem returns_serve_release (hfirst : first.Sound base) {ref : Ref}
    (hs : s.Sound ({ref} + (owned + base))) (hintact : written = false → Intact first s) :
    (serve runScript (.release ref)).Returns s fun answer s' =>
      Effect first written (.release ref) s answer s' := by
  refine returns_mono (fun answer s' h => ?_) (returns_release_eq ref)
  rw [h]
  constructor
  · rfl
  · rfl
  · exact ⟨false, nofun, rfl, (Bool.or_false _).symm⟩
  · intro hw
    exact (hintact (Bool.or_eq_false_iff.1 hw).1).release hfirst hs

/-!
# Writing
-/

/-- Only the heap differs. -/
def SameButHeap (s s' : Simulation) : Prop := ∃ heap, s' = { s with heap := heap }

theorem SameButHeap.trans {s'' : Simulation} (h : SameButHeap s s') (h' : SameButHeap s' s'') :
    SameButHeap s s'' := by
  rcases h with ⟨heap, rfl⟩
  rcases h' with ⟨heap', rfl⟩
  exact ⟨heap', rfl⟩

theorem returns_retain_heap (ref : Ref) : (retain ref).Returns s fun _ s' => SameButHeap s s' := by
  unfold retain
  rw [returns_bind, returns_get]
  cases s.heap.retain? ref with
  | none => exact returns_throw
  | some h => exact ⟨h, rfl⟩

/-- New content is written, and what it took the place of is given back. -/
theorem returns_replace_heap (ref : Ref) (object : Object) (previous : Option Ref) (result : α) :
    (store ref object >>= fun _ => releaseOld previous >>= fun _ => pure result).Returns s
      fun answer s' => answer = result ∧ SameButHeap s s' := by
  rw [returns_bind]
  show (releaseOld previous >>= fun _ => pure result).Returns
    { s with heap := s.heap.setContent ref object } _
  rw [returns_bind]
  cases previous with
  | none => exact ⟨rfl, _, rfl⟩
  | some old =>
      refine returns_mono (fun _ s' h => ?_) (returns_release_eq old)
      rw [h]
      exact ⟨rfl, _, rfl⟩

/-- What a request to write comes to, if it succeeds and if it does not. -/
def Written (first : Simulation) (written : Bool) (s : Simulation) (answer : Bool)
    (s' : Simulation) : Prop :=
  if answer then SameButHeap s s' else Read first written s s'

theorem Effect.of_written {r : Request} {answer : r.Answer} {ok : Bool} (hwrites : r.writes = true)
    (hrefused : r.refused answer = !ok) (h : Written first written s ok s') :
    Effect first written r s answer s' := by
  have hwrote : r.wrote answer = ok := by
    unfold Request.wrote
    rw [hwrites, hrefused, Bool.not_not, Bool.true_and]
  have hplain : r.mayRaise = true ∧ r.reported s.pending.isSome answer = answer ∧
      ∀ b, r.pendingAfter b = b := by
    cases r with
    | setAttr _ _ _ | setItem _ _ _ => exact ⟨rfl, rfl, fun _ => rfl⟩
    | _ => cases hwrites
  cases ok with
  | false => exact Effect.of_read hplain.1 hwrote h
  | true =>
      rcases h with ⟨heap, rfl⟩
      constructor
      · rfl
      · rfl
      · refine ⟨false, nofun, hplain.2.1, ?_⟩
        rw [hplain.2.2, Bool.or_false]
      · rw [hwrote, Bool.or_true]
        exact nofun

theorem returns_setAttr (ref : Ref) (name : String) (value : Ref)
    (hs : written = false → Intact first s) :
    (setAttr ref name value).Returns s fun ok s' => Written first written s ok s' := by
  unfold setAttr
  rw [returns_bind]
  apply returns_access
  intro object _
  cases object.attrs? with
  | none =>
      refine returns_mono (fun ok s' h => ?_) (returns_complaint_read ref _ _ false (Read.refl hs))
      rw [h.1]
      exact h.2
  | some attrs =>
      dsimp only
      rw [returns_bind]
      refine returns_mono (fun _ s' hretained => ?_) (returns_retain_heap value)
      rw [returns_bind]
      apply returns_access
      intro found _
      refine returns_mono (fun ok s'' h => ?_) (returns_replace_heap ref _ _ true)
      rw [h.1]
      exact hretained.trans h.2

/-- A value that does not get into its place is given back. -/
theorem returns_setItem (hfirst : first.Sound base) (ref key value : Ref)
    (hs : s.Sound (owned + base)) (hintact : written = false → Intact first s) :
    (setItem ref key value).Returns s fun ok s' => Written first written s ok s' := by
  unfold setItem
  rw [returns_bind]
  refine returns_mono (fun type s' h => ?_) (returns_displayType ref)
  rw [h, returns_bind]
  apply returns_access
  intro keyObject _
  rw [returns_bind]
  have hretain := (upholds_retain (mild_read first written s) value).returns (Read.refl hintact)
  refine returns_mono (fun _ s' h => ?_)
    (returns_and (returns_and hretain (returns_retain value hs)) (returns_retain_heap value))
  rcases h with ⟨⟨hread, hs', -⟩, hheap⟩
  have hrefused : ∀ kind message, (release value >>= fun _ => failWith kind message false).Returns
      s' fun ok s'' => Written first written s ok s'' := by
    intro kind message
    rw [returns_bind]
    refine returns_mono (fun _ s'' hread' => ?_) (returns_release_read hfirst hs' hread)
    refine returns_mono (fun ok s₃ h => ?_) (returns_failWith_read kind message false hread')
    rw [h.1]
    exact h.2
  have hreplaced : ∀ (object : Object) (previous : Option Ref),
      (store ref object >>= fun _ => releaseOld previous >>= fun _ => pure true).Returns s'
        fun ok s'' => Written first written s ok s'' := by
    intro object previous
    refine returns_mono (fun ok s'' h => ?_) (returns_replace_heap ref object previous true)
    rw [h.1]
    exact hheap.trans h.2
  dsimp only
  rw [returns_bind]
  apply returns_access
  intro object _
  cases object with
  | list items =>
      dsimp only
      cases keyObject.int?.bind (resolveIndex · items.length) with
      | none => exact hrefused _ _
      | some position => exact hreplaced _ _
  | bag attrs =>
      dsimp only
      cases keyObject.text? with
      | none => exact hrefused _ _
      | some name => exact hreplaced _ _
  | _ => exact hrefused _ _

/-!
# Calls
-/

/-- A function was called. -/
def Ran (first s : Simulation) : Prop := first.called <:+ s.called ∧ s.called ≠ first.called

theorem lasting_suffix (calls : List Ref) :
    Lasting (fun s => calls <:+ s.called) fun _ => True where
  misuse _ _ := trivial
  gate _ _ _ _ := ⟨trivial, trivial⟩
  retain _ _ _ h _ := h
  allocate _ _ h _ _ := h
  report _ _ h := h
  build _ _ h _ := h
  release _ _ h := h
  store _ _ _ _ h _ _ _ := h
  register _ _ h := h
  count _ function h := h.trans (List.suffix_cons function _)
  clear _ h := h

theorem Ran.of_suffix {function : Ref} (h : (function :: first.called) <:+ s.called) :
    Ran first s := by
  refine ⟨(List.suffix_cons function _).trans h, fun heq => ?_⟩
  have hlength := h.length_le
  rw [heq, List.length_cons] at hlength
  exact Nat.not_succ_le_self _ hlength

theorem Ran.trans (h : Ran first s) (h' : s.called <:+ s'.called) : Ran first s' := by
  refine ⟨h.1.trans h', fun heq => h.2 ?_⟩
  rw [heq] at h'
  exact h'.eq_of_length_le h.1.length_le

section Calls

variable (hrun : ∀ calls script, (runScript script).Upholds (fun s => calls <:+ s.called)
  fun _ => True)

include hrun

theorem returns_callFunction (function : Ref) (body : Nat → List Ref → Script)
    (arguments : List Ref) :
    (callFunction runScript function body arguments).Returns s fun _ s' =>
      (function :: s.called) <:+ s'.called := by
  unfold callFunction
  rw [returns_bind, returns_modify, returns_bind, returns_get]
  exact (hrun _ _).returns (List.suffix_refl _)

/-- What follows the call of a function does not undo that it was called. -/
theorem returns_call_bind {function : Ref} {body : Nat → List Ref → Script} {arguments : List Ref}
    {f : Option Ref → Attempt Simulation (Option Ref)}
    (hf : ∀ result, (f result).Upholds (fun s' => (function :: s.called) <:+ s'.called) fun _ => True) :
    (callFunction runScript function body arguments >>= f).Returns s fun _ s' => Ran s s' := by
  rw [returns_bind]
  refine returns_mono (fun result s' h => ?_) (returns_callFunction hrun function body arguments)
  exact returns_mono (fun _ _ hran => Ran.of_suffix hran) ((hf result).returns h)

theorem returns_instantiate (hfirst : first.Sound base) (cls : Ref) (name : String)
    (attrs : Table Ref) (arguments : List Ref) (hs : s.Sound (owned + base))
    (hintact : written = false → Intact first s) :
    (instantiate runScript cls name attrs arguments).Returns s fun _ s' =>
      Ran s s' ∨ Read first written s s' := by
  unfold instantiate
  rw [returns_bind]
  have hlook := (upholds_initialiserOf (mild_read first written s) attrs).returns
    (Read.refl hintact)
  refine returns_mono (fun initialiser s' h => ?_) (returns_and hlook (returns_initialiserOf hs))
  rcases h with ⟨hread, hs', -⟩
  rw [returns_bind]
  have hretain := (upholds_retain (mild_read first written s) cls).returns hread
  refine returns_mono (fun _ s' h => ?_) (returns_and hretain (returns_retain cls hs'))
  rcases h with ⟨hread, hs', -⟩
  have hcls : cls.id < s'.heap.slots.size := by
    have hheld : cls ∈ s'.heap.references + (s'.roots + ({cls} + (owned + base))) :=
      Multiset.mem_add.2 (.inr (Multiset.mem_add.2 (.inr (Multiset.mem_add.2
        (.inl (Multiset.mem_singleton_self cls))))))
    rcases hs'.balanced.live hheld with ⟨slot, hslot⟩
    have hget : s'.heap.get? cls = some slot.content := by
      unfold Heap.get?
      rw [hslot]
      rfl
    exact Heap.id_lt_size hget
  have hallocate : (allocate (.instanceOf cls .empty)).Returns s' fun _ s'' =>
      Read first written s s'' := by
    apply (mild_read first written s).allocate s' (.instanceOf cls .empty) hread trivial
    intro child hchild
    rw [List.mem_singleton.1 hchild]
    exact hcls
  have hinstance : Object.Honest (.instanceOf cls .empty) := trivial
  rw [returns_bind]
  refine returns_mono (fun object s' h => ?_)
    (returns_and hallocate (keeps_allocate _ hinstance s' (owned + base) hs'))
  rcases h with ⟨hread, hs'⟩
  cases initialiser with
  | none =>
      dsimp only
      split
      · exact .inr hread
      · rw [returns_bind]
        refine returns_mono (fun _ s' hread => ?_) (returns_release_read hfirst hs' hread)
        exact returns_mono (fun _ _ h => .inr h.2) (returns_failWith_read _ _ none hread)
  | some found =>
      have hcalled : s'.called = s.called := hread.called
      refine returns_mono (fun _ s'' h => .inl ?_)
        (returns_call_bind hrun (s := s') fun result => ?_)
      · unfold Ran at h ⊢
        rw [hcalled] at h
        exact h
      · cases result with
        | some result =>
            exact Upholds.bind (upholds_release (lasting_suffix _).toSteady result)
              fun _ => Upholds.pure
        | none =>
            exact Upholds.bind (upholds_release (lasting_suffix _).toSteady object)
              fun _ => Upholds.pure

theorem returns_call (hfirst : first.Sound base) (callable arguments : Ref)
    (hs : s.Sound (owned + base)) (hintact : written = false → Intact first s) :
    (call runScript callable arguments).Returns s fun _ s' =>
      Ran s s' ∨ Read first written s s' := by
  have hnot : (displayType callable >>= fun type =>
      failWith "TypeError" s!"'{type}' object is not callable" (none : Option Ref)).Returns s
      fun _ s' => Ran s s' ∨ Read first written s s' :=
    returns_mono (fun _ _ h => .inr h.2) (returns_complaint_read callable _ _ none (Read.refl hintact))
  unfold call
  dsimp only
  rw [returns_bind]
  apply returns_access
  intro sequence _
  cases sequence.items? with
  | none =>
      exact returns_mono (fun _ _ h => .inr h.2) (returns_failWith_read _ _ none (Read.refl hintact))
  | some items =>
      dsimp only
      rw [returns_bind]
      apply returns_access
      intro object _
      cases object with
      | function name body =>
          exact returns_mono (fun _ _ h => .inl (Ran.of_suffix h))
            (returns_callFunction hrun callable body items)
      | boundMethod receiver function =>
          dsimp only
          rw [returns_bind]
          apply returns_access
          intro target _
          cases target with
          | function name body =>
              exact returns_mono (fun _ _ h => .inl (Ran.of_suffix h))
                (returns_callFunction hrun function body (receiver :: items))
          | _ => exact hnot
      | classOf name attrs =>
          exact returns_instantiate hrun hfirst callable name attrs items hs hintact
      | _ => exact hnot

/-- Whatever a request makes of a state, either a function was called or it is one of the few
effects. -/
theorem returns_serve (hfirst : first.Sound base) (r : Request)
    (hs : s.Sound ((r.returned.toList : Multiset Ref) + (owned + base)))
    (hintact : written = false → Intact first s) :
    (serve runScript r).Returns s fun answer s' =>
      Ran s s' ∨ Effect first written r s answer s' := by
  cases r with
  | setAttr ref name value =>
      refine returns_mono (fun ok s' h => .inr ?_) (returns_setAttr ref name value hintact)
      exact Effect.of_written rfl rfl h
  | setItem ref key value =>
      have hheld : s.Sound (owned + base) := by
        rw [← zero_add (owned + base)]
        exact hs
      refine returns_mono (fun ok s' h => .inr ?_)
        (returns_setItem hfirst ref key value hheld hintact)
      exact Effect.of_written rfl rfl h
  | call callable arguments =>
      have hheld : s.Sound (owned + base) := by
        rw [← zero_add (owned + base)]
        exact hs
      refine returns_mono (fun answer s' h => ?_)
        (returns_call hrun hfirst callable arguments hheld hintact)
      exact h.imp_right (Effect.of_read rfl rfl)
  | release ref =>
      exact returns_mono (fun _ _ h => .inr h) (returns_serve_release hfirst hs hintact)
  | takeError => exact returns_mono (fun _ _ h => .inr h) (returns_serve_takeError hintact)
  | _ => exact returns_mono (fun _ _ h => .inr h) (returns_serve_reading rfl hintact)

end Calls

/-!
# Keeping the protocols
-/

/-- What is known of a runtime of which the host holds some references, with the conduct of the
conversation and whether anything was written. -/
structure Attends (first : Simulation) (base : Multiset Ref)
    (moment : Multiset Ref × Conduct × Bool) (s : Simulation) : Prop where
  called : s.called = first.called
  sound : s.Sound (moment.1 + base)
  pending : moment.2.1.pending = s.pending.isSome
  running : moment.1 ≠ 0 → s.phase = .running
  intact : moment.2.2 = false → Intact first s

theorem Attends.calm {moment : Multiset Ref × Conduct × Bool} (h : Attends first base moment s)
    (hpending : moment.2.1.pending = false) : s.pending = none := by
  have hsame := h.pending
  rw [hpending] at hsame
  exact Option.not_isSome_iff_eq_none.1 (by rw [← hsame]; exact nofun)

/-- Once a function was called, no more is known than that. -/
def Tracks (first : Simulation) (base : Multiset Ref) :
    Option (Multiset Ref × Conduct × Bool) → Simulation → Prop
  | some moment, s => Attends first base moment s
  | none, s => Ran first s

/-- The conversation in which a host holds what it was given and writes last. -/
def undoing (prefixes : List String) : Protocol (Option (Multiset Ref × Conduct × Bool)) :=
  (ownership.beside (discretion prefixes)).orLost

theorem upholds_suffix (calls : List Ref) (depth : Nat) (r : Request) :
    (answer (run depth) r).Upholds (fun s => calls <:+ s.called) fun _ => True :=
  upholds_answer (lasting_suffix calls) (upholds_run (lasting_suffix calls) depth) r

theorem returns_requireRunning (operation : String) :
    (requireRunning operation).Returns s fun _ s' => s' = s ∧ s.phase = .running := by
  unfold requireRunning
  rw [returns_bind, returns_get]
  cases s.phase with
  | running => exact ⟨rfl, rfl⟩
  | fresh | stopped => exact returns_throw

/-- One answer in the conversation, as long as no function was called. -/
theorem returns_answer_attends (hfirst : first.Sound base) (depth : Nat) {r : Request} {g : Conduct}
    (h : Attends first base (owned, g, written) s) (hallowed : ∀ ref ∈ r.returned, ref ∈ owned) :
    (answer (run depth) r).Returns s fun given s' => ∃ later,
      (undoing prefixes).next (some (owned, g, written)) r given later ∧
        Tracks first base later s' := by
  have hreturned : (r.returned.toList : Multiset Ref) ≤ owned := by
    cases hgone : r.returned with
    | none => exact Multiset.zero_le owned
    | some ref => exact Multiset.singleton_le.2 (hallowed ref hgone)
  have hs : s.Sound ((r.returned.toList : Multiset Ref) + (owned - r.returned.toList + base)) := by
    have hsound : s.Sound (owned + base) := h.sound
    rw [← add_assoc, add_tsub_cancel_of_le hreturned]
    exact hsound
  have hserved : (answer (run depth) r).Returns s fun given s' =>
      s.phase = .running ∧ (Ran s s' ∨ Effect first written r s given s') := by
    unfold answer
    rw [returns_bind]
    refine returns_mono (fun _ s' hrunning => ?_) (returns_requireRunning r.method)
    rw [hrunning.1]
    exact returns_mono (fun _ _ hend => ⟨hrunning.2, hend⟩)
      (returns_serve (fun calls script => upholds_run (lasting_suffix calls) depth script) hfirst r hs
        h.intact)
  have hkept := keeps_answer (runsHonestly_run depth) r s _ hs
  refine returns_mono (fun given s' hend => ?_) (returns_and hserved hkept)
  rcases hend with ⟨⟨hrunning, hend⟩, hsound⟩
  rcases hend with hran | heffect
  · refine ⟨none, fun _ h => absurd h (Option.not_mem_none _), ?_⟩
    unfold Ran at hran
    rw [h.called] at hran
    exact hran
  · rcases heffect.raises with ⟨raised, hraised, hreported, hpending⟩
    have hg : g.pending = s.pending.isSome := h.pending
    refine ⟨some ((r.acquired given : Multiset Ref) + (owned - r.returned.toList),
      g.after prefixes ⟨⟨r, given⟩, raised⟩, written || r.wrote given), ?_, ?_⟩
    · intro moment hmoment
      cases hmoment
      refine ⟨(owned, g, written), rfl, ?_, raised, hraised, ?_, rfl⟩
      · show (r.returned.toList : Multiset Ref) + _ = _
        rw [add_left_comm, add_tsub_cancel_of_le hreturned]
      · rw [← hg] at hreported
        exact hreported
    · constructor
      · exact heffect.called.trans h.called
      · rw [← add_assoc] at hsound
        exact hsound
      · show r.pendingAfter (g.pending || raised) = _
        rw [hg, hpending]
      · intro _
        exact heffect.phase.trans hrunning
      · exact heffect.intact

/-- The runtime keeps to the conversation until a function is called. -/
theorem keptBy_undoing (hfirst : first.Sound base) (depth : Nat) :
    (undoing prefixes).KeptBy (answer (run depth)) (Tracks first base) fun _ => True := by
  constructor
  · intro moment s r htracks hallowed
    cases moment with
    | some moment =>
        have hanswer : (answer (run depth) r).Returns s fun given s' => ∃ later,
            (undoing prefixes).next (some moment) r given later ∧ Tracks first base later s' :=
          returns_answer_attends hfirst depth htracks (hallowed moment rfl).1
        unfold Returns at hanswer
        rcases houtcome : (answer (run depth) r).outcome s with ⟨outcome, s'⟩
        rw [houtcome] at hanswer
        cases outcome with
        | ok given => exact hanswer
        | error panic => exact ⟨trivial, trivial⟩
    | none =>
        have hanswer := (upholds_suffix s.called depth r).returns (List.suffix_refl _)
        unfold Returns at hanswer
        rcases houtcome : (answer (run depth) r).outcome s with ⟨outcome, s'⟩
        rw [houtcome] at hanswer
        cases outcome with
        | ok given =>
            exact ⟨none, fun _ h => absurd h (Option.not_mem_none _), Ran.trans htracks hanswer⟩
        | error panic => exact ⟨trivial, trivial⟩
  · exact fun _ _ _ => trivial
  · exact fun _ _ _ => trivial

/-- At the beginning nothing is held, and nothing happened. -/
theorem tracks_first (hfirst : first.Sound base) (hcalm : first.pending = none) :
    Tracks first base (some (0, .calm, false)) first := by
  constructor
  · rfl
  · rw [zero_add]
    exact hfirst
  · rw [hcalm]
    rfl
  · exact fun h => absurd rfl h
  · exact fun _ => Intact.refl first

/-- The runtime may be left unasked for the kind of a number. -/
theorem next_numericKind (moment : Option (Multiset Ref × Conduct × Bool)) (object : Ref) :
    (undoing prefixes).next moment (.numericKind object) none moment := by
  intro later hlater
  rcases later with ⟨owned, g, written⟩
  have hconduct : g = g.after prefixes ⟨⟨.numericKind object, none⟩, false⟩ := by
    rw [Conduct.after_eq_self g (.numericKind object) none rfl rfl fun _ => rfl]
  refine ⟨(owned, g, written), hlater, rfl, false, nofun, rfl, ?_⟩
  show (g, written) = (g.after prefixes ⟨⟨.numericKind object, none⟩, false⟩, written || false)
  rw [← hconduct, Bool.or_false]

end Simulation
end ForeignBridge
