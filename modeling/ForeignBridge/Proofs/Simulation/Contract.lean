import Mathlib
import ForeignBridge.Proofs.Heap.Acquiring
import ForeignBridge.Proofs.Simulation.Undoing

/-!
# What answers promise

An answer says what became of the runtime, unless a function was called for it.  The sentinel of a
failure comes with a pending error, and nothing but that error is left of the request.  Any other
answer leaves the pending error alone, except that it can be fetched and that what is no number has
no float value.  A reference in an answer is a new one, which whoever asked owns.

This holds in every state, also in one in which an object has more or fewer owners than it counts.
-/

namespace ForeignBridge

/-- Whether an answer is the sentinel of a failure.  A number without a kind is none. -/
def Request.failed : (r : Request) → r.Answer → Bool
  | .numericKind _, _ => false
  | r, answer => r.refused answer

namespace Simulation

open Attempt

variable {α : Type} {first s : Simulation} {held : Multiset Ref} {pending : Option Diagnostic}
  {ref : Ref}

/-!
# Steps
-/

/-- References were acquired, of which some are still held, and an error may have become pending. -/
def Gained (first : Simulation) (held : Multiset Ref) (pending : Option Diagnostic)
    (s : Simulation) : Prop :=
  ∃ heap, first.heap.Acquired heap held ∧ s = { first with heap := heap, pending := pending }

theorem Gained.refl (s : Simulation) : Gained s 0 s.pending s := ⟨s.heap, .refl s.heap, rfl⟩

theorem returns_retain_gained (hs : Gained first held pending s) (ref : Ref) :
    (retain ref).Returns s fun _ s' => Gained first ({ref} + held) pending s' := by
  obtain ⟨heap, hheap, rfl⟩ := hs
  unfold retain
  rw [returns_bind, returns_get]
  cases hretain : heap.retain? ref with
  | none => exact returns_throw
  | some heap' =>
      exact ⟨heap', hheap.retain hretain, rfl⟩

theorem returns_allocate_gained (object : Object)
    (hs : Gained first ((object.children : Multiset Ref) + held) pending s) :
    (allocate object).Returns s fun new s' => Gained first ({new} + held) pending s' := by
  obtain ⟨heap, hheap, rfl⟩ := hs
  exact ⟨(heap.allocate object).2, hheap.allocate, rfl⟩

theorem returns_release_gained (hs : Gained first ({ref} + held) pending s) :
    (release ref).Returns s fun _ s' => Gained first held pending s' := by
  obtain ⟨heap, hheap, rfl⟩ := hs
  refine returns_mono (fun _ s' h => ?_) (returns_release_eq ref)
  exact ⟨_, hheap.release.2, h⟩

theorem returns_failWith_gained (hs : Gained first held pending s) (kind message : String)
    (sentinel : α) :
    (failWith kind message sentinel).Returns s fun answer s' =>
      answer = sentinel ∧ Gained first held (some ⟨kind, message⟩) s' := by
  obtain ⟨heap, hheap, rfl⟩ := hs
  exact ⟨rfl, heap, hheap, rfl⟩

/-- A failure that names the type of an object. -/
theorem returns_complaint_gained (hs : Gained first held pending s) (ref : Ref) (kind : String)
    (message : String → String) (sentinel : α) :
    (displayType ref >>= fun type => failWith kind (message type) sentinel).Returns s
      fun answer s' => answer = sentinel ∧
        ∃ type, Gained first held (some ⟨kind, message type⟩) s' := by
  rw [returns_bind]
  refine returns_mono (fun type s' h => ?_) (returns_displayType ref)
  subst h
  refine returns_mono (fun answer s'' h => ?_) (returns_failWith_gained hs kind (message type) sentinel)
  exact ⟨h.1, type, h.2⟩

/-!
# Answers that may be missing
-/

/-- Either there is an answer, whose references are acquired, or there is a pending error. -/
def Grants (first : Simulation) (refs : α → List Ref) (answer : Option α) (s : Simulation) : Prop :=
  (∃ a, answer = some a ∧ Gained first (refs a) first.pending s) ∨
    answer = none ∧ ∃ d, Gained first 0 (some d) s

/-- The references in an answer that is a reference itself. -/
abbrev itself (ref : Ref) : List Ref := [ref]

theorem returns_lend_grants (ref : Ref) :
    (lend ref).Returns s fun answer s' => Grants s itself answer s' := by
  unfold lend
  rw [returns_bind]
  refine returns_mono (fun _ s' h => ?_) (returns_retain_gained (Gained.refl s) ref)
  exact .inl ⟨ref, rfl, h⟩

theorem returns_failWith_grants (refs : α → List Ref) (kind message : String) :
    (failWith kind message none).Returns s fun answer s' => Grants s refs answer s' := by
  refine returns_mono (fun answer s' h => ?_) (returns_failWith_gained (Gained.refl s) kind message none)
  exact .inr ⟨h.1, _, h.2⟩

theorem returns_complaint_grants (refs : α → List Ref) (ref : Ref) (kind : String)
    (message : String → String) :
    (displayType ref >>= fun type => failWith kind (message type) none).Returns s
      fun answer s' => Grants s refs answer s' := by
  refine returns_mono (fun answer s' h => ?_)
    (returns_complaint_gained (Gained.refl s) ref kind message none)
  exact .inr ⟨h.1, _, h.2.choose_spec⟩

theorem returns_pure_grants {refs : α → List Ref} {a : α} (hrefs : refs a = []) :
    (pure (some a) : Attempt Simulation (Option α)).Returns s
      fun answer s' => Grants s refs answer s' := by
  refine .inl ⟨a, rfl, ?_⟩
  rw [hrefs]
  exact Gained.refl s

theorem returns_intValue_grants (ref : Ref) :
    (intValue ref).Returns s fun answer s' => Grants s (fun _ => []) answer s' := by
  unfold intValue
  rw [returns_bind]
  apply returns_access
  intro object _
  cases object with
  | int _ _ | bool _ => exact returns_pure_grants rfl
  | _ => exact returns_complaint_grants _ ref _ _

theorem returns_stringBytes_grants (ref : Ref) :
    (stringBytes ref).Returns s fun answer s' => Grants s (fun _ => []) answer s' := by
  unfold stringBytes
  rw [returns_bind]
  apply returns_access
  intro object _
  cases object with
  | bytes _ | text _ => exact returns_pure_grants rfl
  | units codes =>
      dsimp only
      cases Utf16.decode? codes with
      | some text => exact returns_pure_grants rfl
      | none => exact returns_failWith_grants _ _ _
  | _ => exact returns_complaint_grants _ ref _ _

theorem returns_sequenceLength_grants (ref : Ref) :
    (sequenceLength ref).Returns s fun answer s' => Grants s (fun _ => []) answer s' := by
  unfold sequenceLength
  rw [returns_bind]
  apply returns_access
  intro object _
  cases object.items? with
  | some items => exact returns_pure_grants rfl
  | none => exact returns_complaint_grants _ ref _ _

theorem returns_sequenceItem_grants (ref : Ref) (index : Nat) :
    (sequenceItem ref index).Returns s fun answer s' => Grants s itself answer s' := by
  unfold sequenceItem
  rw [returns_bind]
  apply returns_access
  intro object _
  cases object.items?.bind (·[index]?) with
  | some item => exact returns_lend_grants item
  | none => exact returns_complaint_grants itself ref _ fun type => s!"{type} index out of range"

theorem returns_importModule_grants (name : String) :
    (importModule name).Returns s fun answer s' => Grants s itself answer s' := by
  unfold importModule
  rw [returns_bind, returns_get]
  cases s.modules.find? name with
  | some found => exact returns_lend_grants found
  | none => exact returns_failWith_grants itself _ _

theorem returns_bindMethod_grants (receiver function : Ref) :
    (retain receiver >>= fun _ => retain function >>= fun _ =>
      allocate (.boundMethod receiver function) >>= fun method => pure (some method)).Returns s
      fun answer s' => Grants s itself answer s' := by
  rw [returns_bind]
  refine returns_mono (fun _ s' h => ?_) (returns_retain_gained (Gained.refl s) receiver)
  rw [returns_bind]
  refine returns_mono (fun _ s' h => ?_) (returns_retain_gained h function)
  rw [returns_bind]
  have hboth : ({function} + ({receiver} + 0) : Multiset Ref) =
      ((Object.boundMethod receiver function).children : Multiset Ref) + 0 := by
    rw [add_left_comm]
    rfl
  rw [hboth] at h
  exact returns_mono (fun method s' h => .inl ⟨method, rfl, h⟩) (returns_allocate_gained _ h)

theorem returns_attr_eq (ref : Ref) (name : String) :
    (attr ref name).Returns s fun _ s' => s' = s := by
  unfold attr
  rw [returns_bind]
  exact returns_access fun _ _ => rfl

theorem returns_classAttr_eq (object : Object) (name : String) :
    (classAttr object name).Returns s fun _ s' => s' = s := by
  unfold classAttr
  cases object.class? with
  | some cls => exact returns_attr_eq cls name
  | none => rfl

theorem returns_getAttr_grants (ref : Ref) (name : String) :
    (getAttr ref name).Returns s fun answer s' => Grants s itself answer s' := by
  unfold getAttr
  rw [returns_bind]
  apply returns_access
  intro object _
  cases object.attrs?.bind (·.find? name) with
  | some own => exact returns_lend_grants own
  | none =>
      dsimp only
      rw [returns_bind]
      refine returns_mono (fun found s' h => ?_) (returns_classAttr_eq object name)
      subst h
      cases found with
      | some found =>
          dsimp only
          rw [returns_bind]
          apply returns_access
          intro target _
          cases target with
          | function _ _ => exact returns_bindMethod_grants ref found
          | _ => exact returns_lend_grants found
      | none =>
          exact returns_complaint_grants itself ref _
            fun type => s!"'{type}' object has no attribute '{name}'"

theorem returns_getItem_grants (ref key : Ref) :
    (getItem ref key).Returns s fun answer s' => Grants s itself answer s' := by
  unfold getItem
  rw [returns_bind]
  refine returns_mono (fun type s' h => ?_) (returns_displayType ref)
  subst h
  rw [returns_bind]
  apply returns_access
  intro keyObject _
  rw [returns_bind]
  apply returns_access
  intro object _
  cases object with
  | tuple items | list items =>
      dsimp only
      cases keyObject.int? with
      | none => exact returns_failWith_grants itself _ _
      | some index =>
          dsimp only
          cases (resolveIndex index items.length).bind (items[·]?) with
          | some item => exact returns_lend_grants item
          | none => exact returns_failWith_grants itself _ _
  | bag attrs =>
      dsimp only
      cases keyObject.text?.bind attrs.find? with
      | some found => exact returns_lend_grants found
      | none => exact returns_failWith_grants itself _ _
  | _ => exact returns_failWith_grants itself _ _

/-!
# Writing and calling
-/

/-- Either something was written, and no error is due to it, or there is a pending error. -/
def Writes (first : Simulation) (answer : Bool) (s : Simulation) : Prop :=
  answer = true ∧ SameButHeap first s ∨ answer = false ∧ ∃ d, Gained first 0 (some d) s

theorem returns_setAttr_writes (ref : Ref) (name : String) (value : Ref) :
    (setAttr ref name value).Returns s fun answer s' => Writes s answer s' := by
  unfold setAttr
  rw [returns_bind]
  apply returns_access
  intro object _
  cases object.attrs? with
  | none =>
      refine returns_mono (fun answer s' h => ?_) (returns_complaint_gained (Gained.refl s) ref
        "AttributeError" (fun type => s!"'{type}' object attribute '{name}' is read-only") false)
      exact .inr ⟨h.1, _, h.2.choose_spec⟩
  | some attrs =>
      dsimp only
      rw [returns_bind]
      refine returns_mono (fun _ s' hretained => ?_) (returns_retain_heap value)
      rw [returns_bind]
      apply returns_access
      intro found _
      refine returns_mono (fun answer s'' h => ?_) (returns_replace_heap ref _ _ true)
      exact .inl ⟨h.1, hretained.trans h.2⟩

/-- A value that does not get into its place is given back. -/
theorem returns_setItem_writes (ref key value : Ref) :
    (setItem ref key value).Returns s fun answer s' => Writes s answer s' := by
  unfold setItem
  rw [returns_bind]
  refine returns_mono (fun type s' h => ?_) (returns_displayType ref)
  subst h
  rw [returns_bind]
  apply returns_access
  intro keyObject _
  rw [returns_bind]
  refine returns_mono (fun _ s'' h => ?_)
    (returns_and (returns_retain_gained (Gained.refl s') value) (returns_retain_heap value))
  obtain ⟨hgained, hheap⟩ := h
  have hrefused : ∀ kind message, (release value >>= fun _ => failWith kind message false).Returns
      s'' fun answer s => Writes s' answer s := by
    intro kind message
    rw [returns_bind]
    refine returns_mono (fun _ s h => ?_) (returns_release_gained hgained)
    refine returns_mono (fun answer s h => ?_) (returns_failWith_gained h kind message false)
    exact .inr ⟨h.1, _, h.2⟩
  have hreplaced : ∀ (object : Object) (previous : Option Ref),
      (store ref object >>= fun _ => releaseOld previous >>= fun _ => pure true).Returns s''
        fun answer s => Writes s' answer s := by
    intro object previous
    refine returns_mono (fun answer s h => ?_) (returns_replace_heap ref object previous true)
    exact .inl ⟨h.1, hheap.trans h.2⟩
  dsimp only
  rw [returns_bind]
  apply returns_access
  intro object _
  cases object with
  | list items =>
      dsimp only
      cases keyObject.int?.bind (resolveIndex · items.length) with
      | none => exact hrefused _ _
      | some position => exact hreplaced _ _
  | bag attrs =>
      dsimp only
      cases keyObject.text? with
      | none => exact hrefused _ _
      | some name => exact hreplaced _ _
  | _ => exact hrefused _ _

theorem returns_initialiserOf_eq (attrs : Table Ref) :
    (initialiserOf attrs).Returns s fun _ s' => s' = s := by
  unfold initialiserOf
  cases attrs.find? "__init__" with
  | none => rfl
  | some ref =>
      dsimp only
      rw [returns_bind]
      apply returns_access
      intro object _
      cases object with
      | _ => rfl

section Calls

variable {runScript : Script → Attempt Simulation (Option Ref)}
  (hrun : ∀ calls script, (runScript script).Upholds (fun s => calls <:+ s.called) fun _ => True)

include hrun

/-- An instance that is refused dies again, and with it its hold on the class. -/
theorem returns_instantiate_grants (cls : Ref) (name : String) (attrs : Table Ref)
    (arguments : List Ref) :
    (instantiate runScript cls name attrs arguments).Returns s fun answer s' =>
      Ran s s' ∨ Grants s itself answer s' := by
  unfold instantiate
  rw [returns_bind]
  refine returns_mono (fun initialiser s' h => ?_) (returns_initialiserOf_eq attrs)
  subst h
  rw [returns_bind]
  refine returns_mono (fun _ s'' h => ?_) (returns_retain_gained (Gained.refl s') cls)
  rw [returns_bind]
  have howned : Gained s' (((Object.instanceOf cls .empty).children : Multiset Ref) + 0) s'.pending
      s'' := h
  refine returns_mono (fun object s'' h => ?_) (returns_allocate_gained _ howned)
  cases initialiser with
  | none =>
      dsimp only
      split
      · exact .inr (.inl ⟨object, rfl, h⟩)
      · rw [returns_bind]
        refine returns_mono (fun _ s h => ?_) (returns_release_gained h)
        refine returns_mono (fun answer s h => ?_) (returns_failWith_gained h _ _ none)
        exact .inr (.inr ⟨h.1, _, h.2⟩)
  | some found =>
      have hcalled : s''.called = s'.called := by
        obtain ⟨heap, -, rfl⟩ := h
        rfl
      refine returns_mono (fun _ s h => .inl ?_)
        (returns_call_bind hrun (s := s'') fun result => ?_)
      · unfold Ran at h ⊢
        rwa [hcalled] at h
      · cases result with
        | some result =>
            exact Upholds.bind (upholds_release (lasting_suffix _).toSteady result)
              fun _ => Upholds.pure
        | none =>
            exact Upholds.bind (upholds_release (lasting_suffix _).toSteady object)
              fun _ => Upholds.pure

theorem returns_call_grants (callable arguments : Ref) :
    (call runScript callable arguments).Returns s fun answer s' =>
      Ran s s' ∨ Grants s itself answer s' := by
  have hnot : (displayType callable >>= fun type =>
      failWith "TypeError" s!"'{type}' object is not callable" (none : Option Ref)).Returns s
      fun answer s' => Ran s s' ∨ Grants s itself answer s' :=
    returns_mono (fun _ _ h => .inr h) (returns_complaint_grants itself callable _ _)
  unfold call
  dsimp only
  rw [returns_bind]
  apply returns_access
  intro sequence _
  cases sequence.items? with
  | none => exact returns_mono (fun _ _ h => .inr h) (returns_failWith_grants itself _ _)
  | some items =>
      dsimp only
      rw [returns_bind]
      apply returns_access
      intro object _
      cases object with
      | function name body =>
          exact returns_mono (fun _ _ h => .inl (Ran.of_suffix h))
            (returns_callFunction hrun callable body items)
      | boundMethod receiver function =>
          dsimp only
          rw [returns_bind]
          apply returns_access
          intro target _
          cases target with
          | function name body =>
              exact returns_mono (fun _ _ h => .inl (Ran.of_suffix h))
                (returns_callFunction hrun function body (receiver :: items))
          | _ => exact hnot
      | classOf name attrs => exact returns_instantiate_grants hrun callable name attrs items
      | _ => exact hnot

end Calls

/-!
# All requests
-/

/-- Whether a request asks for the float value of what is no number. -/
def misreads (s : Simulation) : Request → Bool
  | .floatValue ref => !((s.heap.get? ref).map Object.kind).any ForeignKind.isNumeric
  | _ => false

/-- What an answer promises of the state after it. -/
structure Promise (r : Request) (first : Simulation) (answer : r.Answer) (s : Simulation) :
    Prop where
  /-- A failure leaves an error behind, and no object and no module is different. -/
  failed : r.failed answer = true → s.pending.isSome = true ∧
    (∀ ref, s.heap.slot? ref = first.heap.slot? ref) ∧ s.modules = first.modules
  misread : first.misreads r = true → ∃ message, s.pending = some ⟨"TypeError", message⟩
  calm : r.failed answer = false → first.misreads r = false →
    s.pending = if r = .takeError then none else first.pending
  /-- The references in the answer are new ones of whoever asked. -/
  granted : ∀ ref ∈ r.acquired answer, first.heap.Acquired s.heap {ref}

namespace Promise

variable {r : Request} {answer : r.Answer}

theorem ne_takeError (hkept : r.pendingAfter true = true) : r ≠ .takeError := by
  rintro rfl
  cases hkept

theorem of_gained (hfailed : r.failed answer = false) (hreads : first.misreads r = false)
    (hkept : r.pendingAfter true = true) {refs : List Ref} (hacquired : r.acquired answer = refs)
    (hone : refs.length ≤ 1) (h : Gained first refs first.pending s) : Promise r first answer s := by
  obtain ⟨heap, hheap, rfl⟩ := h
  constructor
  · simp [hfailed]
  · simp [hreads]
  · intro _ _
    rw [if_neg (ne_takeError hkept)]
  · intro ref href
    rw [hacquired] at href
    match refs, hone with
    | [new], _ =>
        rw [List.mem_singleton.1 href]
        exact hheap

theorem of_failure (hacquired : r.acquired answer = []) (hreads : first.misreads r = false)
    (hfailed : r.failed answer = true) {d : Diagnostic} (h : Gained first 0 (some d) s) :
    Promise r first answer s := by
  obtain ⟨heap, hheap, rfl⟩ := h
  constructor
  · exact fun _ => ⟨rfl, hheap.undone, rfl⟩
  · simp [hreads]
  · simp [hfailed]
  · simp [hacquired]

theorem of_grants {refs : α → List Ref} {given : Option α}
    (hfailed : r.failed answer = given.isNone) (hreads : first.misreads r = false)
    (hkept : r.pendingAfter true = true) (hacquired : r.acquired answer = (given.map refs).getD [])
    (hone : ∀ a, (refs a).length ≤ 1) (h : Grants first refs given s) :
    Promise r first answer s := by
  rcases h with ⟨a, rfl, h⟩ | ⟨rfl, d, h⟩
  · exact of_gained hfailed hreads hkept hacquired (hone a) h
  · exact of_failure hacquired hreads hfailed h

theorem of_writes (ok : Bool) (hfailed : r.failed answer = !ok) (hreads : first.misreads r = false)
    (hkept : r.pendingAfter true = true) (hacquired : r.acquired answer = []) (h : Writes first ok s) :
    Promise r first answer s := by
  rcases h with ⟨rfl, heap, rfl⟩ | ⟨rfl, d, h⟩
  · constructor
    · simp [hfailed]
    · simp [hreads]
    · simp [ne_takeError hkept]
    · simp [hacquired]
  · exact of_failure hacquired hreads hfailed h

theorem of_eq (hfailed : r.failed answer = false) (hreads : first.misreads r = false)
    (hkept : r.pendingAfter true = true) (hacquired : r.acquired answer = []) (h : s = first) :
    Promise r first answer s := by
  subst h
  exact of_gained hfailed hreads hkept hacquired (Nat.zero_le 1) (Gained.refl s)

end Promise

/-!
# Looking
-/

theorem returns_look_eq (ref : Ref) (f : Object → α) :
    (access ref >>= fun object => pure (f object)).Returns s fun _ s' => s' = s := by
  rw [returns_bind]
  exact returns_access fun _ _ => rfl

theorem returns_typeName_eq (ref : Ref) : (typeName ref).Returns s fun _ s' => s' = s := by
  unfold typeName
  rw [returns_bind]
  apply returns_access
  intro object _
  dsimp only
  rw [returns_bind]
  apply returns_access
  intro target _
  cases target.ownName? with
  | some name => rfl
  | none => exact returns_displayType ref

theorem returns_memberNames_eq (ref : Ref) : (memberNames ref).Returns s fun _ s' => s' = s := by
  unfold memberNames
  rw [returns_bind]
  apply returns_access
  intro object _
  cases object.class? with
  | none => rfl
  | some cls => exact returns_look_eq cls _

/-- What is no number has no float value. -/
theorem returns_floatValue_promise (ref : Ref) :
    (floatValue ref).Returns s fun answer s' => Promise (.floatValue ref) s answer s' := by
  unfold floatValue
  rw [returns_bind]
  apply returns_access
  intro object hget
  have hreads : s.misreads (.floatValue ref) = !object.kind.isNumeric := by
    simp [misreads, hget]
  cases object with
  | float x kind => exact Promise.of_eq rfl hreads rfl rfl rfl
  | int value kind => exact Promise.of_eq rfl hreads rfl rfl rfl
  | bool b => exact Promise.of_eq rfl hreads rfl rfl rfl
  | _ =>
      dsimp only
      refine returns_mono (fun answer s' h => ?_) (returns_complaint_gained (Gained.refl s) ref
        "TypeError" (fun type => s!"must be real number, not {type}") (Binary.ofInt (-1)))
      obtain ⟨-, type, heap, -, rfl⟩ := h
      constructor
      · simp [Request.failed, Request.refused]
      · exact fun _ => ⟨_, rfl⟩
      · simp [hreads, Object.kind, ForeignKind.isNumeric]
      · simp [Request.acquired]

theorem returns_retainAll_gained (refs : List Ref) (hs : Gained first held pending s) :
    (refs.forM retain).Returns s fun _ s' =>
      Gained first ((refs : Multiset Ref) + held) pending s' := by
  induction refs generalizing held s with
  | nil =>
      rw [Multiset.coe_nil, zero_add]
      exact hs
  | cons ref rest ih =>
      show (retain ref >>= fun _ => rest.forM retain).Returns s _
      rw [returns_bind]
      refine returns_mono (fun _ s' h => ?_) (returns_retain_gained hs ref)
      refine returns_mono (fun _ s'' h' => ?_) (ih h)
      rwa [← Multiset.cons_coe, ← Multiset.singleton_add, add_assoc, add_left_comm]

/-- A new object that takes over what was acquired for it. -/
theorem returns_make_promise (r : Request) (given : Ref → r.Answer) (object : Object)
    (hs : Gained first (object.children : Multiset Ref) first.pending s)
    (hfailed : ∀ ref, r.failed (given ref) = false) (hreads : first.misreads r = false)
    (hkept : r.pendingAfter true = true) (hacquired : ∀ ref, r.acquired (given ref) = [ref]) :
    (allocate object >>= fun ref => pure (given ref)).Returns s
      fun answer s' => Promise r first answer s' := by
  rw [returns_bind]
  rw [← add_zero (object.children : Multiset Ref)] at hs
  refine returns_mono (fun ref s' h => ?_) (returns_allocate_gained object hs)
  exact Promise.of_gained (hfailed ref) hreads hkept (hacquired ref) (Nat.le_refl 1) h

/-!
# All requests
-/

section Serving

variable {runScript : Script → Attempt Simulation (Option Ref)}
  (hrun : ∀ calls script, (runScript script).Upholds (fun s => calls <:+ s.called) fun _ => True)

theorem acquired_itself (answer : Option Ref) :
    answer.toList = (answer.map itself).getD [] := by
  cases answer <;> rfl

include hrun

/-- A request that calls no function keeps its promise. -/
theorem returns_serve_promise (r : Request) :
    (serve runScript r).Returns s fun answer s' => Ran s s' ∨ Promise r s answer s' := by
  have hleft : ∀ {r : Request}, (serve runScript r).Returns s (Promise r s) →
      (serve runScript r).Returns s fun answer s' => Ran s s' ∨ Promise r s answer s' :=
    fun h => returns_mono (fun _ _ => .inr) h
  have hgrants : ∀ {answer : Option Ref} {s' : Simulation} {r : Request} {given : r.Answer},
      r.failed given = answer.isNone → s.misreads r = false → r.pendingAfter true = true →
      r.acquired given = answer.toList → Grants s itself answer s' → Promise r s given s' :=
    fun hfailed hreads hkept hacquired h => Promise.of_grants hfailed hreads hkept
      (hacquired.trans (acquired_itself _)) (fun _ => Nat.le_refl 1) h
  have hvalue : ∀ {α : Type} {answer : Option α} {s' : Simulation} {r : Request} {given : r.Answer},
      r.failed given = answer.isNone → s.misreads r = false → r.pendingAfter true = true →
      r.acquired given = [] → Grants s (fun _ => []) answer s' → Promise r s given s' := by
    intro α answer s' r given hfailed hreads hkept hacquired h
    have hnone : r.acquired given = (answer.map fun _ : α => ([] : List Ref)).getD [] := by
      rw [hacquired]
      cases answer <;> rfl
    exact Promise.of_grants hfailed hreads hkept hnone (fun _ => Nat.zero_le 1) h
  cases r with
  | kindOf ref | numericKind ref | isCallable ref | supportsIndexing ref | boolValue ref =>
      exact hleft (returns_mono (fun _ _ h => Promise.of_eq rfl rfl rfl rfl h)
        (returns_look_eq ref _))
  | typeName ref =>
      apply hleft
      show (typeName ref >>= fun name => pure (some name)).Returns s _
      rw [returns_bind]
      exact returns_mono (fun _ _ h => Promise.of_eq rfl rfl rfl rfl h) (returns_typeName_eq ref)
  | memberNames ref =>
      apply hleft
      show (memberNames ref >>= fun names => pure (some names)).Returns s _
      rw [returns_bind]
      exact returns_mono (fun _ _ h => Promise.of_eq rfl rfl rfl rfl h)
        (returns_memberNames_eq ref)
  | intValue ref =>
      exact hleft (returns_mono (fun _ _ h => hvalue rfl rfl rfl rfl h)
        (returns_intValue_grants ref))
  | floatValue ref => exact hleft (returns_floatValue_promise ref)
  | stringBytes ref =>
      exact hleft (returns_mono (fun _ _ h => hvalue rfl rfl rfl rfl h)
        (returns_stringBytes_grants ref))
  | sequenceLength ref =>
      exact hleft (returns_mono (fun _ _ h => hvalue rfl rfl rfl rfl h)
        (returns_sequenceLength_grants ref))
  | sequenceItem ref index =>
      exact hleft (returns_mono (fun _ _ h => hgrants rfl rfl rfl rfl h)
        (returns_sequenceItem_grants ref index))
  | null =>
      apply hleft
      show (retain nullRef >>= fun _ => pure nullRef).Returns s _
      rw [returns_bind]
      exact returns_mono (fun _ _ h => Promise.of_gained rfl rfl rfl rfl (Nat.le_refl 1) h)
        (returns_retain_gained (Gained.refl s) nullRef)
  | newScalar value =>
      have hchildren : (Object.ofScalar value).children = [] := by cases value <;> rfl
      apply hleft
      refine returns_make_promise (.newScalar value) some (.ofScalar value) ?_ (fun _ => rfl) rfl rfl
        fun _ => rfl
      rw [hchildren]
      exact Gained.refl s
  | newString text =>
      exact hleft (returns_make_promise (.newString text) some (.text text) (Gained.refl s)
        (fun _ => rfl) rfl rfl fun _ => rfl)
  | newTuple items =>
      apply hleft
      show (items.forM retain >>= fun _ => allocate (.tuple items) >>= fun ref =>
        pure (some ref)).Returns s _
      rw [returns_bind]
      refine returns_mono (fun _ s' h => ?_) (returns_retainAll_gained items (Gained.refl s))
      rw [add_zero] at h
      exact returns_make_promise (.newTuple items) some (.tuple items) h (fun _ => rfl) rfl rfl
        fun _ => rfl
  | importModule name =>
      exact hleft (returns_mono (fun _ _ h => hgrants rfl rfl rfl rfl h)
        (returns_importModule_grants name))
  | getAttr ref name =>
      exact hleft (returns_mono (fun _ _ h => hgrants rfl rfl rfl rfl h)
        (returns_getAttr_grants ref name))
  | setAttr ref name value =>
      exact hleft (returns_mono (fun _ _ h => Promise.of_writes _ rfl rfl rfl rfl h)
        (returns_setAttr_writes ref name value))
  | call callable arguments =>
      exact returns_mono (fun _ _ h => h.imp_right fun h => hgrants rfl rfl rfl rfl h)
        (returns_call_grants hrun callable arguments)
  | getItem ref key =>
      exact hleft (returns_mono (fun _ _ h => hgrants rfl rfl rfl rfl h)
        (returns_getItem_grants ref key))
  | setItem ref key value =>
      exact hleft (returns_mono (fun _ _ h => Promise.of_writes _ rfl rfl rfl rfl h)
        (returns_setItem_writes ref key value))
  | retain ref =>
      exact hleft (returns_mono
        (fun _ _ h => Promise.of_gained rfl rfl rfl rfl (Nat.le_refl 1) h)
        (returns_retain_gained (Gained.refl s) ref))
  | release ref =>
      refine hleft (returns_mono (fun _ s' h => ?_) (returns_release_eq ref))
      exact Promise.of_writes true rfl rfl rfl rfl (.inl ⟨rfl, _, h⟩)
  | errorPending => exact hleft (Promise.of_eq rfl rfl rfl rfl rfl)
  | takeError =>
      apply hleft
      constructor
      · simp [Request.failed, Request.refused]
      · simp [misreads]
      · exact fun _ _ => rfl
      · simp [Request.acquired]

end Serving

/-- Whatever a running runtime answers without calling a function, it keeps the promise of that
answer. -/
theorem promise_of_answer {depth : Nat} {r : Request} {given : r.Answer} {s s' : Simulation}
    (hanswer : (answer (run depth) r).outcome s = (.ok given, s'))
    (hcalled : s'.called = s.called) : Promise r s given s' := by
  have hserved : (answer (run depth) r).Returns s fun given s' => Ran s s' ∨ Promise r s given s' := by
    unfold answer
    rw [returns_bind]
    refine returns_mono (fun _ s' h => ?_) (returns_requireRunning r.method)
    rw [h.1]
    exact returns_serve_promise (fun calls script => upholds_run (lasting_suffix calls) depth script) r
  rcases returns_of_outcome hserved hanswer with hran | hpromise
  · exact absurd hcalled hran.2
  · exact hpromise

/-!
A class without an initialiser that is called with an argument.  The instance is made before it turns
out that nothing takes the argument.
-/

/-- A running runtime with a class and a tuple of one item. -/
def sampleClass : Simulation where
  heap := ⟨#[none, some ⟨2, .null, Nat.two_pos⟩, some ⟨1, .classOf "Point" .empty, Nat.one_pos⟩,
    some ⟨1, .tuple [nullRef], Nat.one_pos⟩]⟩
  modules := .empty
  phase := .running
  startCount := 1
  refusesStart := false
  searchPaths := []
  pending := none
  called := []
  names := .empty

theorem promise_of_sampleClass :
    ∃ s', (answer (run 1) (.call ⟨2⟩ ⟨3⟩)).outcome sampleClass = (.ok none, s') ∧
      s'.called = sampleClass.called ∧ Promise (.call ⟨2⟩ ⟨3⟩) sampleClass none s' := by
  have houtcome : (answer (run 1) (.call ⟨2⟩ ⟨3⟩)).outcome sampleClass =
      (.ok none, ((answer (run 1) (.call ⟨2⟩ ⟨3⟩)).outcome sampleClass).2) :=
    Prod.ext (by cbv) rfl
  have hcalled : ((answer (run 1) (.call ⟨2⟩ ⟨3⟩)).outcome sampleClass).2.called =
      sampleClass.called := by cbv
  exact ⟨_, houtcome, hcalled, promise_of_answer houtcome hcalled⟩

end Simulation
end ForeignBridge
