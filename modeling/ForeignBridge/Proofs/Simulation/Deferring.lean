import ForeignBridge.Proofs.Heap.Deferring
import ForeignBridge.Proofs.Simulation.Requests

/-!
# Runtimes that owe references

A runtime in which some references are still to be given back answers as one in which that is done.  No
operation tells how many owners an object has, and no script can ask, so whatever the runtime that owes
nothing returns from is returned from with the same result in the one that owes, and the same is still
owed afterwards.
-/

namespace ForeignBridge
namespace Simulation

open Attempt

variable {α β : Type} {debts more : List Ref} {s s' s'' : Simulation}

/-- A runtime which becomes another one when it is given back some references. -/
structure Owes (s' : Simulation) (debts : List Ref) (s : Simulation) : Prop where
  pays : s'.heap.Pays debts s.heap
  rest : s' = s.withHeap s'.heap

namespace Owes

theorem refl (s : Simulation) : s.Owes [] s := ⟨.nil s.heap, rfl⟩

theorem of_heap {h h' : Heap Object} (hpays : h'.Pays debts h) :
    (s.withHeap h').Owes debts (s.withHeap h) := ⟨hpays, rfl⟩

theorem trans (howes' : s''.Owes more s') (howes : s'.Owes debts s) : s''.Owes (more ++ debts) s := by
  refine ⟨howes'.pays.append howes.pays, ?_⟩
  rw [howes'.rest, howes.rest]
  rfl

/-- What is no matter of the heap. -/
theorem same (howes : s'.Owes debts s) {f : Simulation → α} (hf : ∀ s h, f (s.withHeap h) = f s) :
    f s' = f s := by
  rw [howes.rest]
  exact hf s s'.heap

/-- The same change to all but the heap. -/
theorem map (howes : s'.Owes debts s) {f : Simulation → Simulation}
    (hf : ∀ s h, f (s.withHeap h) = (f s).withHeap h) (hheap : ∀ s, (f s).heap = s.heap) :
    (f s').Owes debts (f s) := by
  constructor
  · rw [hheap, hheap]
    exact howes.pays
  · rw [hheap]
    calc f s' = f (s.withHeap s'.heap) := congrArg f howes.rest
      _ = (f s).withHeap s'.heap := hf s s'.heap

theorem eq_of_nil (howes : s'.Owes [] s) : s' = s := by
  have hheap : s.heap = s'.heap := Heap.Pays.unique howes.pays (.nil s'.heap)
  rw [howes.rest, ← hheap]
  rfl

end Owes

/-- What a computation returns, it returns as well in a runtime that owes some references. -/
def Paced (debts : List Ref) (s s' : Simulation) (attempt : Attempt Simulation α) : Prop :=
  attempt.Returns s fun a t => ∃ t', attempt.outcome s' = (.ok a, t') ∧ t'.Owes debts t

/-- A computation to which it makes no difference when references are given back. -/
def Defers (attempt : Attempt Simulation α) : Prop :=
  ∀ debts s s', s'.Owes debts s → Paced debts s s' attempt

namespace Paced

theorem bind {attempt : Attempt Simulation α} {f : α → Attempt Simulation β}
    (h : Paced debts s s' attempt)
    (hf : ∀ a t t', attempt.outcome s = (.ok a, t) → t'.Owes debts t → Paced debts t t' (f a)) :
    Paced debts s s' (attempt >>= f) := by
  unfold Paced at h ⊢
  rw [returns_bind]
  unfold Returns at h ⊢
  rcases houtcome : attempt.outcome s with ⟨outcome, t⟩
  rw [houtcome] at h
  cases outcome with
  | error panic => trivial
  | ok a =>
      rcases h with ⟨t', houtcome', howes⟩
      have hrest := hf a t t' houtcome howes
      unfold Paced Returns at hrest
      dsimp only
      rw [outcome_bind, houtcome']
      exact hrest

end Paced

namespace Defers

theorem pure {a : α} : Defers (pure a) := fun _ _ s' howes => ⟨s', rfl, howes⟩

theorem throw {panic : Panic} : Defers (throw panic : Attempt Simulation α) := fun _ _ _ _ => trivial

theorem bind {attempt : Attempt Simulation α} {f : α → Attempt Simulation β} (h : Defers attempt)
    (hf : ∀ a, Defers (f a)) : Defers (attempt >>= f) := fun debts s s' howes =>
  (h debts s s' howes).bind fun a t t' _ howes' => hf a debts t t' howes'

/-- What is done next may depend on anything but the heap. -/
theorem get_bind {f : Simulation → Attempt Simulation α} (hsame : ∀ s h, f (s.withHeap h) = f s)
    (hf : ∀ s, Defers (f s)) : Defers (get >>= f) := by
  intro debts s s' howes
  have hnext := hf s debts s s' howes
  unfold Paced at hnext ⊢
  rw [returns_bind, returns_get, outcome_get_bind, howes.same hsame]
  exact hnext

theorem modify {f : Simulation → Simulation} (hf : ∀ s h, f (s.withHeap h) = (f s).withHeap h)
    (hheap : ∀ s, (f s).heap = s.heap) : Defers (modify f) := fun _ _ s' howes =>
  ⟨f s', rfl, howes.map hf hheap⟩

end Defers

/-!
# The heap
-/

theorem defers_access (ref : Ref) : Defers (access ref) := by
  intro debts s s' howes
  unfold Paced access
  rw [returns_bind, returns_get]
  cases hget : s.heap.get? ref with
  | none => trivial
  | some object =>
      refine ⟨s', ?_, howes⟩
      rw [outcome_get_bind, howes.pays.get? hget]
      rfl

theorem defers_look (ref : Ref) (f : Object → α) :
    Defers (access ref >>= fun object => pure (f object)) :=
  Defers.bind (defers_access ref) fun _ => Defers.pure

theorem defers_retain (ref : Ref) : Defers (retain ref) := by
  intro debts s s' howes
  unfold Paced retain
  rw [returns_bind, returns_get]
  cases hretain : s.heap.retain? ref with
  | none => trivial
  | some h =>
      rcases howes.pays.retain hretain with ⟨h', hretain', hpays⟩
      refine ⟨s'.withHeap h', ?_, hpays, ?_⟩
      · rw [outcome_get_bind, hretain']
        rfl
      · rw [howes.rest]
        rfl

theorem defers_allocate (object : Object) : Defers (allocate object) := by
  intro debts s s' howes
  have hsize := howes.pays.size_eq
  refine ⟨s'.withHeap (s'.heap.allocate object).2, ?_, howes.pays.allocate object, ?_⟩
  · show (Except.ok (⟨s'.heap.slots.size⟩ : Ref), _) = (Except.ok (⟨s.heap.slots.size⟩ : Ref), _)
    rw [hsize]
    rfl
  · rw [howes.rest]
    rfl

/-- A reference is given back exactly if giving it back leads to another heap. -/
theorem outcome_release_of_pays {ref : Ref} {h : Heap Object} (hpays : s.heap.Pays [ref] h) :
    (release ref).outcome s = (.ok (), s.withHeap h) := by
  rcases Heap.pays_iff.1 hpays with ⟨hheap, hdead⟩
  rw [outcome_release_of_dead hdead]
  exact congrArg (fun h => (Except.ok (), s.withHeap h)) hheap

theorem returns_release_pays (ref : Ref) (s : Simulation) :
    (release ref).Returns s fun _ t => s.heap.Pays [ref] t.heap ∧ t = s.withHeap t.heap := by
  unfold release
  rw [returns_bind, returns_get]
  dsimp only
  rw [returns_bind, returns_set]
  cases hdead : (s.heap.release ref).dead with
  | some dead => trivial
  | none => exact ⟨Heap.pays_of_dead hdead, rfl⟩

theorem defers_release (ref : Ref) : Defers (release ref) := by
  intro debts s s' howes
  refine returns_mono (fun _ t h => ?_) (returns_release_pays ref s)
  rcases h with ⟨hpays, ht⟩
  rcases howes.pays.before hpays with ⟨h', hpays', hafter⟩
  refine ⟨s'.withHeap h', outcome_release_of_pays hpays', hafter, ?_⟩
  rw [ht, howes.rest]
  rfl

theorem defers_releaseOld (old : Option Ref) : Defers (releaseOld old) := by
  cases old with
  | some previous => exact defers_release previous
  | none => exact Defers.pure

/-- What is written to a live object. -/
theorem paced_store {ref : Ref} {old : Object} (hget : s.heap.get? ref = some old)
    (howes : s'.Owes debts s) (object : Object) : Paced debts s s' (store ref object) := by
  refine ⟨s'.withHeap (s'.heap.setContent ref object), rfl, howes.pays.setContent hget object, ?_⟩
  rw [howes.rest]
  rfl

/-- New content is written, and what it took the place of is given back. -/
theorem paced_replace {ref : Ref} {old : Object} (hget : s.heap.get? ref = some old)
    (howes : s'.Owes debts s) (object : Object) (previous : Option Ref) (result : α) :
    Paced debts s s' (store ref object >>= fun _ => releaseOld previous >>= fun _ => pure result) :=
  (paced_store hget howes object).bind fun _ t t' _ howes' =>
    Defers.bind (defers_releaseOld previous) (fun _ => Defers.pure) debts t t' howes'

theorem defers_raise (kind message : String) : Defers (raise kind message) :=
  Defers.modify (fun _ _ => rfl) fun _ => rfl

theorem defers_failWith (kind message : String) (sentinel : α) :
    Defers (failWith kind message sentinel) :=
  Defers.bind (defers_raise kind message) fun _ => Defers.pure

theorem defers_lend (ref : Ref) : Defers (lend ref) :=
  Defers.bind (defers_retain ref) fun _ => Defers.pure

theorem defers_retainAll (items : List Ref) : Defers (items.forM retain) := by
  induction items with
  | nil => exact Defers.pure
  | cons item rest ih => exact Defers.bind (defers_retain item) fun _ => ih

/-!
# Looking at objects
-/

theorem defers_displayType (ref : Ref) : Defers (displayType ref) := by
  unfold displayType
  apply Defers.bind (defers_access ref)
  intro object
  cases object.class? with
  | none => exact Defers.pure
  | some cls =>
      apply Defers.bind (defers_access cls)
      intro found
      cases found with
      | _ => exact Defers.pure

/-- A complaint that names the type of an object. -/
theorem defers_complaint (ref : Ref) (kind : String) (message : String → String) (sentinel : α) :
    Defers (displayType ref >>= fun type => failWith kind (message type) sentinel) :=
  Defers.bind (defers_displayType ref) fun type => defers_failWith kind (message type) sentinel

theorem defers_typeName (ref : Ref) : Defers (typeName ref) := by
  unfold typeName
  apply Defers.bind (defers_access ref)
  intro object
  apply Defers.bind (defers_access _)
  intro target
  cases target.ownName? with
  | some name => exact Defers.pure
  | none => exact defers_displayType ref

theorem defers_memberNames (ref : Ref) : Defers (memberNames ref) := by
  unfold memberNames
  apply Defers.bind (defers_access ref)
  intro object
  dsimp only
  cases object.class? with
  | some cls => exact defers_look cls _
  | none => exact Defers.pure

theorem defers_intValue (ref : Ref) : Defers (intValue ref) := by
  unfold intValue
  apply Defers.bind (defers_access ref)
  intro object
  cases object with
  | int value kind | bool b => exact Defers.pure
  | _ => exact defers_complaint ref _ _ _

theorem defers_floatValue (ref : Ref) : Defers (floatValue ref) := by
  unfold floatValue
  apply Defers.bind (defers_access ref)
  intro object
  cases object with
  | float x kind | int value kind | bool b => exact Defers.pure
  | _ => exact defers_complaint ref _ _ _

theorem defers_stringBytes (ref : Ref) : Defers (stringBytes ref) := by
  unfold stringBytes
  apply Defers.bind (defers_access ref)
  intro object
  cases object with
  | bytes octets | text chars => exact Defers.pure
  | units codes =>
      dsimp only
      cases Utf16.decode? codes with
      | some text => exact Defers.pure
      | none => exact defers_failWith _ _ _
  | _ => exact defers_complaint ref _ _ _

theorem defers_sequenceLength (ref : Ref) : Defers (sequenceLength ref) := by
  unfold sequenceLength
  apply Defers.bind (defers_access ref)
  intro object
  cases object.items? with
  | some items => exact Defers.pure
  | none => exact defers_complaint ref _ _ _

theorem defers_sequenceItem (ref : Ref) (index : Nat) : Defers (sequenceItem ref index) := by
  unfold sequenceItem
  apply Defers.bind (defers_access ref)
  intro object
  cases object.items?.bind (·[index]?) with
  | some item => exact defers_lend item
  | none => exact defers_complaint ref _ _ _

/-!
# Modules, attributes and items
-/

theorem defers_importModule (name : String) : Defers (importModule name) := by
  unfold importModule
  apply Defers.get_bind fun _ _ => rfl
  intro s
  cases s.modules.find? name with
  | some found => exact defers_lend found
  | none => exact defers_failWith _ _ _

/-- The registry is written after it was read, which concerns no heap. -/
theorem defers_registerModule (name : String) (entries : List (String × Ref)) :
    Defers (registerModule name entries) := by
  unfold registerModule
  apply Defers.bind (defers_allocate _)
  intro ref debts s s' howes
  have hset : ∀ t : Simulation, (get >>= fun s : Simulation => do
      set { s with modules := s.modules.insert name ref }
      releaseOld (s.modules.find? name)
      return ref : Attempt Simulation Ref).outcome t =
        (releaseOld (t.modules.find? name) >>= fun _ => pure ref).outcome
          { t with modules := t.modules.insert name ref } := fun _ => rfl
  have hmodules : s'.modules = s.modules := howes.same fun _ _ => rfl
  have hregistered : Owes { s' with modules := s'.modules.insert name ref } debts
      { s with modules := s.modules.insert name ref } :=
    howes.map (f := fun s => { s with modules := s.modules.insert name ref }) (fun _ _ => rfl)
      fun _ => rfl
  have hrelease := Defers.bind (defers_releaseOld (s.modules.find? name))
    (fun _ => Defers.pure (a := ref)) debts _ _ hregistered
  rw [← hmodules] at hrelease
  unfold Paced Returns at hrelease ⊢
  rw [hset, hset, ← hmodules]
  exact hrelease

theorem defers_initialiserOf (attrs : Table Ref) : Defers (initialiserOf attrs) := by
  unfold initialiserOf
  cases attrs.find? "__init__" with
  | none => exact Defers.pure
  | some ref =>
      apply Defers.bind (defers_access ref)
      intro object
      cases object with
      | _ => exact Defers.pure

theorem defers_classAttr (object : Object) (name : String) : Defers (classAttr object name) := by
  unfold classAttr
  cases object.class? with
  | some cls => exact defers_look cls _
  | none => exact Defers.pure

theorem defers_getAttr (ref : Ref) (name : String) : Defers (getAttr ref name) := by
  unfold getAttr
  apply Defers.bind (defers_access ref)
  intro object
  cases object.attrs?.bind (·.find? name) with
  | some own => exact defers_lend own
  | none =>
      apply Defers.bind (defers_classAttr object name)
      intro inherited
      cases inherited with
      | none => exact defers_complaint ref _ _ _
      | some found =>
          apply Defers.bind (defers_access found)
          intro target
          cases target with
          | function _ _ =>
              apply Defers.bind (defers_retain ref)
              intro _
              apply Defers.bind (defers_retain found)
              intro _
              exact Defers.bind (defers_allocate _) fun _ => Defers.pure
          | _ => exact defers_lend found

/-- An object that was just looked at is live. -/
theorem defers_access_bind {ref : Ref} {f : Object → Attempt Simulation α}
    (hf : ∀ object debts s s', s.heap.get? ref = some object → s'.Owes debts s →
      Paced debts s s' (f object)) : Defers (access ref >>= f) := by
  intro debts s s' howes
  have hlook : (access ref).Returns s fun object t => t.heap.get? ref = some object := by
    unfold access
    rw [returns_bind, returns_get]
    cases hget : s.heap.get? ref with
    | none => trivial
    | some object => exact hget
  refine (defers_access ref debts s s' howes).bind fun object t t' houtcome howes' => ?_
  have hget := returns_of_outcome hlook houtcome
  exact hf object debts t t' hget howes'

theorem defers_setAttr (ref : Ref) (name : String) (value : Ref) :
    Defers (setAttr ref name value) := by
  unfold setAttr
  apply Defers.bind (defers_access ref)
  intro object
  cases object.attrs? with
  | none => exact defers_complaint ref _ _ _
  | some attrs =>
      apply Defers.bind (defers_retain value)
      intro _
      apply defers_access_bind
      intro object debts s s' hget howes
      exact paced_replace hget howes _ _ _

theorem defers_getItem (ref key : Ref) : Defers (getItem ref key) := by
  unfold getItem
  apply Defers.bind (defers_displayType ref)
  intro type
  apply Defers.bind (defers_access key)
  intro number
  apply Defers.bind (defers_access ref)
  intro object
  cases object with
  | tuple items | list items =>
      dsimp only
      cases number.int? with
      | none => exact defers_failWith _ _ _
      | some index =>
          dsimp only
          cases (resolveIndex index items.length).bind (items[·]?) with
          | some item => exact defers_lend item
          | none => exact defers_failWith _ _ _
  | bag attrs =>
      dsimp only
      cases number.text?.bind attrs.find? with
      | some found => exact defers_lend found
      | none => exact defers_failWith _ _ _
  | _ => exact defers_failWith _ _ _

theorem defers_refuseItem (value : Ref) (kind message : String) :
    Defers (release value >>= fun _ => failWith kind message false) :=
  Defers.bind (defers_release value) fun _ => defers_failWith kind message false

theorem defers_setItem (ref key value : Ref) : Defers (setItem ref key value) := by
  unfold setItem
  apply Defers.bind (defers_displayType ref)
  intro type
  apply Defers.bind (defers_access key)
  intro number
  apply Defers.bind (defers_retain value)
  intro _
  dsimp only
  apply defers_access_bind
  intro object debts s s' hget howes
  cases object with
  | list items =>
      dsimp only
      cases number.int?.bind (resolveIndex · items.length) with
      | none => exact defers_refuseItem _ _ _ debts s s' howes
      | some position => exact paced_replace hget howes _ _ _
  | bag attrs =>
      dsimp only
      cases number.text? with
      | none => exact defers_refuseItem _ _ _ debts s s' howes
      | some name => exact paced_replace hget howes _ _ _
  | _ => exact defers_refuseItem _ _ _ debts s s' howes

/-!
# Calls
-/

section Calls

variable {runScript : Script → Attempt Simulation (Option Ref)}
  (hrun : ∀ script, Defers (runScript script))

include hrun

theorem defers_callFunction (function : Ref) (body : Nat → List Ref → Script) (arguments : List Ref) :
    Defers (callFunction runScript function body arguments) := by
  unfold callFunction
  refine Defers.bind (Defers.modify ?_ ?_) fun _ => ?_
  · exact fun _ _ => rfl
  · exact fun _ => rfl
  · exact Defers.get_bind (fun _ _ => rfl) fun s => hrun _

theorem defers_instantiate (cls : Ref) (name : String) (attrs : Table Ref) (arguments : List Ref) :
    Defers (instantiate runScript cls name attrs arguments) := by
  unfold instantiate
  apply Defers.bind (defers_initialiserOf attrs)
  intro initialiser
  apply Defers.bind (defers_retain cls)
  intro _
  apply Defers.bind (defers_allocate _)
  intro object
  cases initialiser with
  | none =>
      dsimp only
      split
      · exact Defers.pure
      · exact Defers.bind (defers_release object) fun _ => defers_failWith _ _ _
  | some found =>
      apply Defers.bind (defers_callFunction hrun found.1 found.2 (object :: arguments))
      intro result
      cases result with
      | some result => exact Defers.bind (defers_release result) fun _ => Defers.pure
      | none => exact Defers.bind (defers_release object) fun _ => Defers.pure

theorem defers_call (callable arguments : Ref) : Defers (call runScript callable arguments) := by
  have hnot : Defers (displayType callable >>= fun type =>
      failWith "TypeError" s!"'{type}' object is not callable" (none : Option Ref)) :=
    defers_complaint callable _ _ _
  unfold call
  dsimp only
  apply Defers.bind (defers_access arguments)
  intro sequence
  cases sequence.items? with
  | none => exact defers_failWith _ _ _
  | some items =>
      apply Defers.bind (defers_access callable)
      intro object
      cases object with
      | function name body => exact defers_callFunction hrun callable body items
      | boundMethod receiver function =>
          apply Defers.bind (defers_access function)
          intro target
          cases target with
          | function name body => exact defers_callFunction hrun function body (receiver :: items)
          | _ => exact hnot
      | classOf name attrs => exact defers_instantiate hrun callable name attrs items
      | _ => exact hnot

/-!
# Requests, operations and scripts
-/

theorem defers_serve (r : Request) : Defers (serve runScript r) := by
  cases r with
  | kindOf ref => exact defers_look ref _
  | numericKind ref => exact defers_look ref _
  | isCallable ref => exact defers_look ref _
  | supportsIndexing ref => exact defers_look ref _
  | boolValue ref => exact defers_look ref _
  | typeName ref => exact Defers.bind (defers_typeName ref) fun _ => Defers.pure
  | memberNames ref => exact Defers.bind (defers_memberNames ref) fun _ => Defers.pure
  | intValue ref => exact defers_intValue ref
  | floatValue ref => exact defers_floatValue ref
  | stringBytes ref => exact defers_stringBytes ref
  | sequenceLength ref => exact defers_sequenceLength ref
  | sequenceItem ref index => exact defers_sequenceItem ref index
  | null => exact Defers.bind (defers_retain nullRef) fun _ => Defers.pure
  | newScalar value => exact Defers.bind (defers_allocate _) fun _ => Defers.pure
  | newString text => exact Defers.bind (defers_allocate _) fun _ => Defers.pure
  | newTuple items =>
      exact Defers.bind (defers_retainAll items) fun _ =>
        Defers.bind (defers_allocate _) fun _ => Defers.pure
  | importModule name => exact defers_importModule name
  | getAttr ref name => exact defers_getAttr ref name
  | setAttr ref name value => exact defers_setAttr ref name value
  | call callable arguments => exact defers_call hrun callable arguments
  | getItem ref key => exact defers_getItem ref key
  | setItem ref key value => exact defers_setItem ref key value
  | retain ref => exact defers_retain ref
  | release ref => exact defers_release ref
  | errorPending => exact Defers.get_bind (fun _ _ => rfl) fun _ => Defers.pure
  | takeError =>
      intro debts s s' howes
      have hpending : s'.pending = s.pending := howes.same fun _ _ => rfl
      have hcleared : Owes { s' with pending := none } debts { s with pending := none } :=
        howes.map (f := fun s => { s with pending := none }) (fun _ _ => rfl) fun _ => rfl
      refine ⟨_, ?_, hcleared⟩
      show (Except.ok s'.pending, _) = (Except.ok s.pending, _)
      rw [hpending]

theorem defers_answer (r : Request) : Defers (answer runScript r) := by
  unfold answer
  refine Defers.bind ?_ fun _ => defers_serve hrun r
  unfold requireRunning
  apply Defers.get_bind fun _ _ => rfl
  intro s
  cases s.phase with
  | running => exact Defers.pure
  | fresh | stopped => exact Defers.throw

theorem defers_perform (op : Op) : Defers (perform runScript op) := by
  cases op with
  | request r => exact defers_answer hrun r
  | newInt _ | newFloat _ | newBool _ | newBytes _ | newText _ | newUnits _ | newTuple _
  | newList _ | newBag _ | newClass _ _ => exact defers_allocate _
  | registerModule name entries => exact defers_registerModule name entries
  | raise diagnostic => exact defers_raise diagnostic.kind diagnostic.message
  | retain ref => exact defers_retain ref
  | release ref => exact defers_release ref
  | kind ref => exact defers_look ref _
  | attr ref name => exact defers_look ref _
  | items ref => exact defers_look ref _
  | intOf ref => exact defers_look ref _
  | floatOf ref => exact defers_look ref _
  | boolOf ref => exact defers_look ref _
  | textOf ref => exact defers_look ref _
  | scalarKind ref => exact defers_look ref _
  | designated designation =>
      cases designation with
      | number id => exact Defers.pure
      | name text => exact Defers.get_bind (fun _ _ => rfl) fun _ => Defers.pure

end Calls

theorem defers_runWith {perform : (op : Op) → Attempt Simulation op.Answer}
    (hperform : ∀ op, Defers (perform op)) (script : Script) : Defers (runWith perform script) := by
  induction script with
  | done result => exact Defers.pure
  | perform op next ih => exact Defers.bind (hperform op) fun answer => ih answer
  | newFunction name body next _ ih => exact Defers.bind (defers_allocate _) fun ref => ih ref

/-- To no script it makes a difference when references are given back, by induction on the depth of the
calls. -/
theorem defers_run (depth : Nat) (script : Script) : Defers (run depth script) := by
  induction depth generalizing script with
  | zero => exact Defers.throw
  | succ depth ih => exact defers_runWith (defers_perform ih) script

/-!
# Crossings
-/

variable {depth : Nat} {t : Simulation}

/-- A program that succeeds does so as well in a runtime that owes some references. -/
theorem Owes.exists_succeeds (howes : s'.Owes debts s) {p : Program α} {a : α}
    (h : p.Succeeds (answer (run depth)) s a t) :
    ∃ t', p.Succeeds (answer (run depth)) s' a t' ∧ t'.Owes debts t := by
  induction h generalizing s' with
  | done a s => exact ⟨s', .done a s', howes⟩
  | @ask r next given a s middle t hanswer _ ih =>
      have hpaced := defers_answer (defers_run depth) r debts s s' howes
      rcases returns_of_outcome hpaced hanswer with ⟨middle', hanswer', howes'⟩
      rcases ih howes' with ⟨t', hnext, howes''⟩
      exact ⟨t', .ask hanswer' hnext, howes''⟩
  | note _ ih =>
      rcases ih howes with ⟨t', hnext, howes'⟩
      exact ⟨t', .note hnext, howes'⟩

theorem Owes.exists_comes (howes : s'.Owes debts s) {c : Crossing α}
    {outcome : Except BridgeError α} (h : c.Comes (answer (run depth)) s outcome t) :
    ∃ t', c.Comes (answer (run depth)) s' outcome t' ∧ t'.Owes debts t :=
  howes.exists_succeeds h

/-- A running runtime that owes references is given them back. -/
theorem Owes.succeeds_releaseAll (howes : s'.Owes debts s) (hrunning : s'.phase = .running) :
    (Program.releaseAll debts).Succeeds (answer (run depth)) s' () s := by
  induction debts generalizing s' with
  | nil =>
      rw [howes.eq_of_nil]
      exact .done () s
  | cons ref rest ih =>
      have hsplit : s'.heap.Pays ([ref] ++ rest) s.heap := howes.pays
      rcases hsplit.of_append with ⟨h, hfirst, hrest⟩
      have hrelease : (answer (run depth) (.release ref)).outcome s' = (.ok (), s'.withHeap h) :=
        (outcome_answer_of_running hrunning _).trans (outcome_release_of_pays hfirst)
      have howes' : (s'.withHeap h).Owes rest s := by
        refine ⟨hrest, ?_⟩
        rw [howes.rest]
        rfl
      exact .ask hrelease (ih howes' hrunning)

/-- Only a running runtime answers. -/
theorem serve_of_answer {r : Request} {given : r.Answer}
    (h : (answer (run depth) r).outcome s = (.ok given, t)) :
    s.phase = .running ∧ (serve (run depth) r).outcome s = (.ok given, t) := by
  unfold answer requireRunning at h
  rw [outcome_bind, outcome_get_bind] at h
  cases hphase : s.phase with
  | running =>
      rw [hphase] at h
      exact ⟨rfl, h⟩
  | fresh | stopped =>
      rw [hphase] at h
      cases h

theorem owes_of_release {ref : Ref} (h : (release ref).outcome s = (.ok (), t)) : s.Owes [ref] t := by
  rcases returns_of_outcome (returns_release_pays ref s) h with ⟨hpays, ht⟩
  refine ⟨hpays, ?_⟩
  rw [ht]
  rfl

/-- What is given back was owed before. -/
theorem owes_of_releaseAll
    (h : (Program.releaseAll debts).Succeeds (answer (run depth)) s () t) : s.Owes debts t := by
  induction debts generalizing s with
  | nil =>
      cases h
      exact Owes.refl _
  | cons ref rest ih =>
      cases h with
      | ask hanswer hnext => exact (owes_of_release (serve_of_answer hanswer).2).trans (ih hnext)

/-- What is acquired is owed afterwards. -/
theorem owes_of_retain {ref : Ref} (h : (retain ref).outcome s = (.ok (), t)) : t.Owes [ref] s := by
  unfold retain at h
  rw [outcome_get_bind] at h
  cases hretain : s.heap.retain? ref with
  | none =>
      rw [hretain] at h
      cases h
  | some heap =>
      rw [hretain] at h
      cases h
      exact ⟨Heap.Pays.of_retain hretain, rfl⟩

end Simulation
end ForeignBridge
