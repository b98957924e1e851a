import ForeignBridge.Proofs.Heap.Lasting
import ForeignBridge.Proofs.Simulation.Returns
import ForeignBridge.Simulation.Runtime

/-!
# Invariants of the simulated runtime

All that the simulated runtime does is made of few steps: a reference is acquired or given back, an
object is made or written, a module is registered, a call is counted, an error is raised or fetched.
An invariant that these steps keep is kept by every operation and every script, however it ends.  An
invariant that only some of the steps keep is still kept by the requests that read.
-/

namespace ForeignBridge
namespace Attempt

variable {σ α β : Type}

/-- A computation ends as wanted, with a result or with a panic. -/
def Meets (attempt : Attempt σ α) (s : σ) (ok : α → σ → Prop) (failed : Panic → σ → Prop) : Prop :=
  match attempt.outcome s with
  | (.ok a, s') => ok a s'
  | (.error panic, s') => failed panic s'

variable {s : σ} {failed failed' : Panic → σ → Prop}

theorem meets_get {ok : σ → σ → Prop} : (get : Attempt σ σ).Meets s ok failed ↔ ok s s := Iff.rfl

theorem meets_set {s' : σ} {ok : PUnit → σ → Prop} :
    (set s' : Attempt σ PUnit).Meets s ok failed ↔ ok ⟨⟩ s' := Iff.rfl

theorem meets_bind {attempt : Attempt σ α} {f : α → Attempt σ β} {ok : β → σ → Prop} :
    (attempt >>= f).Meets s ok failed ↔
      attempt.Meets s (fun a s' => (f a).Meets s' ok failed) failed := by
  unfold Meets
  rw [outcome_bind]
  rcases attempt.outcome s with ⟨outcome, s'⟩
  cases outcome with
  | ok a => exact Iff.rfl
  | error panic => exact Iff.rfl

theorem meets_mono {attempt : Attempt σ α} {ok ok' : α → σ → Prop}
    (hok : ∀ a s', ok a s' → ok' a s') (hfailed : ∀ panic s', failed panic s' → failed' panic s')
    (h : attempt.Meets s ok failed) : attempt.Meets s ok' failed' := by
  unfold Meets at h ⊢
  rcases houtcome : attempt.outcome s with ⟨outcome, s'⟩
  rw [houtcome] at h
  cases outcome with
  | ok a => exact hok a s' h
  | error panic => exact hfailed panic s' h

/-- A computation keeps an invariant however it ends, and panics only in ways that are expected. -/
def Upholds (I : σ → Prop) (fine : Panic → Prop) (attempt : Attempt σ α) : Prop :=
  ∀ s, I s → attempt.Meets s (fun _ s' => I s') fun panic s' => fine panic ∧ I s'

namespace Upholds

variable {I : σ → Prop} {fine : Panic → Prop}

theorem pure {a : α} : Upholds I fine (pure a) := fun _ hs => hs

theorem throw {panic : Panic} (h : fine panic) : Upholds I fine (throw panic : Attempt σ α) :=
  fun _ hs => ⟨h, hs⟩

theorem bind {attempt : Attempt σ α} {f : α → Attempt σ β} (h : Upholds I fine attempt)
    (hf : ∀ a, Upholds I fine (f a)) : Upholds I fine (attempt >>= f) := by
  intro s hs
  rw [meets_bind]
  exact meets_mono (fun a s' hs' => hf a s' hs') (fun _ _ h => h) (h s hs)

theorem get_bind {f : σ → Attempt σ β} (hf : ∀ s, I s → (f s).Meets s (fun _ s' => I s')
    fun panic s' => fine panic ∧ I s') : Upholds I fine (get >>= f) := by
  intro s hs
  rw [meets_bind]
  exact hf s hs

theorem modify {f : σ → σ} (hf : ∀ s, I s → I (f s)) : Upholds I fine (modify f) :=
  fun s hs => hf s hs

theorem returns {attempt : Attempt σ α} (h : Upholds I fine attempt) {s : σ} (hs : I s) :
    attempt.Returns s fun _ s' => I s' := by
  have hmeets := h s hs
  unfold Meets at hmeets
  unfold Returns
  rcases houtcome : attempt.outcome s with ⟨outcome, s'⟩
  rw [houtcome] at hmeets
  cases outcome with
  | ok a => exact hmeets
  | error panic => trivial

end Upholds

/-- What holds however a computation ends holds of the state in which it ends. -/
theorem meets_iff_state {attempt : Attempt σ α} {P : σ → Prop} :
    attempt.Meets s (fun _ s' => P s') (fun _ s' => True ∧ P s') ↔ P (attempt.outcome s).2 := by
  unfold Meets
  rcases attempt.outcome s with ⟨outcome, s'⟩
  cases outcome with
  | ok a => exact Iff.rfl
  | error panic => exact ⟨And.right, fun h => ⟨trivial, h⟩⟩

end Attempt

/-- Whether a panic says that a runtime was used outside its life. -/
def Panic.isGate : Panic → Bool
  | notStarted _ | stopped _ => true
  | _ => false

theorem Heap.size_retain? {α : Type} {h h' : Heap α} {ref : Ref} (hretain : h.retain? ref = some h') :
    ref.id < h.slots.size ∧ h'.slots.size = h.slots.size := by
  rcases Option.map_eq_some_iff.1 hretain with ⟨slot, hslot, hnew⟩
  have hget : h.get? ref = some slot.content := by
    unfold Heap.get?
    rw [hslot]
    rfl
  refine ⟨Heap.id_lt_size hget, ?_⟩
  rw [← hnew]
  unfold Heap.setSlot
  rw [Array.size_setIfInBounds]

namespace Simulation

open Attempt

variable {α β : Type}

/-- A number that carries a kind is a number of that kind. -/
def Object.Tagged : Object → Prop
  | int value (some kind) => ∃ i : HostInt, i.kind = kind ∧ i.value = value
  | float x (some kind) => ∃ f : HostFloat, f.kind = kind ∧ f.toDouble = x
  | _ => True

theorem Object.tagged_ofScalar (s : Scalar) : (Object.ofScalar s).Tagged := by
  cases s with
  | bool b => trivial
  | int i => exact ⟨i, rfl, rfl⟩
  | real x => exact ⟨x, rfl, rfl⟩

theorem Object.tagged_withAttrs {object : Object} {attrs : Table Ref}
    (hattrs : object.attrs? = some attrs) (new : Table Ref) : (object.withAttrs new).Tagged := by
  cases object with
  | bag _ | moduleOf _ _ | classOf _ _ | instanceOf _ _ => trivial
  | _ => cases hattrs

theorem Object.kind_withAttrs (object : Object) (attrs : Table Ref) :
    (object.withAttrs attrs).kind = object.kind := by
  cases object <;> rfl

/-- An invariant that is kept by acquiring references, by making objects out of what is there and by
reporting errors. -/
structure Mild (I : Simulation → Prop) (fine : Panic → Prop) : Prop where
  misuse : ∀ panic : Panic, panic.isGate = false → fine panic
  gate : ∀ s operation, I s → s.phase ≠ .running →
    fine (.notStarted operation) ∧ fine (.stopped operation)
  retain : ∀ s ref h, I s → s.heap.retain? ref = some h → I { s with heap := h }
  allocate : ∀ s (object : Object), I s → object.Tagged →
    (∀ child ∈ object.children, child.id < s.heap.slots.size) →
    I { s with heap := (s.heap.allocate object).2 }
  report : ∀ s diagnostic, I s → I { s with pending := some diagnostic }

/-- An invariant that is kept by everything that the runtime does while it runs, but for what it writes
to objects. -/
structure Steady (I : Simulation → Prop) (fine : Panic → Prop) : Prop extends Mild I fine where
  build : ∀ s (object : Object), I s → object.Tagged → I { s with heap := (s.heap.allocate object).2 }
  release : ∀ s ref, I s → I { s with heap := (s.heap.release ref).heap }
  register : ∀ s modules, I s → I { s with modules := modules }
  count : ∀ s function, I s → I { s with called := function :: s.called }
  clear : ∀ s, I s → I { s with pending := none }

/-- An invariant that is kept by everything that the runtime does while it runs. -/
structure Lasting (I : Simulation → Prop) (fine : Panic → Prop) : Prop extends Steady I fine where
  store : ∀ s ref (old object : Object), I s → s.heap.get? ref = some old → object.kind = old.kind →
    object.Tagged → I { s with heap := s.heap.setContent ref object }

/-!
# Requests that read
-/

theorem meets_access {ref : Ref} {s : Simulation} {ok : Object → Simulation → Prop}
    {failed : Panic → Simulation → Prop} (hok : ∀ object, s.heap.get? ref = some object → ok object s)
    (hfailed : s.heap.get? ref = none → failed (.deadAccess ref) s) :
    (access ref).Meets s ok failed := by
  unfold access
  rw [meets_bind, meets_get]
  cases hget : s.heap.get? ref with
  | some object => exact hok object hget
  | none => exact hfailed hget

theorem meets_retain {ref : Ref} {s : Simulation} {ok : Unit → Simulation → Prop}
    {failed : Panic → Simulation → Prop}
    (hok : ∀ h, s.heap.retain? ref = some h → ok () { s with heap := h })
    (hfailed : s.heap.retain? ref = none → failed (.deadRetain ref) s) :
    (retain ref).Meets s ok failed := by
  unfold retain
  rw [meets_bind, meets_get]
  cases hretain : s.heap.retain? ref with
  | some h => exact hok h hretain
  | none => exact hfailed hretain

/-- To look for the name of a type leaves a runtime as it is. -/
theorem meets_displayType {fine : Panic → Prop} (ref : Ref)
    (hmisuse : ∀ panic : Panic, panic.isGate = false → fine panic) {s : Simulation} :
    (displayType ref).Meets s (fun _ s' => s' = s) fun panic s' => fine panic ∧ s' = s := by
  unfold displayType
  rw [meets_bind]
  apply meets_access _ fun _ => ⟨hmisuse _ rfl, rfl⟩
  intro object _
  cases object.class? with
  | none => exact rfl
  | some cls =>
      dsimp only
      rw [meets_bind]
      apply meets_access _ fun _ => ⟨hmisuse _ rfl, rfl⟩
      intro found _
      cases found with
      | _ => exact rfl

section Reading

variable {I : Simulation → Prop} {fine : Panic → Prop} (hI : Mild I fine)

include hI

theorem upholds_access_bind {ref : Ref} {f : Object → Attempt Simulation α}
    (hf : ∀ object, Upholds I fine (f object)) : Upholds I fine (access ref >>= f) := by
  intro s hs
  rw [meets_bind]
  exact meets_access (fun object _ => hf object s hs) fun _ => ⟨hI.misuse _ rfl, hs⟩

theorem upholds_look (ref : Ref) (f : Object → α) :
    Upholds I fine (access ref >>= fun object => pure (f object)) :=
  upholds_access_bind hI fun _ => Upholds.pure

theorem upholds_retain (ref : Ref) : Upholds I fine (retain ref) := by
  intro s hs
  exact meets_retain (fun h hretain => hI.retain s ref h hs hretain) fun _ => ⟨hI.misuse _ rfl, hs⟩

theorem upholds_lend (ref : Ref) : Upholds I fine (lend ref) :=
  Upholds.bind (upholds_retain hI ref) fun _ => Upholds.pure

theorem upholds_raise (kind message : String) : Upholds I fine (raise kind message) :=
  Upholds.modify fun s hs => hI.report s _ hs

theorem upholds_failWith (kind message : String) (sentinel : α) :
    Upholds I fine (failWith kind message sentinel) :=
  Upholds.bind (upholds_raise hI kind message) fun _ => Upholds.pure

theorem upholds_displayType (ref : Ref) : Upholds I fine (displayType ref) := by
  intro s hs
  refine meets_mono (fun _ s' hsame => ?_) (fun _ s' hsame => ?_) (meets_displayType ref hI.misuse)
  · rw [hsame]
    exact hs
  · rw [hsame.2]
    exact ⟨hsame.1, hs⟩

/-- A complaint that names the type of an object. -/
theorem upholds_complaint (ref : Ref) (kind : String) (message : String → String) (sentinel : α) :
    Upholds I fine (displayType ref >>= fun type => failWith kind (message type) sentinel) :=
  Upholds.bind (upholds_displayType hI ref) fun type =>
    upholds_failWith hI kind (message type) sentinel

theorem upholds_typeName (ref : Ref) : Upholds I fine (typeName ref) := by
  unfold typeName
  apply upholds_access_bind hI
  intro object
  dsimp only
  apply upholds_access_bind hI
  intro target
  cases target.ownName? with
  | some name => exact Upholds.pure
  | none => exact upholds_displayType hI ref

theorem upholds_memberNames (ref : Ref) : Upholds I fine (memberNames ref) := by
  unfold memberNames
  apply upholds_access_bind hI
  intro object
  dsimp only
  cases object.class? with
  | none => exact Upholds.pure
  | some cls => exact upholds_look hI cls _

theorem upholds_intValue (ref : Ref) : Upholds I fine (intValue ref) := by
  unfold intValue
  apply upholds_access_bind hI
  intro object
  cases object with
  | int value kind | bool b => exact Upholds.pure
  | _ => exact upholds_complaint hI ref _ _ _

theorem upholds_floatValue (ref : Ref) : Upholds I fine (floatValue ref) := by
  unfold floatValue
  apply upholds_access_bind hI
  intro object
  cases object with
  | float x kind | int value kind | bool b => exact Upholds.pure
  | _ => exact upholds_complaint hI ref _ _ _

theorem upholds_stringBytes (ref : Ref) : Upholds I fine (stringBytes ref) := by
  unfold stringBytes
  apply upholds_access_bind hI
  intro object
  cases object with
  | bytes octets | text chars => exact Upholds.pure
  | units codes =>
      dsimp only
      cases Utf16.decode? codes with
      | some text => exact Upholds.pure
      | none => exact upholds_failWith hI _ _ _
  | _ => exact upholds_complaint hI ref _ _ _

theorem upholds_sequenceLength (ref : Ref) : Upholds I fine (sequenceLength ref) := by
  unfold sequenceLength
  apply upholds_access_bind hI
  intro object
  cases object.items? with
  | some items => exact Upholds.pure
  | none => exact upholds_complaint hI ref _ _ _

theorem upholds_sequenceItem (ref : Ref) (index : Nat) :
    Upholds I fine (sequenceItem ref index) := by
  unfold sequenceItem
  apply upholds_access_bind hI
  intro object
  cases object.items?.bind (·[index]?) with
  | some item => exact upholds_lend hI item
  | none => exact upholds_complaint hI ref _ _ _

theorem upholds_importModule (name : String) : Upholds I fine (importModule name) := by
  unfold importModule
  apply Upholds.get_bind
  intro s hs
  cases s.modules.find? name with
  | some found => exact upholds_lend hI found s hs
  | none => exact upholds_failWith hI _ _ _ s hs

theorem upholds_initialiserOf (attrs : Table Ref) : Upholds I fine (initialiserOf attrs) := by
  unfold initialiserOf
  cases attrs.find? "__init__" with
  | none => exact Upholds.pure
  | some ref =>
      apply upholds_access_bind hI
      intro object
      cases object with
      | _ => exact Upholds.pure

theorem upholds_classAttr (object : Object) (name : String) :
    Upholds I fine (classAttr object name) := by
  unfold classAttr
  cases object.class? with
  | some cls => exact upholds_look hI cls _
  | none => exact Upholds.pure

/-- A bound method is made out of two objects that are there. -/
theorem upholds_bindMethod (receiver function : Ref) :
    Upholds I fine (retain receiver >>= fun _ => retain function >>= fun _ =>
      allocate (.boundMethod receiver function) >>= fun ref => pure (some ref)) := by
  intro s hs
  rw [meets_bind]
  apply meets_retain _ fun _ => ⟨hI.misuse _ rfl, hs⟩
  intro h hreceiver
  have hs' := hI.retain s receiver h hs hreceiver
  rw [meets_bind]
  apply meets_retain _ fun _ => ⟨hI.misuse _ rfl, hs'⟩
  intro h' hfunction
  have hs'' := hI.retain _ function h' hs' hfunction
  apply hI.allocate _ (.boundMethod receiver function) hs'' trivial
  intro child hchild
  have hsize := Heap.size_retain? hreceiver
  have hsize' := Heap.size_retain? hfunction
  show child.id < h'.slots.size
  rcases List.mem_cons.1 hchild with heq | hrest
  · rw [heq, hsize'.2, hsize.2]
    exact hsize.1
  · rw [List.mem_singleton.1 hrest, hsize'.2]
    exact hsize'.1

theorem upholds_getAttr (ref : Ref) (name : String) : Upholds I fine (getAttr ref name) := by
  unfold getAttr
  apply upholds_access_bind hI
  intro object
  cases object.attrs?.bind (·.find? name) with
  | some own => exact upholds_lend hI own
  | none =>
      apply Upholds.bind (upholds_classAttr hI object name)
      intro inherited
      cases inherited with
      | none => exact upholds_complaint hI ref _ _ _
      | some found =>
          apply upholds_access_bind hI
          intro target
          cases target with
          | function _ body => exact upholds_bindMethod hI ref found
          | _ => exact upholds_lend hI found

theorem upholds_getItem (ref key : Ref) : Upholds I fine (getItem ref key) := by
  unfold getItem
  apply Upholds.bind (upholds_displayType hI ref)
  intro type
  apply upholds_access_bind hI
  intro keyObject
  apply upholds_access_bind hI
  intro object
  cases object with
  | tuple items | list items =>
      dsimp only
      cases keyObject.int? with
      | none => exact upholds_failWith hI _ _ _
      | some index =>
          dsimp only
          cases (resolveIndex index items.length).bind (items[·]?) with
          | some item => exact upholds_lend hI item
          | none => exact upholds_failWith hI _ _ _
  | bag attrs =>
      dsimp only
      cases keyObject.text?.bind attrs.find? with
      | some found => exact upholds_lend hI found
      | none => exact upholds_failWith hI _ _ _
  | _ => exact upholds_failWith hI _ _ _

theorem upholds_allocate {object : Object} (htagged : object.Tagged)
    (hchildren : object.children = []) : Upholds I fine (allocate object) := by
  intro s hs
  apply hI.allocate s object hs htagged
  intro child hchild
  rw [hchildren] at hchild
  cases hchild

/-- The objects of which a reference was acquired are there. -/
theorem meets_retainAll (items : List Ref) {s : Simulation} (hs : I s) :
    (items.forM retain).Meets s
      (fun _ s' => I s' ∧ s'.heap.slots.size = s.heap.slots.size ∧
        ∀ item ∈ items, item.id < s.heap.slots.size)
      fun panic s' => fine panic ∧ I s' := by
  induction items generalizing s with
  | nil => exact ⟨hs, rfl, nofun⟩
  | cons item rest ih =>
      show (retain item >>= fun _ => rest.forM retain).Meets s _ _
      rw [meets_bind]
      apply meets_retain _ fun _ => ⟨hI.misuse _ rfl, hs⟩
      intro h hretain
      have hsize := Heap.size_retain? hretain
      refine meets_mono (fun _ s' hrest => ?_) (fun _ _ h => h) (ih (hI.retain s item h hs hretain))
      rcases hrest with ⟨hs', hsame, hinside⟩
      refine ⟨hs', hsame.trans hsize.2, fun other hother => ?_⟩
      rcases List.mem_cons.1 hother with heq | hlater
      · rw [heq]
        exact hsize.1
      · rw [← hsize.2]
        exact hinside other hlater

theorem upholds_newTuple (items : List Ref) :
    Upholds I fine
      (items.forM retain >>= fun _ => allocate (.tuple items) >>= fun ref => pure (some ref)) := by
  intro s hs
  rw [meets_bind]
  refine meets_mono (fun _ s' h => ?_) (fun _ _ h => h) (meets_retainAll hI items hs)
  rcases h with ⟨hs', hsize, hinside⟩
  apply hI.allocate s' (.tuple items) hs' trivial
  intro child hchild
  rw [hsize]
  exact hinside child hchild

end Reading

/-- The requests that neither write nor give back nor run code nor clear an error. -/
def reading : Request → Bool
  | .setAttr _ _ _ | .setItem _ _ _ | .call _ _ | .release _ | .takeError => false
  | _ => true

section Serving

variable {I : Simulation → Prop} {fine : Panic → Prop}
  {runScript : Script → Attempt Simulation (Option Ref)}

theorem upholds_serve_of_reading (hI : Mild I fine) {r : Request} (hr : reading r = true) :
    Upholds I fine (serve runScript r) := by
  cases r with
  | kindOf ref => exact upholds_look hI ref _
  | numericKind ref => exact upholds_look hI ref _
  | isCallable ref => exact upholds_look hI ref _
  | supportsIndexing ref => exact upholds_look hI ref _
  | boolValue ref => exact upholds_look hI ref _
  | typeName ref => exact Upholds.bind (upholds_typeName hI ref) fun _ => Upholds.pure
  | memberNames ref => exact Upholds.bind (upholds_memberNames hI ref) fun _ => Upholds.pure
  | intValue ref => exact upholds_intValue hI ref
  | floatValue ref => exact upholds_floatValue hI ref
  | stringBytes ref => exact upholds_stringBytes hI ref
  | sequenceLength ref => exact upholds_sequenceLength hI ref
  | sequenceItem ref index => exact upholds_sequenceItem hI ref index
  | null => exact Upholds.bind (upholds_retain hI nullRef) fun _ => Upholds.pure
  | newScalar value =>
      have hchildren : (Object.ofScalar value).children = [] := by
        cases value with
        | bool b | int i | real x => rfl
      exact Upholds.bind (upholds_allocate hI (Object.tagged_ofScalar value) hchildren)
        fun _ => Upholds.pure
  | newString text =>
      have htagged : (Object.text text).Tagged := trivial
      exact Upholds.bind (upholds_allocate hI htagged rfl) fun _ => Upholds.pure
  | newTuple items => exact upholds_newTuple hI items
  | importModule name => exact upholds_importModule hI name
  | getAttr ref name => exact upholds_getAttr hI ref name
  | getItem ref key => exact upholds_getItem hI ref key
  | retain ref => exact upholds_retain hI ref
  | errorPending => exact fun s hs => hs
  | setAttr _ _ _ | setItem _ _ _ | call _ _ | release _ | takeError => cases hr

theorem upholds_requireRunning (hI : Mild I fine) (operation : String) :
    Upholds I fine (requireRunning operation) := by
  unfold requireRunning
  apply Upholds.get_bind
  intro s hs
  cases hphase : s.phase with
  | running => exact hs
  | fresh => exact ⟨(hI.gate s operation hs (by rw [hphase]; exact nofun)).1, hs⟩
  | stopped => exact ⟨(hI.gate s operation hs (by rw [hphase]; exact nofun)).2, hs⟩

end Serving

/-!
# Operations that change the runtime
-/

section Changing

variable {I : Simulation → Prop} {fine : Panic → Prop} (hI : Steady I fine)

include hI

theorem upholds_build {object : Object} (htagged : object.Tagged) :
    Upholds I fine (allocate object) := fun s hs => hI.build s object hs htagged

theorem upholds_release (ref : Ref) : Upholds I fine (release ref) := by
  unfold release
  apply Upholds.get_bind
  intro s hs
  have hs' := hI.release s ref hs
  dsimp only
  rw [meets_bind, meets_set]
  cases (s.heap.release ref).dead with
  | some dead => exact ⟨hI.misuse _ rfl, hs'⟩
  | none => exact hs'

theorem upholds_releaseOld (old : Option Ref) : Upholds I fine (releaseOld old) := by
  cases old with
  | some previous => exact upholds_release hI previous
  | none => exact Upholds.pure

/-- New content is written, and what it took the place of is given back. -/
theorem meets_replace {s : Simulation} {ref : Ref} {object : Object}
    (hstored : I { s with heap := s.heap.setContent ref object }) (previous : Option Ref) (result : α) :
    (store ref object >>= fun _ => releaseOld previous >>= fun _ => pure result).Meets s
      (fun _ s' => I s') fun panic s' => fine panic ∧ I s' := by
  have hreleased : Upholds I fine (releaseOld previous >>= fun _ => pure result) :=
    Upholds.bind (upholds_releaseOld hI previous) fun _ => Upholds.pure
  exact hreleased _ hstored

/-- The only thing that setting an attribute writes is a table with one more entry. -/
theorem meets_setAttr {s : Simulation} (hs : I s) {ref : Ref} {name : String} {value : Ref}
    (hstore : ∀ h object attrs, s.heap.retain? value = some h → s.heap.get? ref = some object →
      object.attrs? = some attrs →
      I { s with heap := h.setContent ref (object.withAttrs (attrs.insert name value)) }) :
    (setAttr ref name value).Meets s (fun _ s' => I s') fun panic s' => fine panic ∧ I s' := by
  unfold setAttr
  rw [meets_bind]
  apply meets_access _ fun _ => ⟨hI.misuse _ rfl, hs⟩
  intro object hget
  cases hattrs : object.attrs? with
  | none => exact upholds_complaint hI.toMild ref _ _ _ s hs
  | some attrs =>
      dsimp only
      rw [meets_bind]
      apply meets_retain _ fun _ => ⟨hI.misuse _ rfl, hs⟩
      intro h hretain
      rw [meets_bind]
      apply meets_access _ fun _ => ⟨hI.misuse _ rfl, hI.retain s value h hs hretain⟩
      intro found hfound
      have hsame : h.get? ref = some found := hfound
      rw [Heap.get?_retain hretain, hget] at hsame
      cases hsame
      rw [hattrs]
      exact meets_replace hI (hstore h object attrs hretain hget hattrs) _ _

theorem upholds_refuseItem (value : Ref) (kind message : String) :
    Upholds I fine (release value >>= fun _ => failWith kind message false) :=
  Upholds.bind (upholds_release hI value) fun _ => upholds_failWith hI.toMild kind message false

/-- The only thing that setting an item writes is a list with another item, or the table of a bag with
one more entry. -/
theorem meets_setItem {s : Simulation} (hs : I s) {ref key value : Ref}
    (hlist : ∀ h items number index position, s.heap.retain? value = some h →
      s.heap.get? ref = some (.list items) → s.heap.get? key = some number →
      number.int? = some index → resolveIndex index items.length = some position →
      I { s with heap := h.setContent ref (.list (items.set position value)) })
    (hbag : ∀ h attrs text name, s.heap.retain? value = some h →
      s.heap.get? ref = some (.bag attrs) → s.heap.get? key = some text → text.text? = some name →
      I { s with heap := h.setContent ref (.bag (attrs.insert name value)) }) :
    (setItem ref key value).Meets s (fun _ s' => I s') fun panic s' => fine panic ∧ I s' := by
  unfold setItem
  rw [meets_bind]
  refine meets_mono (fun type s₁ hsame => ?_) (fun _ s₁ hsame => ?_)
    (meets_displayType ref hI.misuse)
  · rw [hsame, meets_bind]
    apply meets_access _ fun _ => ⟨hI.misuse _ rfl, hs⟩
    intro keyObject hkey
    rw [meets_bind]
    apply meets_retain _ fun _ => ⟨hI.misuse _ rfl, hs⟩
    intro h hretain
    have hs' := hI.retain s value h hs hretain
    dsimp only
    rw [meets_bind]
    apply meets_access _ fun _ => ⟨hI.misuse _ rfl, hs'⟩
    intro object hfound
    have hget : s.heap.get? ref = some object := (Heap.get?_retain hretain ref).symm.trans hfound
    cases object with
    | list items =>
        dsimp only
        cases hresolved : keyObject.int?.bind (resolveIndex · items.length) with
        | none => exact upholds_refuseItem hI _ _ _ _ hs'
        | some position =>
            rcases Option.bind_eq_some_iff.1 hresolved with ⟨index, hnumber, hposition⟩
            exact meets_replace hI
              (hlist h items keyObject index position hretain hget hkey hnumber hposition) _ _
    | bag attrs =>
        dsimp only
        cases hname : keyObject.text? with
        | none => exact upholds_refuseItem hI _ _ _ _ hs'
        | some name => exact meets_replace hI (hbag h attrs keyObject name hretain hget hkey hname) _ _
    | _ => exact upholds_refuseItem hI _ _ _ _ hs'
  · rw [hsame.2]
    exact ⟨hsame.1, hs⟩

theorem upholds_registerModule (name : String) (entries : List (String × Ref)) :
    Upholds I fine (registerModule name entries) := by
  unfold registerModule
  have htagged : (Object.moduleOf name (.ofList entries)).Tagged := trivial
  apply Upholds.bind (upholds_build hI htagged)
  intro ref
  apply Upholds.get_bind
  intro s hs
  rw [meets_bind, meets_set]
  have hreleased : Upholds I fine (releaseOld (s.modules.find? name) >>= fun _ => pure ref) :=
    Upholds.bind (upholds_releaseOld hI _) fun _ => Upholds.pure
  exact hreleased _ (hI.register s _ hs)

/-!
# Calls
-/

section Calls

variable {runScript : Script → Attempt Simulation (Option Ref)}
  (hrun : ∀ script, Upholds I fine (runScript script))

include hrun

theorem upholds_callFunction (function : Ref) (body : Nat → List Ref → Script)
    (arguments : List Ref) : Upholds I fine (callFunction runScript function body arguments) := by
  unfold callFunction
  apply Upholds.bind (Upholds.modify fun s hs => hI.count s function hs)
  intro _
  apply Upholds.get_bind
  intro s hs
  exact hrun _ s hs

theorem upholds_instantiate (cls : Ref) (name : String) (attrs : Table Ref)
    (arguments : List Ref) : Upholds I fine (instantiate runScript cls name attrs arguments) := by
  unfold instantiate
  apply Upholds.bind (upholds_initialiserOf hI.toMild attrs)
  intro initialiser
  apply Upholds.bind (upholds_retain hI.toMild cls)
  intro _
  have htagged : (Object.instanceOf cls .empty).Tagged := trivial
  apply Upholds.bind (upholds_build hI htagged)
  intro object
  cases initialiser with
  | none =>
      dsimp only
      split
      · exact Upholds.pure
      · exact Upholds.bind (upholds_release hI object) fun _ => upholds_failWith hI.toMild _ _ _
  | some found =>
      apply Upholds.bind (upholds_callFunction hI hrun found.1 found.2 (object :: arguments))
      intro result
      cases result with
      | some result => exact Upholds.bind (upholds_release hI result) fun _ => Upholds.pure
      | none => exact Upholds.bind (upholds_release hI object) fun _ => Upholds.pure

theorem upholds_call (callable arguments : Ref) :
    Upholds I fine (call runScript callable arguments) := by
  have hnot : Upholds I fine (displayType callable >>= fun type =>
      failWith "TypeError" s!"'{type}' object is not callable" (none : Option Ref)) :=
    upholds_complaint hI.toMild callable _ _ _
  unfold call
  dsimp only
  apply upholds_access_bind hI.toMild
  intro sequence
  cases sequence.items? with
  | none => exact upholds_failWith hI.toMild _ _ _
  | some items =>
      apply upholds_access_bind hI.toMild
      intro object
      cases object with
      | function name body => exact upholds_callFunction hI hrun callable body items
      | boundMethod receiver function =>
          apply upholds_access_bind hI.toMild
          intro target
          cases target with
          | function name body =>
              exact upholds_callFunction hI hrun function body (receiver :: items)
          | _ => exact hnot
      | classOf name attrs => exact upholds_instantiate hI hrun callable name attrs items
      | _ => exact hnot

end Calls

/-!
# Operations that neither write nor run code
-/

/-- The operations that neither write to objects nor run code. -/
def Op.steady : Op → Bool
  | .request (.setAttr _ _ _) | .request (.setItem _ _ _) | .request (.call _ _) => false
  | _ => true

variable {runScript : Script → Attempt Simulation (Option Ref)}

theorem upholds_answer_of_steady {r : Request} (hr : Op.steady (.request r) = true) :
    Upholds I fine (answer runScript r) := by
  unfold answer
  apply Upholds.bind (upholds_requireRunning hI.toMild _)
  intro _
  cases r with
  | setAttr _ _ _ | setItem _ _ _ | call _ _ => cases hr
  | release ref => exact upholds_release hI ref
  | takeError => exact fun s hs => hI.clear s hs
  | _ => exact upholds_serve_of_reading hI.toMild rfl

theorem upholds_perform_of_steady {op : Op} (hop : op.steady = true) :
    Upholds I fine (perform runScript op) := by
  cases op with
  | request r => exact upholds_answer_of_steady hI hop
  | newInt _ | newFloat _ | newBool _ | newBytes _ | newText _ | newUnits _ | newTuple _
  | newList _ | newBag _ | newClass _ _ =>
      exact fun s hs => hI.build s _ hs trivial
  | registerModule name entries => exact upholds_registerModule hI name entries
  | raise diagnostic => exact upholds_raise hI.toMild diagnostic.kind diagnostic.message
  | retain ref => exact upholds_retain hI.toMild ref
  | release ref => exact upholds_release hI ref
  | kind ref => exact upholds_look hI.toMild ref _
  | attr ref name => exact upholds_look hI.toMild ref _
  | items ref => exact upholds_look hI.toMild ref _
  | intOf ref => exact upholds_look hI.toMild ref _
  | floatOf ref => exact upholds_look hI.toMild ref _
  | boolOf ref => exact upholds_look hI.toMild ref _
  | textOf ref => exact upholds_look hI.toMild ref _
  | scalarKind ref => exact upholds_look hI.toMild ref _
  | designated designation =>
      cases designation with
      | number id => exact Upholds.pure
      | name text => exact fun s hs => hs

end Changing

/-!
# All operations and scripts
-/

section Lasts

variable {I : Simulation → Prop} {fine : Panic → Prop} (hI : Lasting I fine)

include hI

theorem upholds_setAttr (ref : Ref) (name : String) (value : Ref) :
    Upholds I fine (setAttr ref name value) := by
  intro s hs
  apply meets_setAttr hI.toSteady hs
  intro h object attrs hretain hget hattrs
  exact hI.store { s with heap := h } ref object _ (hI.retain s value h hs hretain)
    ((Heap.get?_retain hretain ref).trans hget) (Object.kind_withAttrs _ _)
    (Object.tagged_withAttrs hattrs _)

theorem upholds_setItem (ref key value : Ref) : Upholds I fine (setItem ref key value) := by
  intro s hs
  apply meets_setItem hI.toSteady hs
  · intro h items number index position hretain hget _ _ _
    exact hI.store { s with heap := h } ref (.list items) _ (hI.retain s value h hs hretain)
      ((Heap.get?_retain hretain ref).trans hget) rfl trivial
  · intro h attrs text name hretain hget _ _
    exact hI.store { s with heap := h } ref (.bag attrs) _ (hI.retain s value h hs hretain)
      ((Heap.get?_retain hretain ref).trans hget) rfl trivial

section Scripts

variable {runScript : Script → Attempt Simulation (Option Ref)}
  (hrun : ∀ script, Upholds I fine (runScript script))

include hrun

theorem upholds_answer (r : Request) : Upholds I fine (answer runScript r) := by
  have hrunning : Upholds I fine (requireRunning r.method) := upholds_requireRunning hI.toMild _
  cases r with
  | setAttr ref name value => exact Upholds.bind hrunning fun _ => upholds_setAttr hI ref name value
  | setItem ref key value => exact Upholds.bind hrunning fun _ => upholds_setItem hI ref key value
  | call callable arguments =>
      exact Upholds.bind hrunning fun _ => upholds_call hI.toSteady hrun callable arguments
  | _ => exact upholds_answer_of_steady hI.toSteady rfl

theorem upholds_perform (op : Op) : Upholds I fine (perform runScript op) := by
  cases op with
  | request r => exact upholds_answer hI hrun r
  | _ => exact upholds_perform_of_steady hI.toSteady rfl

end Scripts

theorem upholds_runWith {perform : (op : Op) → Attempt Simulation op.Answer}
    (hperform : ∀ op, Upholds I fine (perform op)) (script : Script) :
    Upholds I fine (runWith perform script) := by
  induction script with
  | done result => exact Upholds.pure
  | perform op next ih => exact Upholds.bind (hperform op) fun answer => ih answer
  | newFunction name body next _ ih =>
      have htagged : (Object.function name body).Tagged := trivial
      exact Upholds.bind (upholds_build hI.toSteady htagged) fun ref => ih ref

/-- Every script keeps a lasting invariant, by induction on the depth of the calls. -/
theorem upholds_run (depth : Nat) (script : Script) : Upholds I fine (run depth script) := by
  induction depth generalizing script with
  | zero => exact Upholds.throw (hI.misuse _ rfl)
  | succ depth ih => exact upholds_runWith hI (upholds_perform hI ih) script

end Lasts

/-!
# Life
-/

/-- What starting and stopping change of a runtime. -/
def life (s : Simulation) : SimulationPhase × Nat × List String :=
  (s.phase, s.startCount, s.searchPaths)

theorem life_eq_iff {s : Simulation} {phase : SimulationPhase} {count : Nat}
    {paths : List String} :
    s.life = (phase, count, paths) ↔
      s.phase = phase ∧ s.startCount = count ∧ s.searchPaths = paths := by
  unfold life
  rw [Prod.mk.injEq, Prod.mk.injEq]

/-- Whatever a runtime does, it is neither started nor stopped by it. -/
theorem lasting_life_of (life : SimulationPhase × Nat × List String) :
    Lasting (fun s => s.life = life) fun panic => life.1 = .running → panic.isGate = false where
  misuse _ h _ := h
  gate _ _ hs hphase :=
    ⟨fun hrunning => absurd ((congrArg Prod.fst hs).trans hrunning) hphase,
      fun hrunning => absurd ((congrArg Prod.fst hs).trans hrunning) hphase⟩
  retain _ _ _ hs _ := hs
  allocate _ _ hs _ _ := hs
  report _ _ hs := hs
  build _ _ hs _ := hs
  release _ _ hs := hs
  store _ _ _ _ hs _ _ _ := hs
  register _ _ hs := hs
  count _ _ hs := hs
  clear _ hs := hs

theorem lasting_life {life : SimulationPhase × Nat × List String}
    (hrunning : life.1 = .running) :
    Lasting (fun s => s.life = life) fun panic => panic.isGate = false :=
  { lasting_life_of life with
    misuse := fun _ h => h
    gate := fun _ _ hs hphase => absurd ((congrArg Prod.fst hs).trans hrunning) hphase }

end Simulation
end ForeignBridge
