import Mathlib.Algebra.BigOperators.Group.Multiset.Basic
import ForeignBridge.Proofs.Heap.Entries
import ForeignBridge.Proofs.Simulation.Honesty

/-!
# Conservation in the simulated runtime

Every operation of the simulated runtime keeps it sound: the references that it acquires are those
that it stores, hands out or gives back.  The lemmas follow the operations, and end with the scripts
that are run for calls.
-/

namespace ForeignBridge
namespace Simulation

variable {α β : Type}

/-!
# The heap
-/

theorem returns_access {ref : Ref} {s : Simulation} {post : Object → Simulation → Prop}
    (h : ∀ object, s.heap.get? ref = some object → post object s) :
    (access ref).Returns s post := by
  unfold access
  rw [Attempt.returns_bind, Attempt.returns_get]
  cases hget : s.heap.get? ref with
  | some object => exact h object hget
  | none => exact Attempt.returns_throw

theorem keeps_access_bind {before : Multiset Ref} {after : α → Multiset Ref} {ref : Ref}
    {f : Object → Attempt Simulation α}
    (hf : ∀ object, object.Honest → Keeps before (f object) after) :
    Keeps before (access ref >>= f) after := by
  intro s held hs
  rw [Attempt.returns_bind]
  apply returns_access
  intro object hget
  exact hf object (hs.proper ref object hget).1 s held hs

/-- Taking one more reference leaves the contents of all objects as they are. -/
theorem returns_retain (ref : Ref) {s : Simulation} {held : Multiset Ref} (hs : s.Sound held) :
    (retain ref).Returns s fun _ s' =>
      s'.Sound ({ref} + held) ∧ ∀ other, s'.heap.get? other = s.heap.get? other := by
  unfold retain
  rw [Attempt.returns_bind, Attempt.returns_get]
  cases hretain : s.heap.retain? ref with
  | none => exact Attempt.returns_throw
  | some heap =>
      have hbalanced := hs.balanced.retain hretain
      rw [add_left_comm] at hbalanced
      exact ⟨⟨hbalanced, hs.proper.retain hretain⟩, fun other => Heap.get?_retain hretain other⟩

theorem keeps_retain (ref : Ref) : Keeps 0 (retain ref) fun _ => {ref} := by
  intro s held hs
  rw [zero_add] at hs
  exact Attempt.returns_mono (fun _ _ h => h.1) (returns_retain ref hs)

theorem keeps_allocate (object : Object) (hobject : object.Honest) :
    Keeps (object.children : List Ref) (allocate object) fun ref => {ref} := by
  intro s held hs
  have hbalanced := hs.balanced
  rw [add_left_comm] at hbalanced
  have hafter := Heap.Balanced.allocate object hbalanced
  rw [add_left_comm] at hafter
  have hfresh : (s.heap.allocate object).1 ≠ nullRef := by
    intro heq
    have hnull : nullRef ∈ s.heap.references + (s.roots + ((object.children : List Ref) + held)) :=
      Multiset.mem_add.2 (.inr (Multiset.mem_add.2 (.inl s.nullRef_mem_roots)))
    rcases hs.balanced.live hnull with ⟨slot, hslot⟩
    rw [← heq, Heap.fresh_dead] at hslot
    cases hslot
  exact ⟨hafter, hs.proper.allocate ⟨hobject, fun heq => absurd heq hfresh⟩⟩

theorem keeps_release (ref : Ref) : Keeps {ref} (release ref) fun _ => 0 := by
  intro s held hs
  have hbalanced := hs.balanced
  rw [add_left_comm, ← Multiset.coe_singleton] at hbalanced
  have hreleased := hbalanced.releaseAll
  unfold release
  rw [Attempt.returns_bind, Attempt.returns_get, Attempt.returns_bind, Attempt.returns_set]
  have hdead : (s.heap.release ref).dead = none := hreleased.1
  rw [hdead, Attempt.returns_pure, zero_add]
  exact ⟨hreleased.2, hs.proper.releaseAll [ref]⟩

/-- New content takes over the references that are new in it, and gives back those that are gone. -/
theorem returns_store {ref : Ref} {s : Simulation} {given taken held : Multiset Ref}
    {old new : Object} (hget : s.heap.get? ref = some old) (hold : old ≠ .null)
    (hnew : new.Honest) (hmoved : (new.children : Multiset Ref) + taken = (old.children : Multiset Ref) + given)
    (hs : s.Sound (given + held)) :
    (store ref new).Returns s fun _ s' => s'.Sound (taken + held) := by
  have hbalanced := hs.balanced
  rw [add_left_comm] at hbalanced
  have hafter := Heap.Balanced.setContent hget hmoved hbalanced
  rw [add_left_comm] at hafter
  have hplace : ref ≠ nullRef := fun heq => hold ((hs.proper ref old hget).2 heq)
  exact ⟨hafter, hs.proper.setContent ⟨hnew, fun heq => absurd heq hplace⟩⟩

theorem keeps_modify {f : Simulation → Simulation} {held : Multiset Ref}
    (hheap : ∀ s, (f s).heap = s.heap) (hmodules : ∀ s, (f s).modules = s.modules) :
    Keeps held (modify f) fun _ => held := by
  intro s others hs
  rw [Attempt.returns_modify]
  constructor
  · unfold roots
    rw [hheap, hmodules]
    exact hs.balanced
  · rw [hheap]
    exact hs.proper

theorem keeps_raise (kind message : String) {held : Multiset Ref} :
    Keeps held (raise kind message) fun _ => held :=
  keeps_modify (fun _ => rfl) fun _ => rfl

theorem keeps_failWith (kind message : String) (sentinel : α) {held : Multiset Ref} :
    Keeps held (failWith kind message sentinel) fun _ => held :=
  Keeps.bind (keeps_raise kind message) fun _ => Keeps.pure rfl

theorem keeps_lend (ref : Ref) {held : Multiset Ref} :
    Keeps held (lend ref) fun found => (found.toList : Multiset Ref) + held := by
  apply Keeps.bind ((keeps_retain ref).quiet held)
  intro _
  exact Keeps.pure rfl

theorem keeps_refusal (kind message : String) {held : Multiset Ref} :
    Keeps held (failWith kind message none) fun found : Option Ref => found.toList + held := by
  apply Keeps.bind (keeps_raise kind message)
  intro _
  exact Keeps.pure (zero_add held).symm

/-!
# Looking at objects
-/

theorem keeps_look (ref : Ref) (f : Object → α) {held : Multiset Ref} :
    Keeps held (access ref >>= fun object => pure (f object)) fun _ => held :=
  keeps_access_bind fun _ _ => Keeps.pure rfl

theorem keeps_displayType (ref : Ref) {held : Multiset Ref} :
    Keeps held (displayType ref) fun _ => held := by
  unfold displayType
  apply keeps_access_bind
  intro object _
  cases object.class? with
  | none => exact Keeps.pure rfl
  | some cls =>
      apply keeps_access_bind
      intro found _
      cases found with
      | _ => exact Keeps.pure rfl

/-- A complaint that names the type of an object. -/
theorem keeps_complaint (ref : Ref) (kind : String) (message : String → String) (sentinel : α)
    {held : Multiset Ref} :
    Keeps held (displayType ref >>= fun type => failWith kind (message type) sentinel)
      fun _ => held :=
  Keeps.bind (keeps_displayType ref) fun type => keeps_failWith kind (message type) sentinel

theorem keeps_refusalOf (ref : Ref) (kind : String) (message : String → String)
    {held : Multiset Ref} :
    Keeps held (displayType ref >>= fun type => failWith kind (message type) none)
      fun found : Option Ref => found.toList + held :=
  Keeps.bind (keeps_displayType ref) fun type => keeps_refusal kind (message type)

theorem keeps_typeName (ref : Ref) {held : Multiset Ref} :
    Keeps held (typeName ref) fun _ => held := by
  unfold typeName
  apply keeps_access_bind
  intro object _
  dsimp only
  apply keeps_access_bind
  intro target _
  cases target.ownName? with
  | some name => exact Keeps.pure rfl
  | none => exact keeps_displayType ref

theorem keeps_memberNames (ref : Ref) {held : Multiset Ref} :
    Keeps held (memberNames ref) fun _ => held := by
  unfold memberNames
  apply keeps_access_bind
  intro object _
  dsimp only
  cases object.class? with
  | none => exact Keeps.pure rfl
  | some cls => exact keeps_look cls _

theorem keeps_intValue (ref : Ref) {held : Multiset Ref} :
    Keeps held (intValue ref) fun _ => held := by
  unfold intValue
  apply keeps_access_bind
  intro object _
  cases object with
  | int value kind | bool b => exact Keeps.pure rfl
  | _ => exact keeps_complaint ref _ _ _

theorem keeps_floatValue (ref : Ref) {held : Multiset Ref} :
    Keeps held (floatValue ref) fun _ => held := by
  unfold floatValue
  apply keeps_access_bind
  intro object _
  cases object with
  | float x kind | int value kind | bool b => exact Keeps.pure rfl
  | _ => exact keeps_complaint ref _ _ _

theorem keeps_stringBytes (ref : Ref) {held : Multiset Ref} :
    Keeps held (stringBytes ref) fun _ => held := by
  unfold stringBytes
  apply keeps_access_bind
  intro object _
  cases object with
  | bytes octets | text chars => exact Keeps.pure rfl
  | units codes =>
      dsimp only
      cases Utf16.decode? codes with
      | some text => exact Keeps.pure rfl
      | none => exact keeps_failWith _ _ _
  | _ => exact keeps_complaint ref _ _ _

theorem keeps_sequenceLength (ref : Ref) {held : Multiset Ref} :
    Keeps held (sequenceLength ref) fun _ => held := by
  unfold sequenceLength
  apply keeps_access_bind
  intro object _
  cases object.items? with
  | some items => exact Keeps.pure rfl
  | none => exact keeps_complaint ref _ _ _

theorem keeps_sequenceItem (ref : Ref) (index : Nat) {held : Multiset Ref} :
    Keeps held (sequenceItem ref index) fun found => (found.toList : Multiset Ref) + held := by
  unfold sequenceItem
  apply keeps_access_bind
  intro object _
  cases object.items?.bind (·[index]?) with
  | some item => exact keeps_lend item
  | none => exact keeps_refusalOf ref _ _

/-!
# Modules and attributes
-/

theorem keeps_releaseOld (old : Option Ref) :
    Keeps (old.toList : List Ref) (releaseOld old) fun _ => 0 := by
  cases old with
  | some previous => exact keeps_release previous
  | none => exact Keeps.pure rfl

theorem keeps_importModule (name : String) {held : Multiset Ref} :
    Keeps held (importModule name) fun found => (found.toList : Multiset Ref) + held := by
  intro s others hs
  unfold importModule
  rw [Attempt.returns_bind, Attempt.returns_get]
  cases s.modules.find? name with
  | some found => exact keeps_lend found s others hs
  | none => exact keeps_refusal _ _ s others hs

/-- The registry takes over the new module, and gives back the one that it replaces. -/
theorem keeps_registerModule (name : String) {entries : List (String × Ref)}
    (hnames : (entries.map Prod.fst).Nodup) :
    Keeps (entries.map Prod.snd : List Ref) (registerModule name entries) fun _ => 0 := by
  unfold registerModule
  have hmodule : Object.Honest (.moduleOf name (.ofList entries)) := trivial
  apply Keeps.bind ((keeps_allocate _ hmodule).of_eq (Table.values_ofList hnames).symm fun _ => rfl)
  intro ref s held hs
  rw [Attempt.returns_bind, Attempt.returns_get, Attempt.returns_bind, Attempt.returns_set]
  have hvalues := Table.values_insert s.modules name ref
  have hregistered : Sound { s with modules := s.modules.insert name ref }
      (((s.modules.find? name).toList : Multiset Ref) + held) := by
    constructor
    · have hroots : ({nullRef} + ((s.modules.insert name ref).values : Multiset Ref)) +
          (((s.modules.find? name).toList : Multiset Ref) + held) =
          s.roots + ({ref} + held) := by
        unfold roots
        rw [add_assoc, ← add_assoc _ _ held, hvalues]
        abel
      unfold Heap.Balanced roots
      rw [hroots]
      exact hs.balanced
    · exact hs.proper
  refine Keeps.bind (keeps_releaseOld _) (fun _ => ?_) _ held hregistered
  exact Keeps.pure rfl

theorem keeps_attr (ref : Ref) (name : String) {held : Multiset Ref} :
    Keeps held (attr ref name) fun _ => held :=
  keeps_look ref _

theorem keeps_classAttr (object : Object) (name : String) {held : Multiset Ref} :
    Keeps held (classAttr object name) fun _ => held := by
  unfold classAttr
  cases object.class? with
  | some cls => exact keeps_attr cls name
  | none => exact Keeps.pure rfl

/-- A bound method takes over the references to its receiver and its function. -/
theorem keeps_getAttr (ref : Ref) (name : String) {held : Multiset Ref} :
    Keeps held (getAttr ref name) fun found => (found.toList : Multiset Ref) + held := by
  unfold getAttr
  apply keeps_access_bind
  intro object _
  cases object.attrs?.bind (·.find? name) with
  | some own => exact keeps_lend own
  | none =>
      apply Keeps.bind (keeps_classAttr object name)
      intro inherited
      cases inherited with
      | none => exact keeps_refusalOf ref _ _
      | some found =>
          apply keeps_access_bind
          intro target _
          cases target with
          | function _ body =>
              apply Keeps.bind ((keeps_retain ref).quiet held)
              intro _
              apply Keeps.bind ((keeps_retain found).quiet ({ref} + held))
              intro _
              have hchildren : ({found} : Multiset Ref) + ({ref} + held) =
                  ((Object.boundMethod ref found).children : List Ref) + held := by
                show _ = ((ref :: [found] : List Ref) : Multiset Ref) + held
                rw [← Multiset.cons_coe, Multiset.coe_singleton, ← Multiset.singleton_add,
                  add_left_comm, add_assoc]
              have hmethod : Object.Honest (.boundMethod ref found) := trivial
              apply Keeps.bind (((keeps_allocate _ hmethod).frame held).of_eq hchildren fun _ => rfl)
              intro method
              exact Keeps.pure rfl
          | _ => exact keeps_lend found

theorem mem_children_of_attrs {object : Object} {attrs : Table Ref} {name : String} {ref : Ref}
    (hattrs : object.attrs? = some attrs) (hfound : attrs.find? name = some ref) :
    ref ∈ object.children := by
  have hvalue := Table.mem_values_of_find? hfound
  cases object with
  | bag _ | moduleOf _ _ | classOf _ _ =>
      cases hattrs
      exact hvalue
  | instanceOf _ _ =>
      cases hattrs
      exact List.mem_append_left _ hvalue
  | _ => cases hattrs

theorem mem_children_of_find? {object : Object} {name : String} {ref : Ref}
    (hfound : object.attrs?.bind (·.find? name) = some ref) : ref ∈ object.children := by
  rcases Option.bind_eq_some_iff.1 hfound with ⟨attrs, hattrs, hname⟩
  exact mem_children_of_attrs hattrs hname

theorem children_of_items {object : Object} {items : List Ref} (hitems : object.items? = some items) :
    object.children = items := by
  cases object with
  | tuple _ | list _ =>
      cases hitems
      rfl
  | _ => cases hitems

theorem children_withAttrs {object : Object} {attrs : Table Ref} (h : object.attrs? = some attrs)
    (new : Table Ref) :
    ((object.withAttrs new).children : Multiset Ref) + (attrs.values : Multiset Ref) =
      (object.children : Multiset Ref) + (new.values : Multiset Ref) := by
  cases object with
  | bag old | moduleOf name old | classOf name old =>
      cases h
      exact add_comm _ _
  | instanceOf cls old =>
      cases h
      show ((new.values ++ [cls] : List Ref) : Multiset Ref) + _ =
        ((attrs.values ++ [cls] : List Ref) : Multiset Ref) + _
      rw [← Multiset.coe_add, ← Multiset.coe_add]
      abel
  | _ => cases h

theorem ne_null {object : Object} {attrs : Table Ref} (h : object.attrs? = some attrs) :
    object ≠ .null := by
  intro hnull
  rw [hnull] at h
  cases h

theorem honest_withAttrs {object : Object} {attrs : Table Ref} (h : object.attrs? = some attrs)
    (new : Table Ref) : (object.withAttrs new).Honest := by
  cases object with
  | bag _ | moduleOf _ _ | classOf _ _ | instanceOf _ _ => trivial
  | _ => cases h

/-- With a new attribute value for the old one, an object owns the one and no more the other. -/
theorem children_insert {object : Object} {attrs : Table Ref} (h : object.attrs? = some attrs)
    (name : String) (value : Ref) :
    ((object.withAttrs (attrs.insert name value)).children : Multiset Ref) +
      (attrs.find? name).toList = (object.children : Multiset Ref) + {value} := by
  have hchildren := children_withAttrs h (attrs.insert name value)
  have hvalues := Table.values_insert attrs name value
  apply add_right_cancel (b := (attrs.values : Multiset Ref))
  calc ((object.withAttrs (attrs.insert name value)).children : Multiset Ref) +
        (attrs.find? name).toList + attrs.values
      = (object.children : Multiset Ref) + ((attrs.insert name value).values : Multiset Ref) +
          (attrs.find? name).toList := by rw [add_right_comm, hchildren]
    _ = (object.children : Multiset Ref) + {value} + attrs.values := by
        rw [add_assoc, hvalues, add_assoc]

/-- What a new reference took the place of is given back. -/
theorem returns_replace {ref value : Ref} {s : Simulation} {held : Multiset Ref}
    {old new : Object} {previous : Option Ref} {result : α} (hget : s.heap.get? ref = some old)
    (hold : old ≠ .null) (hnew : new.Honest)
    (hmoved : (new.children : Multiset Ref) + previous.toList =
      (old.children : Multiset Ref) + {value})
    (hs : s.Sound ({value} + held)) :
    (store ref new >>= fun _ => releaseOld previous >>= fun _ => pure result).Returns s
      fun _ s' => s'.Sound held := by
  rw [Attempt.returns_bind]
  refine Attempt.returns_mono (fun _ s' hs' => ?_) (returns_store hget hold hnew hmoved hs)
  have hreleased : Keeps (previous.toList : List Ref)
      (releaseOld previous >>= fun _ => pure result) fun _ => 0 := by
    apply Keeps.bind (keeps_releaseOld previous)
    intro _
    exact Keeps.pure rfl
  refine Attempt.returns_mono (fun _ _ h => ?_) (hreleased s' held hs')
  rwa [zero_add] at h

theorem keeps_setAttr (ref : Ref) (name : String) (value : Ref) {held : Multiset Ref} :
    Keeps held (setAttr ref name value) fun _ => held := by
  intro s others hs
  unfold setAttr
  rw [Attempt.returns_bind]
  apply returns_access
  intro object hget
  cases hattrs : object.attrs? with
  | none => exact keeps_complaint ref _ _ _ s others hs
  | some attrs =>
      show (retain value >>= fun _ => _).Returns s _
      rw [Attempt.returns_bind]
      refine Attempt.returns_mono (fun _ s' h => ?_) (returns_retain value hs)
      rcases h with ⟨hs', hsame⟩
      rw [Attempt.returns_bind]
      apply returns_access
      intro found hfound
      rw [hsame, hget] at hfound
      cases hfound
      dsimp only
      rw [hattrs, Option.getD_some]
      exact returns_replace ((hsame ref).trans hget) (ne_null hattrs) (honest_withAttrs hattrs _)
        (children_insert hattrs name value) hs'

/-!
# Items
-/

theorem resolveIndex_lt {index : Int} {count position : Nat}
    (h : resolveIndex index count = some position) : position < count := by
  unfold resolveIndex at h
  rcases Option.ite_none_right_eq_some.1 h with ⟨hbounds, hposition⟩
  have := Option.some.inj hposition
  omega

theorem sum_singletons (refs : List Ref) :
    (refs.map fun ref => ({ref} : Multiset Ref)).sum = refs := by
  rw [← Multiset.sum_coe, ← Multiset.map_coe, Multiset.sum_map_singleton]

theorem coe_set {items : List Ref} {position : Nat} (h : position < items.length) (value : Ref) :
    ((items.set position value : List Ref) : Multiset Ref) + items[position]?.toList =
      (items : Multiset Ref) + {value} := by
  have hold : items[position]? = some items[position] := List.getElem?_eq_getElem h
  have hsum := Heap.sum_map_set (fun ref : Ref => ({ref} : Multiset Ref)) hold value
  rw [sum_singletons, sum_singletons] at hsum
  rw [hold]
  exact hsum

theorem keeps_getItem (ref key : Ref) {held : Multiset Ref} :
    Keeps held (getItem ref key) fun found => (found.toList : Multiset Ref) + held := by
  unfold getItem
  apply Keeps.bind (keeps_displayType ref)
  intro type
  apply keeps_access_bind
  intro keyObject _
  apply keeps_access_bind
  intro object _
  cases object with
  | tuple items | list items =>
      dsimp only
      cases keyObject.int? with
      | none => exact keeps_refusal _ _
      | some index =>
          dsimp only
          cases (resolveIndex index items.length).bind (items[·]?) with
          | some item => exact keeps_lend item
          | none => exact keeps_refusal _ _
  | bag attrs =>
      dsimp only
      cases keyObject.text?.bind attrs.find? with
      | some found => exact keeps_lend found
      | none => exact keeps_refusal _ _
  | _ => exact keeps_refusal _ _

theorem keeps_refuseItem (value : Ref) (kind message : String) {held : Multiset Ref} :
    Keeps ({value} + held) (release value >>= fun _ => failWith kind message false)
      fun _ => held := by
  apply Keeps.bind ((keeps_release value).frame held)
  intro _
  exact (keeps_failWith kind message false).of_eq (zero_add held) fun _ => rfl

/-- A value that does not get into its place is given back. -/
theorem keeps_setItem (ref key value : Ref) {held : Multiset Ref} :
    Keeps held (setItem ref key value) fun _ => held := by
  unfold setItem
  apply Keeps.bind (keeps_displayType ref)
  intro type
  apply keeps_access_bind
  intro keyObject _ s others hs
  rw [Attempt.returns_bind]
  refine Attempt.returns_mono (fun _ s' h => ?_) (returns_retain value hs)
  rcases h with ⟨hs', -⟩
  have hrefused : ∀ kind message, (release value >>= fun _ => failWith kind message false).Returns
      s' fun _ s'' => s''.Sound (held + others) := by
    intro kind message
    rw [← add_assoc] at hs'
    exact keeps_refuseItem value kind message s' others hs'
  dsimp only
  rw [Attempt.returns_bind]
  apply returns_access
  intro object hget
  cases object with
  | list items =>
      dsimp only
      cases hposition : keyObject.int?.bind (resolveIndex · items.length) with
      | none => exact hrefused _ _
      | some position =>
          rcases Option.bind_eq_some_iff.1 hposition with ⟨index, -, hindex⟩
          have hmoved := coe_set (resolveIndex_lt hindex) value
          have hlist : Object.Honest (.list (items.set position value)) := trivial
          exact returns_replace hget nofun hlist hmoved hs'
  | bag attrs =>
      dsimp only
      cases keyObject.text? with
      | none => exact hrefused _ _
      | some name =>
          have hattrs : (Object.bag attrs).attrs? = some attrs := rfl
          exact returns_replace hget (ne_null hattrs) (honest_withAttrs hattrs _)
            (children_insert hattrs name value) hs'
  | _ => exact hrefused _ _

/-!
# Calls

What a script does is kept in view by its honesty, up to the depth to which calls are nested.
-/

section Calls

variable {runScript : Script → Attempt Simulation (Option Ref)}

/-- Bodies of functions are run with their results owned, and nothing else. -/
def RunsHonestly (runScript : Script → Attempt Simulation (Option Ref)) : Prop :=
  ∀ body, HonestBody body → ∀ calls arguments,
    Keeps 0 (runScript (body calls arguments)) fun result => (result.toList : Multiset Ref)

theorem keeps_callFunction (hrun : RunsHonestly runScript) (function : Ref)
    {body : Nat → List Ref → Script} (hbody : HonestBody body) (arguments : List Ref)
    {held : Multiset Ref} :
    Keeps held (callFunction runScript function body arguments)
      fun result => (result.toList : Multiset Ref) + held := by
  unfold callFunction
  have hcounted : Keeps held
      (modify fun s : Simulation => { s with called := function :: s.called }) fun _ => held :=
    keeps_modify (fun _ => rfl) fun _ => rfl
  apply Keeps.bind hcounted
  intro _ s others hs
  rw [Attempt.returns_bind, Attempt.returns_get]
  exact (hrun body hbody _ arguments).quiet held s others hs

theorem returns_initialiserOf {attrs : Table Ref} {s : Simulation} {held : Multiset Ref}
    (hs : s.Sound held) :
    (initialiserOf attrs).Returns s fun found s' => s'.Sound held ∧
      ∀ initialiser, found = some initialiser → HonestBody initialiser.2 := by
  unfold initialiserOf
  cases attrs.find? "__init__" with
  | none => exact ⟨hs, fun _ h => by cases h⟩
  | some ref =>
      dsimp only
      rw [Attempt.returns_bind]
      apply returns_access
      intro object hget
      have hhonest := (hs.proper ref object hget).1
      cases object with
      | function name body =>
          refine ⟨hs, fun _ h => ?_⟩
          cases h
          exact hhonest
      | _ => exact ⟨hs, fun _ h => by cases h⟩

theorem keeps_instantiate (hrun : RunsHonestly runScript) (cls : Ref) (name : String)
    (attrs : Table Ref) (arguments : List Ref) {held : Multiset Ref} :
    Keeps held (instantiate runScript cls name attrs arguments)
      fun result => (result.toList : Multiset Ref) + held := by
  intro s others hs
  unfold instantiate
  rw [Attempt.returns_bind]
  refine Attempt.returns_mono (fun initialiser s' h => ?_) (returns_initialiserOf hs)
  rcases h with ⟨hs', hinitialiser⟩
  refine Keeps.bind (keeps_retain cls |>.quiet held) (fun _ => ?_) s' others hs'
  have hinstance : Object.Honest (.instanceOf cls .empty) := trivial
  apply Keeps.bind ((keeps_allocate _ hinstance).frame held)
  intro object
  cases initialiser with
  | none =>
      dsimp only
      split
      · exact Keeps.pure rfl
      · apply Keeps.bind ((keeps_release object).frame held)
        intro _
        exact (keeps_refusal _ _).of_eq (zero_add held) fun _ => rfl
  | some found =>
      rcases found with ⟨ref, body⟩
      dsimp only
      apply Keeps.bind (keeps_callFunction hrun ref (hinitialiser _ rfl) (object :: arguments))
      intro result
      cases result with
      | some result =>
          apply Keeps.bind ((keeps_release result).frame _)
          intro _
          exact Keeps.pure (zero_add _)
      | none =>
          refine Keeps.bind (((keeps_release object).frame held).of_eq (zero_add _) fun _ => rfl) ?_
          intro _
          exact Keeps.pure rfl

theorem keeps_call (hrun : RunsHonestly runScript) (callable arguments : Ref)
    {held : Multiset Ref} :
    Keeps held (call runScript callable arguments)
      fun result => (result.toList : Multiset Ref) + held := by
  have hnot : Keeps held
      (displayType callable >>= fun type =>
        failWith "TypeError" s!"'{type}' object is not callable" none)
      fun result : Option Ref => (result.toList : Multiset Ref) + held :=
    keeps_refusalOf callable _ _
  unfold call
  dsimp only
  apply keeps_access_bind
  intro sequence _
  cases sequence.items? with
  | none => exact keeps_refusal _ _
  | some items =>
      apply keeps_access_bind
      intro object hobject
      cases object with
      | function name body => exact keeps_callFunction hrun callable hobject items
      | boundMethod receiver function =>
          apply keeps_access_bind
          intro target htarget
          cases target with
          | function name body =>
              exact keeps_callFunction hrun function htarget (receiver :: items)
          | _ => exact hnot
      | classOf name attrs => exact keeps_instantiate hrun callable name attrs items
      | _ => exact hnot

/-!
# Requests and operations
-/

theorem keeps_newTuple (items : List Ref) :
    Keeps 0 (items.forM retain >>= fun _ => allocate (.tuple items) >>= fun ref => pure (some ref))
      fun found => (found.toList : Multiset Ref) := by
  have hretained : Keeps 0 (items.forM retain) fun _ => (items : Multiset Ref) :=
    (Keeps.forM keeps_retain items).of_eq rfl fun _ => sum_singletons items
  apply Keeps.bind hretained
  intro _
  have htuple : Object.Honest (.tuple items) := trivial
  apply Keeps.bind (keeps_allocate _ htuple)
  intro ref
  exact Keeps.pure rfl

theorem keeps_allocate_some {object : Object} (hobject : object.Honest)
    (hchildren : object.children = []) :
    Keeps 0 (allocate object >>= fun ref => pure (some ref))
      fun found => (found.toList : Multiset Ref) := by
  apply Keeps.bind ((keeps_allocate object hobject).of_eq (by rw [hchildren]; rfl) fun _ => rfl)
  intro ref
  exact Keeps.pure rfl

theorem keeps_takeError : Keeps 0 (serve runScript .takeError) fun _ => 0 := by
  intro s held hs
  exact ⟨hs.balanced, hs.proper⟩

theorem keeps_serve (hrun : RunsHonestly runScript) (r : Request) :
    Keeps (r.returned.toList : List Ref) (serve runScript r)
      fun answer => (r.acquired answer : List Ref) := by
  cases r with
  | kindOf ref => exact keeps_look ref _
  | numericKind ref => exact keeps_look ref _
  | isCallable ref => exact keeps_look ref _
  | supportsIndexing ref => exact keeps_look ref _
  | boolValue ref => exact keeps_look ref _
  | typeName ref => exact Keeps.bind (keeps_typeName ref) fun _ => Keeps.pure rfl
  | memberNames ref => exact Keeps.bind (keeps_memberNames ref) fun _ => Keeps.pure rfl
  | intValue ref => exact keeps_intValue ref
  | floatValue ref => exact keeps_floatValue ref
  | stringBytes ref => exact keeps_stringBytes ref
  | sequenceLength ref => exact keeps_sequenceLength ref
  | sequenceItem ref index => exact (keeps_sequenceItem ref index).of_eq rfl fun _ => add_zero _
  | null => exact Keeps.bind (keeps_retain nullRef) fun _ => Keeps.pure rfl
  | newScalar value =>
      cases value with
      | bool b | int i | real x => exact keeps_allocate_some trivial rfl
  | newString text => exact keeps_allocate_some trivial rfl
  | newTuple items => exact keeps_newTuple items
  | importModule name => exact (keeps_importModule name).of_eq rfl fun _ => add_zero _
  | getAttr ref name => exact (keeps_getAttr ref name).of_eq rfl fun _ => add_zero _
  | setAttr ref name value => exact keeps_setAttr ref name value
  | call callable arguments =>
      exact (keeps_call hrun callable arguments).of_eq rfl fun _ => add_zero _
  | getItem ref key => exact (keeps_getItem ref key).of_eq rfl fun _ => add_zero _
  | setItem ref key value => exact keeps_setItem ref key value
  | retain ref => exact keeps_retain ref
  | release ref => exact keeps_release ref
  | errorPending => exact fun s held hs => hs
  | takeError => exact keeps_takeError

theorem keeps_requireRunning (operation : String) {held : Multiset Ref} :
    Keeps held (requireRunning operation) fun _ => held := by
  intro s others hs
  unfold requireRunning
  rw [Attempt.returns_bind, Attempt.returns_get]
  cases s.phase with
  | running => exact hs
  | fresh | stopped => exact Attempt.returns_throw

theorem keeps_answer (hrun : RunsHonestly runScript) (r : Request) :
    Keeps (r.returned.toList : List Ref) (answer runScript r)
      fun answer => (r.acquired answer : List Ref) :=
  Keeps.bind (keeps_requireRunning r.method) fun _ => keeps_serve hrun r

theorem keeps_designated (designation : Designation) {held : Multiset Ref} :
    Keeps held (designated designation) fun _ => held := by
  cases designation with
  | number id => exact Keeps.pure rfl
  | name text => exact fun s others hs => hs

theorem keeps_perform (hrun : RunsHonestly runScript) {op : Op} (hnames : op.WellNamed) :
    Keeps (op.consumed : List Ref) (perform runScript op)
      fun answer => (op.acquired answer : List Ref) := by
  cases op with
  | request r => exact keeps_answer hrun r
  | newInt value => exact keeps_allocate (.int value none) trivial
  | newFloat x => exact keeps_allocate (.float x none) trivial
  | newBool b => exact keeps_allocate (.bool b) trivial
  | newBytes bytes => exact keeps_allocate (.bytes bytes) trivial
  | newText text => exact keeps_allocate (.text text) trivial
  | newUnits units => exact keeps_allocate (.units units) trivial
  | newTuple items => exact keeps_allocate (.tuple items) trivial
  | newList items => exact keeps_allocate (.list items) trivial
  | newBag entries =>
      have hvalues := Table.values_ofList hnames
      exact (keeps_allocate (.bag (.ofList entries)) trivial).of_eq hvalues.symm fun _ => rfl
  | newClass name entries =>
      have hvalues := Table.values_ofList hnames
      exact (keeps_allocate (.classOf name (.ofList entries)) trivial).of_eq hvalues.symm
        fun _ => rfl
  | registerModule name entries => exact keeps_registerModule name hnames
  | raise diagnostic => exact keeps_raise diagnostic.kind diagnostic.message
  | retain ref => exact keeps_retain ref
  | release ref => exact keeps_release ref
  | kind ref => exact keeps_look ref _
  | attr ref name => exact keeps_attr ref name
  | items ref => exact keeps_look ref _
  | intOf ref => exact keeps_look ref _
  | floatOf ref => exact keeps_look ref _
  | boolOf ref => exact keeps_look ref _
  | textOf ref => exact keeps_look ref _
  | scalarKind ref => exact keeps_look ref _
  | designated designation => exact keeps_designated designation

end Calls

/-!
# Scripts
-/

theorem keeps_newFunction (name : String) {body : Nat → List Ref → Script}
    (hbody : HonestBody body) : Keeps 0 (allocate (.function name body)) fun ref => {ref} := by
  have hfunction : Object.Honest (.function name body) := hbody
  exact keeps_allocate _ hfunction

/-- An honest script keeps the runtime sound, by induction on it. -/
theorem returns_runWith {depth : Nat} (hrun : RunsHonestly (run depth)) {script : Script}
    {s : Simulation} {owned held : Multiset Ref} (hscript : script.Honest depth s owned)
    (hs : s.Sound (owned + held)) :
    (runWith (perform (run depth)) script).Returns s fun result s' =>
      s'.Sound ((result.toList : Multiset Ref) + held) := by
  induction script generalizing s owned with
  | done result =>
      unfold Script.Honest at hscript
      rw [hscript] at hs
      exact hs
  | perform op next ih =>
      rcases hscript with ⟨hconsumed, hnames, hnext⟩
      have hparts : owned + held = op.consumed + (owned - op.consumed + held) := by
        rw [← add_assoc, add_tsub_cancel_of_le hconsumed]
      rw [hparts] at hs
      have hkept := keeps_perform hrun hnames s _ hs
      show (perform (run depth) op >>= fun answer => _).Returns s _
      rw [Attempt.returns_bind]
      refine Attempt.returns_mono (fun answer s' h => ?_) (Attempt.returns_and hnext hkept)
      rcases h with ⟨hnext', hs'⟩
      rw [← add_assoc] at hs'
      exact ih answer hnext' hs'
  | newFunction name body next _ ih =>
      rcases hscript with ⟨hbody, hnext⟩
      have hkept := (keeps_newFunction name hbody).quiet owned s held hs
      show (allocate (.function name body) >>= fun ref => _).Returns s _
      rw [Attempt.returns_bind]
      refine Attempt.returns_mono (fun ref s' h => ?_) (Attempt.returns_and hnext hkept)
      exact ih ref h.1 h.2

/-- Functions with honest bodies are called honestly, by induction on the depth of the calls. -/
theorem runsHonestly_run (depth : Nat) : RunsHonestly (run depth) := by
  induction depth with
  | zero => exact fun _ _ _ _ => Keeps.throw
  | succ depth ih =>
      intro body hbody calls arguments s held hs
      exact returns_runWith ih (hbody depth calls arguments s) hs

end Simulation
end ForeignBridge
