import ForeignBridge.Proofs.Crossing.Abstinence
import ForeignBridge.Proofs.Crossing.Custody
import ForeignBridge.Proofs.Simulation.Undoing

/-!
# Requests that do not panic

A running runtime is asked about objects that somebody holds.  It answers: no object that it reaches is
dead, and none is given back more often than it was acquired.  Functions may do as they like, if they
are from a library of functions that return whenever their arguments last as long as the call.
-/

namespace ForeignBridge
namespace Attempt

variable {σ α β : Type}

/-- A computation returns, and that as wanted. -/
def Delivers (attempt : Attempt σ α) (s : σ) (post : α → σ → Prop) : Prop :=
  attempt.Meets s post fun _ _ => False

variable {s : σ}

theorem delivers_of_outcome {attempt : Attempt σ α} {a : α} {s' : σ} {post : α → σ → Prop}
    (houtcome : attempt.outcome s = (.ok a, s')) (hpost : post a s') : attempt.Delivers s post := by
  unfold Delivers Meets
  rw [houtcome]
  exact hpost

theorem exists_of_delivers {attempt : Attempt σ α} {post : α → σ → Prop}
    (h : attempt.Delivers s post) : ∃ a s', attempt.outcome s = (.ok a, s') ∧ post a s' := by
  unfold Delivers Meets at h
  rcases houtcome : attempt.outcome s with ⟨outcome, s'⟩
  rw [houtcome] at h
  cases outcome with
  | ok a => exact ⟨a, s', rfl, h⟩
  | error panic => exact h.elim

theorem delivers_bind {attempt : Attempt σ α} {f : α → Attempt σ β} {post : β → σ → Prop} :
    (attempt >>= f).Delivers s post ↔ attempt.Delivers s fun a s' => (f a).Delivers s' post :=
  meets_bind

theorem delivers_mono {attempt : Attempt σ α} {post post' : α → σ → Prop}
    (himp : ∀ a s', post a s' → post' a s') (h : attempt.Delivers s post) :
    attempt.Delivers s post' := meets_mono himp (fun _ _ h => h) h

theorem delivers_and {attempt : Attempt σ α} {post post' : α → σ → Prop}
    (h : attempt.Delivers s post) (h' : attempt.Returns s post') :
    attempt.Delivers s fun a s' => post a s' ∧ post' a s' := by
  rcases exists_of_delivers h with ⟨a, s', houtcome, hpost⟩
  exact delivers_of_outcome houtcome ⟨hpost, returns_of_outcome h' houtcome⟩

theorem of_delivers {attempt : Attempt σ α} {post : α → σ → Prop} {a : α} {s' : σ}
    (h : attempt.Delivers s post) (houtcome : attempt.outcome s = (.ok a, s')) : post a s' := by
  unfold Delivers Meets at h
  rw [houtcome] at h
  exact h

end Attempt

namespace Simulation

open Attempt

variable {α : Type}

/-- An object is no function, or one of a library. -/
def Object.Of (library : (Nat → List Ref → Script) → Prop) : Object → Prop
  | function _ body => library body
  | _ => True

/-- All functions of a runtime are of a library. -/
def Uses (library : (Nat → List Ref → Script) → Prop) (s : Simulation) : Prop :=
  s.heap.Every fun _ object => object.Of library

/-- A reference that is held, or is inside an object that is held. -/
def Pinned (s : Simulation) (held : Multiset Ref) (ref : Ref) : Prop :=
  ref ∈ held ∨ ∃ holder ∈ held, ∃ object, s.heap.get? holder = some object ∧ ref ∈ object.children

/-- The functions of a library return in every sound runtime that runs and has no other functions, if
the caller pins their arguments.  They write only functions of the library. -/
def Dependable (depth : Nat) (library : (Nat → List Ref → Script) → Prop) : Prop :=
  ∀ body, library body → ∀ calls arguments s held, s.Sound held → s.phase = .running →
    s.Uses library → (∀ argument ∈ arguments, s.Pinned held argument) →
    (run depth (body calls arguments)).Delivers s fun _ s' => s'.Uses library

/-- A sound runtime that runs and has only functions of a library. -/
structure Works (library : (Nat → List Ref → Script) → Prop) (s : Simulation) (held : Multiset Ref) :
    Prop where
  sound : s.Sound held
  running : s.phase = .running
  uses : s.Uses library

variable {library : (Nat → List Ref → Script) → Prop} {s : Simulation} {held : Multiset Ref}

namespace Works

theorem exists_get? (hw : s.Works library held) {ref : Ref} (href : ref ∈ held) :
    ∃ object, s.heap.get? ref = some object :=
  Simulation.exists_get? hw.sound.balanced
    (Multiset.mem_add.2 (.inr (Multiset.mem_add.2 (.inr href))))

theorem exists_child (hw : s.Works library held) {ref child : Ref} {object : Object}
    (hget : s.heap.get? ref = some object) (hchild : child ∈ object.children) :
    ∃ found, s.heap.get? child = some found :=
  Simulation.exists_child hw.sound.balanced hget hchild

theorem exists_module (hw : s.Works library held) {name : String} {ref : Ref}
    (hfound : s.modules.find? name = some ref) : ∃ object, s.heap.get? ref = some object := by
  have hroot : ref ∈ s.roots := Multiset.mem_add.2 (.inr (Table.mem_values_of_find? hfound))
  exact Simulation.exists_get? hw.sound.balanced
    (Multiset.mem_add.2 (.inr (Multiset.mem_add.2 (.inl hroot))))

theorem exists_null (hw : s.Works library held) : ∃ object, s.heap.get? nullRef = some object :=
  Simulation.exists_get? hw.sound.balanced
    (Multiset.mem_add.2 (.inr (Multiset.mem_add.2 (.inl s.nullRef_mem_roots))))

theorem of_eq {held' : Multiset Ref} (hw : s.Works library held) (heq : held = held') :
    s.Works library held' := heq ▸ hw

theorem none (hw : s.Works library held) :
    s.Works library (((Option.none : Option Ref).toList : Multiset Ref) + held) :=
  hw.of_eq (zero_add held).symm

theorem report (hw : s.Works library held) (diagnostic : Option Diagnostic) :
    Works library { s with pending := diagnostic } held :=
  ⟨⟨hw.sound.balanced, hw.sound.proper⟩, hw.running, hw.uses⟩

theorem count (hw : s.Works library held) (function : Ref) :
    Works library { s with called := function :: s.called } held :=
  ⟨⟨hw.sound.balanced, hw.sound.proper⟩, hw.running, hw.uses⟩

end Works

/-!
# Steps
-/

theorem delivers_access_bind {ref : Ref} {object : Object} (hget : s.heap.get? ref = some object)
    {f : Object → Attempt Simulation α} {post : α → Simulation → Prop} :
    (access ref >>= f).Delivers s post ↔ (f object).Delivers s post := by
  have houtcome : (access ref >>= f).outcome (s.withHeap s.heap) =
      (f object).outcome (s.withHeap s.heap) := outcome_access_bind hget f
  unfold Delivers Meets
  rw [show s = s.withHeap s.heap from rfl, houtcome]

theorem delivers_look {ref : Ref} {object : Object} (hget : s.heap.get? ref = some object)
    (f : Object → α) :
    (access ref >>= fun found => pure (f found)).Delivers s fun a s' => a = f object ∧ s' = s := by
  rw [delivers_access_bind hget]
  exact ⟨rfl, rfl⟩

theorem delivers_displayType (hw : s.Works library held) {ref : Ref} {object : Object}
    (hget : s.heap.get? ref = some object) : (displayType ref).Delivers s fun _ s' => s' = s := by
  have hnamed : ∃ name, (displayType ref).outcome (s.withHeap s.heap) = (.ok name, s.withHeap s.heap) :=
    exists_displayType hw.sound.balanced hget
  rcases hnamed with ⟨name, houtcome⟩
  exact delivers_of_outcome houtcome rfl

theorem delivers_typeName (hw : s.Works library held) {ref : Ref} {object : Object}
    (hget : s.heap.get? ref = some object) : (typeName ref).Delivers s fun _ s' => s' = s := by
  have hnamed : ∃ name, (typeName ref).outcome (s.withHeap s.heap) = (.ok name, s.withHeap s.heap) :=
    exists_typeName hw.sound.balanced hget
  rcases hnamed with ⟨name, houtcome⟩
  exact delivers_of_outcome houtcome rfl

theorem delivers_failWith (hw : s.Works library held) (kind message : String) (sentinel : α) :
    (failWith kind message sentinel).Delivers s fun a s' => a = sentinel ∧ s'.Works library held :=
  ⟨rfl, hw.report _⟩

/-- A complaint that names the type of an object. -/
theorem delivers_complaint (hw : s.Works library held) {ref : Ref} {object : Object}
    (hget : s.heap.get? ref = some object) (kind : String) (message : String → String)
    (sentinel : α) :
    (displayType ref >>= fun type => failWith kind (message type) sentinel).Delivers s
      fun a s' => a = sentinel ∧ s'.Works library held := by
  rw [delivers_bind]
  refine delivers_mono (fun type s' hsame => ?_) (delivers_displayType hw hget)
  rw [hsame]
  exact delivers_failWith hw kind (message type) sentinel

theorem delivers_retain (hw : s.Works library held) {ref : Ref} {object : Object}
    (hget : s.heap.get? ref = some object) :
    (retain ref).Delivers s fun _ s' =>
      s'.Works library ({ref} + held) ∧ ∀ other, s'.heap.get? other = s.heap.get? other := by
  rcases Option.map_eq_some_iff.1 hget with ⟨slot, hslot, -⟩
  have hretain : s.heap.retain? ref =
      some (s.heap.setSlot ref (some ⟨slot.owners + 1, slot.content, Nat.succ_pos _⟩)) := by
    unfold Heap.retain?
    rw [hslot]
    rfl
  have houtcome : (retain ref).outcome (s.withHeap s.heap) = _ := outcome_retain hretain
  refine delivers_of_outcome houtcome ⟨⟨?_, hw.running, hw.uses.retain hretain⟩,
    fun other => Heap.get?_retain hretain other⟩
  exact (returns_of_outcome (returns_retain ref hw.sound) houtcome).1

/-- A reference to an object that something else owns. -/
theorem delivers_lend (hw : s.Works library held) {ref : Ref} {object : Object}
    (hget : s.heap.get? ref = some object) :
    (lend ref).Delivers s fun found s' =>
      s'.Works library ((found.toList : Multiset Ref) + held) := by
  unfold lend
  rw [delivers_bind]
  exact delivers_mono (fun _ s' h => h.1) (delivers_retain hw hget)

theorem delivers_allocate {object : Object}
    (hw : s.Works library ((object.children : List Ref) + held)) (hhonest : object.Honest)
    (hof : object.Of library) :
    (allocate object).Delivers s fun ref s' =>
      s'.Works library ({ref} + held) ∧
        ∀ other found, s.heap.get? other = some found → s'.heap.get? other = some found := by
  have houtcome : (allocate object).outcome s =
      (.ok (s.heap.allocate object).1, { s with heap := (s.heap.allocate object).2 }) := rfl
  have hsound := returns_of_outcome (keeps_allocate object hhonest s held hw.sound) houtcome
  exact delivers_of_outcome houtcome
    ⟨⟨hsound, hw.running, hw.uses.allocate hof⟩,
      fun _ _ hget => Heap.get?_allocate_of_get? hget object⟩

theorem delivers_release {ref : Ref} (hw : s.Works library ({ref} + held)) :
    (release ref).Delivers s fun _ s' => s'.Works library held := by
  have houtcome := outcome_release hw.sound
  refine delivers_of_outcome houtcome ⟨?_, hw.running, hw.uses.releaseAll [ref]⟩
  have hsound := returns_of_outcome (keeps_release ref s held hw.sound) houtcome
  rw [zero_add] at hsound
  exact hsound

theorem delivers_releaseOld {old : Option Ref}
    (hw : s.Works library ((old.toList : Multiset Ref) + held)) :
    (releaseOld old).Delivers s fun _ s' => s'.Works library held := by
  cases old with
  | some previous => exact delivers_release hw
  | none => exact hw.of_eq (zero_add held)

/-- New content takes over a reference that was acquired for it, and gives the old one back. -/
theorem delivers_replace {ref value : Ref} {old new : Object} {previous : Option Ref}
    (hget : s.heap.get? ref = some old) (hold : old ≠ .null) (hhonest : new.Honest)
    (hof : new.Of library)
    (hmoved : (new.children : Multiset Ref) + previous.toList =
      (old.children : Multiset Ref) + {value})
    (hw : s.Works library ({value} + held)) (result : α) :
    (store ref new >>= fun _ => releaseOld previous >>= fun _ => pure result).Delivers s
      fun a s' => a = result ∧ s'.Works library held := by
  have houtcome : (store ref new).outcome s =
      (.ok ⟨⟩, { s with heap := s.heap.setContent ref new }) := rfl
  have hsound := returns_of_outcome (returns_store hget hold hhonest hmoved hw.sound) houtcome
  have hstored : Works library { s with heap := s.heap.setContent ref new }
      ((previous.toList : Multiset Ref) + held) := ⟨hsound, hw.running, hw.uses.setContent hof⟩
  rw [delivers_bind]
  refine delivers_of_outcome houtcome ?_
  rw [delivers_bind]
  exact delivers_mono (fun _ s' hw' => ⟨rfl, hw'⟩) (delivers_releaseOld hstored)

/-!
# Requests that look
-/

theorem delivers_memberNames (hw : s.Works library held) {ref : Ref} {object : Object}
    (hget : s.heap.get? ref = some object) : (memberNames ref).Delivers s fun _ s' => s' = s := by
  unfold memberNames
  rw [delivers_access_bind hget]
  dsimp only
  cases hclass : object.class? with
  | none => exact rfl
  | some cls =>
      rcases hw.exists_child hget (class_mem_children hclass) with ⟨found, hfound⟩
      exact delivers_mono (fun _ _ h => h.2) (delivers_look hfound _)

theorem delivers_intValue (hw : s.Works library held) {ref : Ref} {object : Object}
    (hget : s.heap.get? ref = some object) :
    (intValue ref).Delivers s fun _ s' => s'.Works library held := by
  unfold intValue
  rw [delivers_access_bind hget]
  cases object with
  | int _ _ | bool _ => exact hw
  | _ => exact delivers_mono (fun _ _ h => h.2) (delivers_complaint hw hget _ _ _)

theorem delivers_floatValue (hw : s.Works library held) {ref : Ref} {object : Object}
    (hget : s.heap.get? ref = some object) :
    (floatValue ref).Delivers s fun _ s' => s'.Works library held := by
  unfold floatValue
  rw [delivers_access_bind hget]
  cases object with
  | float _ _ | int _ _ | bool _ => exact hw
  | _ => exact delivers_mono (fun _ _ h => h.2) (delivers_complaint hw hget _ _ _)

theorem delivers_stringBytes (hw : s.Works library held) {ref : Ref} {object : Object}
    (hget : s.heap.get? ref = some object) :
    (stringBytes ref).Delivers s fun _ s' => s'.Works library held := by
  unfold stringBytes
  rw [delivers_access_bind hget]
  cases object with
  | bytes _ | text _ => exact hw
  | units codes =>
      dsimp only
      cases Utf16.decode? codes with
      | some _ => exact hw
      | none => exact hw.report _
  | _ => exact delivers_mono (fun _ _ h => h.2) (delivers_complaint hw hget _ _ _)

theorem delivers_sequenceLength (hw : s.Works library held) {ref : Ref} {object : Object}
    (hget : s.heap.get? ref = some object) :
    (sequenceLength ref).Delivers s fun _ s' => s'.Works library held := by
  unfold sequenceLength
  rw [delivers_access_bind hget]
  cases object.items? with
  | some _ => exact hw
  | none => exact delivers_mono (fun _ _ h => h.2) (delivers_complaint hw hget _ _ _)

/-- A refusal is no reference. -/
theorem delivers_refusal (hw : s.Works library held) {ref : Ref} {object : Object}
    (hget : s.heap.get? ref = some object) (kind : String) (message : String → String) :
    (displayType ref >>= fun type => failWith kind (message type) (none : Option Ref)).Delivers s
      fun found s' => s'.Works library ((found.toList : Multiset Ref) + held) := by
  refine delivers_mono (fun found s' h => ?_) (delivers_complaint hw hget kind message none)
  rw [h.1]
  exact h.2.none

theorem delivers_sequenceItem (hw : s.Works library held) {ref : Ref} {object : Object}
    (hget : s.heap.get? ref = some object) (index : Nat) :
    (sequenceItem ref index).Delivers s fun found s' =>
      s'.Works library ((found.toList : Multiset Ref) + held) := by
  unfold sequenceItem
  rw [delivers_access_bind hget]
  cases hitem : object.items?.bind (·[index]?) with
  | none => exact delivers_refusal hw hget _ _
  | some item =>
      rcases Option.bind_eq_some_iff.1 hitem with ⟨items, hitems, hindex⟩
      have hchild : item ∈ object.children := by
        rw [children_of_items hitems]
        exact List.mem_of_getElem? hindex
      rcases hw.exists_child hget hchild with ⟨found, hfound⟩
      exact delivers_lend hw hfound

theorem delivers_importModule (hw : s.Works library held) (name : String) :
    (importModule name).Delivers s fun found s' =>
      s'.Works library ((found.toList : Multiset Ref) + held) := by
  have hget : (get : Attempt Simulation Simulation).outcome s = (.ok s, s) := rfl
  unfold importModule
  rw [delivers_bind]
  refine delivers_of_outcome hget ?_
  cases hfound : s.modules.find? name with
  | none => exact (hw.report _).none
  | some found =>
      rcases hw.exists_module hfound with ⟨object, hget⟩
      exact delivers_lend hw hget

/-- A method is bound to an object that is there. -/
theorem delivers_bindMethod (hw : s.Works library held) {receiver function : Ref}
    {object target : Object} (hreceiver : s.heap.get? receiver = some object)
    (hfunction : s.heap.get? function = some target) :
    (retain receiver >>= fun _ => retain function >>= fun _ =>
      allocate (.boundMethod receiver function) >>= fun ref => pure (some ref)).Delivers s
      fun found s' => s'.Works library ((found.toList : Multiset Ref) + held) := by
  rw [delivers_bind]
  refine delivers_mono (fun _ s' h => ?_) (delivers_retain hw hreceiver)
  rcases h with ⟨hw', hsame⟩
  have hfunction' : s'.heap.get? function = some target := (hsame function).trans hfunction
  rw [delivers_bind]
  refine delivers_mono (fun _ s'' h => ?_) (delivers_retain hw' hfunction')
  have hchildren : ({function} : Multiset Ref) + ({receiver} + held) =
      ((Object.boundMethod receiver function).children : List Ref) + held := by
    rw [← add_assoc, add_comm ({function} : Multiset Ref)]
    rfl
  rw [delivers_bind]
  exact delivers_mono (fun _ _ h => h.1) (delivers_allocate (h.1.of_eq hchildren) trivial trivial)

theorem delivers_getAttr (hw : s.Works library held) {ref : Ref} {object : Object}
    (hget : s.heap.get? ref = some object) (name : String) :
    (getAttr ref name).Delivers s fun found s' =>
      s'.Works library ((found.toList : Multiset Ref) + held) := by
  unfold getAttr
  rw [delivers_access_bind hget]
  cases hown : object.attrs?.bind (·.find? name) with
  | some own =>
      rcases hw.exists_child hget (mem_children_of_find? hown) with ⟨found, hfound⟩
      exact delivers_lend hw hfound
  | none =>
      dsimp only
      unfold classAttr
      cases hclass : object.class? with
      | none => exact delivers_refusal hw hget _ _
      | some cls =>
          rcases hw.exists_child hget (class_mem_children hclass) with ⟨kind, hkind⟩
          unfold attr
          rw [delivers_bind]
          refine delivers_mono (fun inherited s' h => ?_) (delivers_look hkind _)
          rw [h.1, h.2]
          cases hinherited : kind.attrs?.bind (·.find? name) with
          | none => exact delivers_refusal hw hget _ _
          | some found =>
              rcases hw.exists_child hkind (mem_children_of_find? hinherited) with ⟨target, htarget⟩
              dsimp only
              rw [delivers_access_bind htarget]
              cases target with
              | function _ _ => exact delivers_bindMethod hw hget htarget
              | _ => exact delivers_lend hw htarget

theorem delivers_getItem (hw : s.Works library held) {ref key : Ref} {object keyObject : Object}
    (hget : s.heap.get? ref = some object) (hkey : s.heap.get? key = some keyObject) :
    (getItem ref key).Delivers s fun found s' =>
      s'.Works library ((found.toList : Multiset Ref) + held) := by
  have hfails : ∀ kind message, (failWith kind message (none : Option Ref)).Delivers s
      fun found s' => s'.Works library ((found.toList : Multiset Ref) + held) :=
    fun kind message => (hw.report _).none
  unfold getItem
  rw [delivers_bind]
  refine delivers_mono (fun type s' hsame => ?_) (delivers_displayType hw hget)
  rw [hsame, delivers_access_bind hkey, delivers_access_bind hget]
  cases object with
  | tuple items | list items =>
      dsimp only
      cases keyObject.int? with
      | none => exact hfails _ _
      | some index =>
          dsimp only
          cases hitem : (resolveIndex index items.length).bind (items[·]?) with
          | none => exact hfails _ _
          | some item =>
              rcases Option.bind_eq_some_iff.1 hitem with ⟨position, -, hposition⟩
              rcases hw.exists_child hget (List.mem_of_getElem? hposition) with ⟨found, hfound⟩
              exact delivers_lend hw hfound
  | bag attrs =>
      dsimp only
      cases hname : keyObject.text?.bind attrs.find? with
      | none => exact hfails _ _
      | some item =>
          rcases Option.bind_eq_some_iff.1 hname with ⟨name, -, hvalue⟩
          rcases hw.exists_child hget (Table.mem_values_of_find? hvalue) with ⟨found, hfound⟩
          exact delivers_lend hw hfound
  | _ => exact hfails _ _

/-!
# Requests that write
-/

theorem delivers_setAttr (hw : s.Works library held) {ref value : Ref} {object content : Object}
    (hget : s.heap.get? ref = some object) (hvalue : s.heap.get? value = some content)
    (name : String) :
    (setAttr ref name value).Delivers s fun _ s' => s'.Works library held := by
  unfold setAttr
  rw [delivers_access_bind hget]
  cases hattrs : object.attrs? with
  | none => exact delivers_mono (fun _ _ h => h.2) (delivers_complaint hw hget _ _ _)
  | some attrs =>
      dsimp only
      rw [delivers_bind]
      refine delivers_mono (fun _ s' h => ?_) (delivers_retain hw hvalue)
      rcases h with ⟨hw', hsame⟩
      have hget' : s'.heap.get? ref = some object := (hsame ref).trans hget
      rw [delivers_access_bind hget', hattrs]
      have hof : (object.withAttrs (attrs.insert name value)).Of library := by
        cases object with
        | bag _ | moduleOf _ _ | classOf _ _ | instanceOf _ _ => trivial
        | _ => cases hattrs
      exact delivers_mono (fun _ _ h => h.2) (delivers_replace hget' (ne_null hattrs)
        (honest_withAttrs hattrs _) hof (children_insert hattrs name value) hw' true)

theorem delivers_setItem (hw : s.Works library held) {ref key value : Ref}
    {object keyObject content : Object} (hget : s.heap.get? ref = some object)
    (hkey : s.heap.get? key = some keyObject) (hvalue : s.heap.get? value = some content) :
    (setItem ref key value).Delivers s fun _ s' => s'.Works library held := by
  unfold setItem
  rw [delivers_bind]
  refine delivers_mono (fun type s₁ hsame => ?_) (delivers_displayType hw hget)
  rw [hsame, delivers_access_bind hkey, delivers_bind]
  refine delivers_mono (fun _ s' h => ?_) (delivers_retain hw hvalue)
  rcases h with ⟨hw', hcontents⟩
  have hget' : s'.heap.get? ref = some object := (hcontents ref).trans hget
  have hrefused : ∀ kind message, (release value >>= fun _ =>
      failWith kind message false).Delivers s' fun _ s'' => s''.Works library held := by
    intro kind message
    rw [delivers_bind]
    exact delivers_mono (fun _ s'' hw'' => hw''.report _) (delivers_release hw')
  dsimp only
  rw [delivers_access_bind hget']
  cases object with
  | list items =>
      dsimp only
      cases hposition : keyObject.int?.bind (resolveIndex · items.length) with
      | none => exact hrefused _ _
      | some position =>
          rcases Option.bind_eq_some_iff.1 hposition with ⟨index, -, hindex⟩
          have hmoved := coe_set (resolveIndex_lt hindex) value
          have hlist : Object.Honest (.list (items.set position value)) := trivial
          have hof : Object.Of library (.list (items.set position value)) := trivial
          exact delivers_mono (fun _ _ h => h.2)
            (delivers_replace hget' nofun hlist hof hmoved hw' true)
  | bag attrs =>
      dsimp only
      cases keyObject.text? with
      | none => exact hrefused _ _
      | some name =>
          have hattrs : (Object.bag attrs).attrs? = some attrs := rfl
          have hof : Object.Of library (.bag (attrs.insert name value)) := trivial
          exact delivers_mono (fun _ _ h => h.2) (delivers_replace hget' (ne_null hattrs)
            (honest_withAttrs hattrs _) hof (children_insert hattrs name value) hw' true)
  | _ => exact hrefused _ _

/-!
# Calls
-/

variable {depth : Nat}

theorem Pinned.mono {s' : Simulation} {held' : Multiset Ref} {ref : Ref} (h : s.Pinned held ref)
    (hheld : held ≤ held')
    (hkeeps : ∀ other object, s.heap.get? other = some object → s'.heap.get? other = some object) :
    s'.Pinned held' ref := by
  rcases h with href | ⟨holder, hholder, object, hget, hchild⟩
  · exact .inl (Multiset.mem_of_le hheld href)
  · exact .inr ⟨holder, Multiset.mem_of_le hheld hholder, object, hkeeps holder object hget, hchild⟩

theorem delivers_callFunction (hlibrary : Dependable depth library) (hw : s.Works library held)
    (function : Ref) {body : Nat → List Ref → Script} (hbody : library body)
    (hhonest : HonestBody body) {arguments : List Ref}
    (harguments : ∀ argument ∈ arguments, s.Pinned held argument) :
    (callFunction (run depth) function body arguments).Delivers s fun found s' =>
      s'.Works library ((found.toList : Multiset Ref) + held) := by
  let calls := (function :: s.called).count function
  have hcounted := hw.count function
  have hsound := hcounted.sound
  rw [← zero_add held] at hsound
  show (run depth (body calls arguments)).Delivers { s with called := function :: s.called } _
  have hreturns := hlibrary body hbody calls arguments _ held hcounted.sound hcounted.running
    hcounted.uses harguments
  have hkeeps := runsHonestly_run depth body hhonest calls arguments _ held hsound
  have hlasting := lasting_life (show (life { s with called := function :: s.called }).1 = .running
    from hcounted.running)
  have hlife := (upholds_run hlasting depth (body calls arguments)).returns rfl
  refine delivers_mono (fun found s' h => ?_) (delivers_and (delivers_and hreturns hkeeps) hlife)
  rcases h with ⟨⟨huses, hs'⟩, hphase⟩
  exact ⟨hs', (congrArg Prod.fst hphase).trans hcounted.running, huses⟩

theorem delivers_initialiserOf (hw : s.Works library held) {cls : Ref} {name : String}
    {attrs : Table Ref} (hget : s.heap.get? cls = some (.classOf name attrs)) :
    (initialiserOf attrs).Delivers s fun found s' => s' = s ∧
      ∀ initialiser, found = some initialiser →
        library initialiser.2 ∧ HonestBody initialiser.2 := by
  unfold initialiserOf
  cases hfound : attrs.find? "__init__" with
  | none => exact ⟨rfl, nofun⟩
  | some ref =>
      rcases hw.exists_child hget (Table.mem_values_of_find? hfound) with ⟨object, hobject⟩
      dsimp only
      rw [delivers_access_bind hobject]
      cases object with
      | function name body =>
          refine ⟨rfl, fun initialiser h => ?_⟩
          cases h
          exact ⟨hw.uses ref _ hobject, (hw.sound.proper ref _ hobject).1⟩
      | _ => exact ⟨rfl, nofun⟩

/-- A new instance is there for its initialiser, and gone if that fails. -/
theorem delivers_instantiate (hlibrary : Dependable depth library) (hw : s.Works library held)
    {cls : Ref} {name : String} {attrs : Table Ref}
    (hget : s.heap.get? cls = some (.classOf name attrs)) {arguments : List Ref}
    (harguments : ∀ argument ∈ arguments, s.Pinned held argument) :
    (instantiate (run depth) cls name attrs arguments).Delivers s fun found s' =>
      s'.Works library ((found.toList : Multiset Ref) + held) := by
  unfold instantiate
  rw [delivers_bind]
  refine delivers_mono (fun initialiser s₀ h => ?_) (delivers_initialiserOf hw hget)
  rcases h with ⟨hsame, hinitialiser⟩
  rw [hsame, delivers_bind]
  refine delivers_mono (fun _ s₁ h => ?_) (delivers_retain hw hget)
  rcases h with ⟨hw₁, hcontents⟩
  have hinstance : Object.Honest (.instanceOf cls .empty) := trivial
  rw [delivers_bind]
  refine delivers_mono (fun object s₂ h => ?_) (delivers_allocate hw₁ hinstance trivial)
  rcases h with ⟨hw₂, hkeeps⟩
  cases initialiser with
  | none =>
      dsimp only
      split
      · exact hw₂
      · rw [delivers_bind]
        exact delivers_mono (fun _ s₃ hw₃ => (hw₃.report _).none) (delivers_release hw₂)
  | some found =>
      rcases found with ⟨ref, body⟩
      have hpinned : ∀ argument ∈ object :: arguments, s₂.Pinned ({object} + held) argument := by
        intro argument hargument
        rcases List.mem_cons.1 hargument with hself | hother
        · rw [hself]
          exact .inl (Multiset.mem_add.2 (.inl (Multiset.mem_singleton_self object)))
        · refine (harguments argument hother).mono (Multiset.le_add_left held _) ?_
          intro other content hother
          exact hkeeps other content ((hcontents other).trans hother)
      dsimp only
      rw [delivers_bind]
      refine delivers_mono (fun result s₃ hw₃ => ?_) (delivers_callFunction hlibrary hw₂ ref
        (hinitialiser _ rfl).1 (hinitialiser _ rfl).2 hpinned)
      cases result with
      | some result =>
          dsimp only
          rw [delivers_bind]
          exact delivers_mono (fun _ s₄ hw₄ => hw₄) (delivers_release hw₃)
      | none =>
          dsimp only
          rw [delivers_bind]
          exact delivers_mono (fun _ s₄ hw₄ => hw₄.none)
            (delivers_release (hw₃.of_eq (zero_add _)))

theorem delivers_call (hlibrary : Dependable depth library) (hw : s.Works library held)
    {callable arguments : Ref} (hcallable : callable ∈ held) (harguments : arguments ∈ held) :
    (call (run depth) callable arguments).Delivers s fun found s' =>
      s'.Works library ((found.toList : Multiset Ref) + held) := by
  rcases hw.exists_get? hcallable with ⟨object, hget⟩
  rcases hw.exists_get? harguments with ⟨sequence, hsequence⟩
  have hnot : (displayType callable >>= fun type =>
      failWith "TypeError" s!"'{type}' object is not callable" (none : Option Ref)).Delivers s
      fun found s' => s'.Works library ((found.toList : Multiset Ref) + held) :=
    delivers_refusal hw hget _ _
  unfold call
  dsimp only
  rw [delivers_access_bind hsequence]
  cases hitems : sequence.items? with
  | none => exact (hw.report _).none
  | some items =>
      have hpinned : ∀ argument ∈ items, s.Pinned held argument := by
        intro argument hargument
        rw [← children_of_items hitems] at hargument
        exact .inr ⟨arguments, harguments, sequence, hsequence, hargument⟩
      dsimp only
      rw [delivers_access_bind hget]
      cases object with
      | function name body =>
          exact delivers_callFunction hlibrary hw callable (hw.uses callable _ hget)
            (hw.sound.proper callable _ hget).1 hpinned
      | boundMethod receiver function =>
          rcases hw.exists_child hget
            (List.mem_cons_of_mem receiver List.mem_cons_self : function ∈ [receiver, function])
            with ⟨target, htarget⟩
          dsimp only
          rw [delivers_access_bind htarget]
          cases target with
          | function name body =>
              refine delivers_callFunction hlibrary hw function (hw.uses function _ htarget)
                (hw.sound.proper function _ htarget).1 fun argument hargument => ?_
              rcases List.mem_cons.1 hargument with hself | hother
              · rw [hself]
                exact .inr ⟨callable, hcallable, _, hget, List.mem_cons_self⟩
              · exact hpinned argument hother
          | _ => exact hnot
      | classOf name attrs => exact delivers_instantiate hlibrary hw hget hpinned
      | _ => exact hnot

/-!
# All requests
-/

theorem delivers_retainAll {refs : List Ref} (hw : s.Works library held)
    (hrefs : ∀ ref ∈ refs, ref ∈ held) :
    (refs.forM retain).Delivers s fun _ s' =>
      s'.Works library ((refs : Multiset Ref) + held) := by
  induction refs generalizing s held with
  | nil => exact hw.of_eq (zero_add held).symm
  | cons ref rest ih =>
      rcases hw.exists_get? (hrefs ref List.mem_cons_self) with ⟨object, hget⟩
      show (retain ref >>= fun _ => rest.forM retain).Delivers s _
      rw [delivers_bind]
      refine delivers_mono (fun _ s' h => ?_) (delivers_retain hw hget)
      have hrest : ∀ other ∈ rest, other ∈ {ref} + held := fun other hother =>
        Multiset.mem_add.2 (.inr (hrefs other (List.mem_cons_of_mem ref hother)))
      refine delivers_mono (fun _ s'' hw'' => hw''.of_eq ?_) (ih h.1 hrest)
      rw [add_left_comm, ← add_assoc, Multiset.singleton_add, Multiset.cons_coe]

/-- Something new that refers to nothing. -/
theorem delivers_new {object : Object} (hw : s.Works library held) (hchildren : object.children = [])
    (hhonest : object.Honest) (hof : object.Of library) :
    (allocate object >>= fun ref => pure (some ref)).Delivers s fun found s' =>
      s'.Works library ((found.toList : Multiset Ref) + held) := by
  have hw' : s.Works library ((object.children : List Ref) + held) := by
    rw [hchildren]
    exact hw.of_eq (zero_add held).symm
  rw [delivers_bind]
  exact delivers_mono (fun _ s' h => h.1) (delivers_allocate hw' hhonest hof)

/-- A running runtime serves every request that is about references that are held.  Only for a call do
its functions have to return. -/
theorem delivers_serve (r : Request) (hcalls : r.calls = true → Dependable depth library)
    (hw : s.Works library ((r.returned.toList : List Ref) + held))
    (hmentions : ∀ ref ∈ r.mentions, ref ∈ ((r.returned.toList : List Ref) : Multiset Ref) + held) :
    (serve (run depth) r).Delivers s fun answer s' =>
      s'.Works library ((r.acquired answer : List Ref) + held) := by
  have hget : ∀ ref ∈ r.mentions, ∃ object, s.heap.get? ref = some object :=
    fun ref href => hw.exists_get? (hmentions ref href)
  have hquiet : r.returned = none → s.Works library held := by
    intro hreturned
    rw [hreturned] at hw
    exact hw.of_eq (zero_add held)
  have hheld : r.returned = none → ∀ ref ∈ r.mentions, ref ∈ held := by
    intro hreturned
    rw [hreturned] at hmentions
    rwa [show (((none : Option Ref).toList : List Ref) : Multiset Ref) + held = held from
      zero_add held] at hmentions
  have hlook : ∀ {β : Type} {attempt : Attempt Simulation β}, r.returned = none →
      (attempt.Delivers s fun _ s' => s' = s) →
      attempt.Delivers s fun _ s' => s'.Works library (((([] : List Ref)) : Multiset Ref) + held) := by
    intro β attempt hreturned hattempt
    refine delivers_mono (fun _ s' hsame => ?_) hattempt
    rw [hsame]
    exact (hquiet hreturned).none
  cases r with
  | kindOf ref | numericKind ref | isCallable ref | supportsIndexing ref | boolValue ref =>
      rcases hget ref List.mem_cons_self with ⟨object, hobject⟩
      exact hlook rfl (delivers_mono (fun _ _ h => h.2) (delivers_look hobject _))
  | typeName ref =>
      rcases hget ref List.mem_cons_self with ⟨object, hobject⟩
      refine hlook rfl ?_
      show (typeName ref >>= fun name => pure (some name)).Delivers s _
      rw [delivers_bind]
      exact delivers_mono (fun _ s' hsame => hsame) (delivers_typeName hw hobject)
  | memberNames ref =>
      rcases hget ref List.mem_cons_self with ⟨object, hobject⟩
      refine hlook rfl ?_
      show (memberNames ref >>= fun names => pure (some names)).Delivers s _
      rw [delivers_bind]
      exact delivers_mono (fun _ s' hsame => hsame) (delivers_memberNames hw hobject)
  | intValue ref =>
      rcases hget ref List.mem_cons_self with ⟨object, hobject⟩
      exact delivers_intValue hw hobject
  | floatValue ref =>
      rcases hget ref List.mem_cons_self with ⟨object, hobject⟩
      exact delivers_floatValue hw hobject
  | stringBytes ref =>
      rcases hget ref List.mem_cons_self with ⟨object, hobject⟩
      exact delivers_stringBytes hw hobject
  | sequenceLength ref =>
      rcases hget ref List.mem_cons_self with ⟨object, hobject⟩
      exact delivers_sequenceLength hw hobject
  | sequenceItem ref index =>
      rcases hget ref List.mem_cons_self with ⟨object, hobject⟩
      exact delivers_sequenceItem (hquiet rfl) hobject index
  | null =>
      rcases hw.exists_null with ⟨object, hobject⟩
      show (retain nullRef >>= fun _ => pure nullRef).Delivers s _
      rw [delivers_bind]
      exact delivers_mono (fun _ s' h => h.1) (delivers_retain (hquiet rfl) hobject)
  | newScalar value =>
      cases value with
      | bool b | int i | real x => exact delivers_new (hquiet rfl) rfl trivial trivial
  | newString text => exact delivers_new (hquiet rfl) rfl trivial trivial
  | newTuple items =>
      have htuple : Object.Honest (.tuple items) := trivial
      show (items.forM retain >>= fun _ => allocate (.tuple items) >>= fun ref =>
        pure (some ref)).Delivers s _
      rw [delivers_bind]
      refine delivers_mono (fun _ s' hw' => ?_) (delivers_retainAll (hquiet rfl) (hheld rfl))
      rw [delivers_bind]
      exact delivers_mono (fun _ s'' h => h.1) (delivers_allocate hw' htuple trivial)
  | importModule name => exact delivers_importModule (hquiet rfl) name
  | getAttr ref name =>
      rcases hget ref List.mem_cons_self with ⟨object, hobject⟩
      exact delivers_getAttr (hquiet rfl) hobject name
  | setAttr ref name value =>
      rcases hget ref List.mem_cons_self with ⟨object, hobject⟩
      rcases hget value (List.mem_cons_of_mem ref List.mem_cons_self) with ⟨content, hcontent⟩
      exact delivers_setAttr hw hobject hcontent name
  | call callable arguments =>
      exact delivers_call (hcalls rfl) (hquiet rfl) (hheld rfl callable List.mem_cons_self)
        (hheld rfl arguments (List.mem_cons_of_mem callable List.mem_cons_self))
  | getItem ref key =>
      rcases hget ref List.mem_cons_self with ⟨object, hobject⟩
      rcases hget key (List.mem_cons_of_mem ref List.mem_cons_self) with ⟨keyObject, hkey⟩
      exact delivers_getItem (hquiet rfl) hobject hkey
  | setItem ref key value =>
      rcases hget ref List.mem_cons_self with ⟨object, hobject⟩
      rcases hget key (List.mem_cons_of_mem ref List.mem_cons_self) with ⟨keyObject, hkey⟩
      rcases hget value (by simp [Request.mentions]) with ⟨content, hcontent⟩
      exact delivers_setItem hw hobject hkey hcontent
  | retain ref =>
      rcases hget ref List.mem_cons_self with ⟨object, hobject⟩
      exact delivers_mono (fun _ s' h => h.1) (delivers_retain (hquiet rfl) hobject)
  | release ref => exact delivers_mono (fun _ s' hw' => hw'.none) (delivers_release hw)
  | errorPending => exact hw
  | takeError => exact hw.report none

/-!
# Kinds that stay

An object that is no sequence does not become one, and its number is not given to another.
-/

/-- An object that is no sequence, and never was. -/
def NoSequence (ref : Ref) (s : Simulation) : Prop :=
  ref.id < s.heap.slots.size ∧ s.heap.Every fun other object => other = ref → object.kind ≠ .sequence

theorem lasting_noSequence (ref : Ref) : Lasting (NoSequence ref) fun _ => True where
  misuse _ _ := trivial
  gate _ _ _ _ := ⟨trivial, trivial⟩
  retain _ _ _ hs hretain := ⟨(Heap.size_retain? hretain).2 ▸ hs.1, hs.2.retain hretain⟩
  allocate s object hs _ _ :=
    ⟨Nat.lt_of_lt_of_le hs.1 (Heap.Older.allocate s.heap object).grows,
      hs.2.allocate fun heq => absurd hs.1 (heq ▸ Nat.lt_irrefl _)⟩
  report _ _ hs := hs
  build s object hs _ :=
    ⟨Nat.lt_of_lt_of_le hs.1 (Heap.Older.allocate s.heap object).grows,
      hs.2.allocate fun heq => absurd hs.1 (heq ▸ Nat.lt_irrefl _)⟩
  release s other hs :=
    ⟨Nat.lt_of_lt_of_le hs.1 (Heap.Older.releaseAll s.heap [other]).grows,
      hs.2.releaseAll [other]⟩
  store s other old object hs hget hkind _ :=
    ⟨Heap.size_setContent s.heap other object ▸ hs.1,
      hs.2.setContent fun heq => hkind ▸ hs.2 other old hget heq⟩
  register _ _ hs := hs
  count _ _ hs := hs
  clear _ hs := hs

/-- What is known of a kind stays known. -/
theorem noSequence_of_kind {ref : Ref} {object : Object} (hget : s.heap.get? ref = some object)
    (hkind : object.kind ≠ .sequence) : NoSequence ref s := by
  refine ⟨Heap.id_lt_size hget, fun other found hfound heq => ?_⟩
  rw [heq, hget] at hfound
  rw [← Option.some.inj hfound]
  exact hkind

/-- The runtime calls an object a sequence only if it is one. -/
theorem firm_of_outcome {r : Request} {given : r.Answer} {s' : Simulation}
    (houtcome : (serve (run depth) r).outcome s = (.ok given, s')) {plain : Ref → Prop}
    (hplain : ∀ ref, plain ref → NoSequence ref s) :
    ¬ r.contradicts plain given ∧ ∀ ref, r.tells given ref → NoSequence ref s := by
  cases r with
  | kindOf ref =>
      cases hget : s.heap.get? ref with
      | none =>
          have hdead : (access ref).Meets s (fun _ _ => False) fun _ _ => True :=
            meets_access (fun object hobject => absurd (hget.symm.trans hobject) nofun)
              fun _ => trivial
          have hserve : (serve (run depth) (.kindOf ref)).Meets s (fun _ _ => False) fun _ _ => True :=
            meets_bind.2 (meets_mono (fun _ _ h => h.elim) (fun _ _ h => h) hdead)
          unfold Meets at hserve
          rw [houtcome] at hserve
          exact hserve.elim
      | some object =>
          have hlook : (serve (run depth) (.kindOf ref)).Delivers s fun kind s' =>
              kind = object.kind ∧ s' = s := delivers_look hget _
          have hkind := (of_delivers hlook houtcome).1
          rw [hkind]
          constructor
          · rintro ⟨hsequence, hknown⟩
            exact (hplain ref hknown).2 ref object hget rfl hsequence
          · rintro other ⟨hother, hnot⟩
            rw [hother]
            exact noSequence_of_kind hget hnot
  | _ => exact ⟨nofun, nofun⟩

end Simulation
end ForeignBridge
