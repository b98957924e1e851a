import ForeignBridge.Proofs.Chains.Factoring
import ForeignBridge.Proofs.Chains.Reading
import ForeignBridge.Proofs.Heap.Reclamation
import ForeignBridge.Proofs.Reading.Requests
import ForeignBridge.Proofs.Simulation.Holding

/-!
# Attributes

An attribute of an object is its own one, or one of its class; a function of the class is bound to the
object.  What a walk along attributes comes to, and which error ends it, is said by the heap alone, and
a walk leaves the heap as it was but for the reference that it returns.
-/

namespace ForeignBridge

namespace Heap

variable {α : Type}

/-- The heap after the object of its next number was made and died. -/
def spent (h : Heap α) : Heap α := ⟨h.slots.push none⟩

@[simp]
theorem slot?_spent (h : Heap α) (ref : Ref) : h.spent.slot? ref = h.slot? ref := by
  unfold spent slot?
  rw [Array.getElem?_push]
  split
  · rename_i hid
    rw [hid, Array.getElem?_eq_none (Nat.le_refl _)]
    rfl
  · rfl

theorem isLive_spent (h : Heap α) (ref : Ref) : h.spent.isLive ref = h.isLive ref := by
  unfold isLive
  rw [slot?_spent]

theorem spent_lent (h : Heap α) (held : Multiset Ref) : (h.lent held).spent = h.spent.lent held := by
  unfold spent lent
  rw [Array.mapIdx_push]
  rfl

theorem setSlot_allocate (h : Heap α) (content : α) :
    (h.allocate content).2.setSlot (h.allocate content).1 none = h.spent := by
  unfold allocate setSlot spent
  refine congrArg Heap.mk (Array.ext_getElem? fun id => ?_)
  simp only [Array.getElem?_push, Array.getElem?_setIfInBounds, Array.size_push]
  grind

end Heap

namespace Simulation

open Crossing

/-- What an attribute is. -/
inductive Attribute where
  /-- An object that something owns already. -/
  | object (ref : Ref)
  /-- A function bound to an object. -/
  | method (receiver function : Ref)
  deriving DecidableEq

/-- The attribute of a name that the object behind a reference has. -/
def attributeOf? (h : Heap Object) (ref : Ref) (name : String) : Option Attribute :=
  match (contentOf h ref).at? (.field name) with
  | some own => some (.object own)
  | none =>
    ((contentOf h ref).class?.bind fun cls => (contentOf h cls).at? (.field name)).map fun found =>
      if (contentOf h found).isFunction then .method ref found else .object found

/-- The error of an attribute that is not there. -/
def missing (type name : String) : Diagnostic :=
  ⟨"AttributeError", s!"'{type}' object has no attribute '{name}'"⟩

namespace Attribute

/-- The attribute of a name that an attribute has, or the error that there is none. -/
def field (h : Heap Object) (a : Attribute) (name : String) : Except Diagnostic Attribute :=
  match a with
  | object ref =>
    match attributeOf? h ref name with
    | some next => .ok next
    | none => .error (missing (typeText h ref) name)
  | method _ _ => .error (missing "method" name)

/-- What attribute after attribute leads to, or the error of the first that is missing. -/
def along (h : Heap Object) (a : Attribute) : List String → Except Diagnostic Attribute
  | [] => .ok a
  | name :: names => a.field h name >>= fun next => next.along h names

/-- A new reference to an attribute, and the heap in which it is held. -/
def owned (h : Heap Object) : Attribute → Ref × Heap Object
  | object ref => (ref, h.lent {ref})
  | method receiver function =>
    (h.lent {function, receiver}).allocate (.boundMethod receiver function)

/-- The heap after a reference to an attribute was given back: a bound method leaves its number. -/
def left (h : Heap Object) : Attribute → Heap Object
  | object _ => h
  | method _ _ => h.spent

/-- The objects of an attribute live. -/
def Lives (h : Heap Object) : Attribute → Prop
  | object ref => h.isLive ref = true
  | method receiver function => h.isLive receiver = true ∧ h.isLive function = true

/-- Whether an attribute can be called. -/
def isCallable (h : Heap Object) : Attribute → Bool
  | object ref => (contentOf h ref).isCallable
  | method _ _ => true

theorem slot?_left (h : Heap Object) (a : Attribute) (ref : Ref) :
    (a.left h).slot? ref = h.slot? ref := by
  cases a with
  | object _ => rfl
  | method _ _ => exact h.slot?_spent ref

end Attribute

/-- Whatever an object or the registry refers to is there. -/
structure Coherent (s : Simulation) : Prop where
  closed : Closed s.heap
  registered : ∀ name ref, s.modules.find? name = some ref → ∃ object, s.heap.get? ref = some object

theorem coherent_of_sound {s : Simulation} {held : Multiset Ref} (hs : s.Sound held) :
    s.Coherent where
  closed := closed_of_balanced hs.balanced
  registered name ref hfind := by
    have hroot : ref ∈ s.roots := by
      unfold roots
      exact Multiset.mem_add.2 (.inr (Table.mem_values_of_find? hfind))
    exact exists_get? hs.balanced (Multiset.mem_add.2 (.inr (Multiset.mem_add.2 (.inl hroot))))

theorem Closed.isLive {h : Heap Object} (hclosed : Closed h) {ref child : Ref}
    (hchild : child ∈ (contentOf h ref).children) : h.isLive child = true := by
  unfold contentOf at hchild
  cases hget : h.get? ref with
  | none =>
      rw [hget] at hchild
      cases hchild
  | some object =>
      rw [hget] at hchild
      rcases hclosed ref object hget child hchild with ⟨found, hfound⟩
      exact Heap.isLive_of_get? hfound

/-!
# Reading an attribute
-/

section Reading

variable {s : Simulation} {depth : Nat} {ref : Ref} {name : String} {a : Attribute}

theorem outcome_lend (hlive : s.heap.isLive ref = true) :
    (lend ref).outcome s = (.ok (some ref), s.lending {ref}) := by
  have hretain := Heap.retain?_lent (get?_contentOf hlive) 0
  rw [Heap.lent_zero] at hretain
  have houtcome : (retain ref).outcome s = (.ok (), s.lending {ref}) := outcome_retain hretain
  unfold lend
  rw [Attempt.outcome_bind, houtcome]
  rfl

/-- A function is bound to an object. -/
theorem outcome_bound {function : Ref} (hreceiver : s.heap.isLive ref = true)
    (hfunction : s.heap.isLive function = true) :
    (do
      retain ref
      retain function
      return some (← allocate (.boundMethod ref function))).outcome s =
      (.ok (some ((Attribute.method ref function).owned s.heap).1),
        s.withHeap ((Attribute.method ref function).owned s.heap).2) := by
  have hfirst := Heap.retain?_lent (get?_contentOf hreceiver) 0
  have hsecond := Heap.retain?_lent (get?_contentOf hfunction) (ref ::ₘ 0)
  rw [Heap.lent_zero] at hfirst
  have houtcome : (retain ref).outcome s = _ := outcome_retain hfirst
  rw [Attempt.outcome_bind, houtcome]
  dsimp only
  rw [Attempt.outcome_bind, outcome_retain hsecond]
  rfl

/-- An attribute that is there lives. -/
theorem lives_of_attributeOf? (hclosed : Closed s.heap) (hlive : s.heap.isLive ref = true)
    (ha : attributeOf? s.heap ref name = some a) : a.Lives s.heap := by
  unfold attributeOf? at ha
  cases hown : (contentOf s.heap ref).at? (.field name) with
  | some own =>
      rw [hown] at ha
      cases ha
      exact hclosed.isLive (Object.mem_children_of_at? hown)
  | none =>
      rw [hown] at ha
      rcases Option.map_eq_some_iff.1 ha with ⟨found, hfound, rfl⟩
      rcases Option.bind_eq_some_iff.1 hfound with ⟨cls, hclass, hinherited⟩
      have hlast := hclosed.isLive (Object.mem_children_of_at? hinherited)
      cases (contentOf s.heap found).isFunction with
      | true => exact ⟨hlive, hlast⟩
      | false => exact hlast

theorem outcome_classAttr (hclosed : Closed s.heap) (ref : Ref) (name : String) :
    (classAttr (contentOf s.heap ref) name).outcome s =
      (.ok ((contentOf s.heap ref).class?.bind fun cls => (contentOf s.heap cls).at? (.field name)),
        s) := by
  unfold classAttr
  cases hclass : (contentOf s.heap ref).class? with
  | none => rfl
  | some cls => exact outcome_look (get?_contentOf (hclosed.isLive (class_mem_children hclass))) _

/-- An attribute is read as the heap says. -/
theorem outcome_getAttr_eq (hclosed : Closed s.heap) (hlive : s.heap.isLive ref = true) (name : String) :
    (getAttr ref name).outcome s =
      match attributeOf? s.heap ref name with
      | some a => (.ok (some (a.owned s.heap).1), s.withHeap (a.owned s.heap).2)
      | none => (.ok none, { s with pending := some (missing (typeText s.heap ref) name) }) := by
  unfold getAttr
  rw [outcome_look (get?_contentOf hlive)]
  unfold attributeOf?
  have hfield : (contentOf s.heap ref).attrs?.bind (·.find? name) =
      (contentOf s.heap ref).at? (.field name) := rfl
  rw [hfield]
  cases hown : (contentOf s.heap ref).at? (.field name) with
  | some own => exact outcome_lend (hclosed.isLive (Object.mem_children_of_at? hown))
  | none =>
      dsimp only
      rw [Attempt.outcome_bind, outcome_classAttr hclosed]
      dsimp only
      cases hinherited : (contentOf s.heap ref).class?.bind
          fun cls => (contentOf s.heap cls).at? (.field name) with
      | none =>
          have htype : (displayType ref).outcome (s.lending 0) =
              (.ok (typeText s.heap ref), s.lending 0) :=
            outcome_displayType hlive fun _ => hclosed.isLive
          rw [lending_zero] at htype
          dsimp only
          rw [Attempt.outcome_bind, htype]
          rfl
      | some found =>
          rcases Option.bind_eq_some_iff.1 hinherited with ⟨cls, -, hfound⟩
          have hlast := hclosed.isLive (Object.mem_children_of_at? hfound)
          dsimp only
          rw [outcome_look (get?_contentOf hlast)]
          cases hcontent : contentOf s.heap found with
          | function _ _ =>
              rw [Option.map_some, hcontent]
              exact outcome_bound hlive hlast
          | _ =>
              rw [Option.map_some, hcontent]
              exact outcome_lend hlast

end Reading

/-!
# Giving back
-/

namespace Attribute

variable {h : Heap Object} {a : Attribute}

/-- A reference to an attribute can be given back. -/
theorem pays_owned (hlives : a.Lives h) : (a.owned h).2.Pays [(a.owned h).1] (a.left h) := by
  have hlent : ∀ {h : Heap Object} {ref : Ref} (held : Multiset Ref), h.isLive ref = true →
      (h.lent (ref ::ₘ held)).Pays [ref] (h.lent held) := fun held hlive =>
    Heap.Pays.of_retain (Heap.retain?_lent (get?_contentOf hlive) held)
  cases a with
  | object ref =>
      have hpays := hlent 0 hlives
      rw [Heap.lent_zero] at hpays
      exact hpays
  | method receiver function =>
      -- The method dies, and gives back the two references that it owned.
      have hreceiver : h.spent.isLive receiver = true := (h.isLive_spent receiver).trans hlives.1
      have hfunction : h.spent.isLive function = true := (h.isLive_spent function).trans hlives.2
      have hlast := hlent 0 hreceiver
      rw [Heap.lent_zero] at hlast
      have hdead : ((method receiver function).owned h).2.setSlot
          ((method receiver function).owned h).1 none = h.spent.lent {function, receiver} := by
        rw [← Heap.spent_lent]
        exact Heap.setSlot_allocate _ _
      refine .cons (Heap.slot?_allocate_self _ _) ?_
      rw [Slot.lessened_of_last rfl, Slot.orphaned_of_last rfl]
      unfold owned at hdead ⊢
      rw [hdead]
      exact (hlent {receiver} hfunction).append hlast

end Attribute

theorem owes_owned {s : Simulation} {a : Attribute} (hlives : a.Lives s.heap) :
    (s.withHeap (a.owned s.heap).2).Owes [(a.owned s.heap).1] (s.withHeap (a.left s.heap)) :=
  Owes.of_heap (a.pays_owned hlives)

/-- Bound methods have no attributes. -/
theorem outcome_getAttr_method (s : Simulation) (receiver function : Ref) (h : Heap Object)
    (name : String) :
    (getAttr (h.allocate (.boundMethod receiver function)).1 name).outcome
        (s.withHeap (h.allocate (.boundMethod receiver function)).2) =
      (.ok none, { s.withHeap (h.allocate (.boundMethod receiver function)).2 with
        pending := some (missing "method" name) }) := by
  have hget := Heap.get?_allocate h (Object.boundMethod receiver function)
  unfold getAttr
  rw [outcome_access_bind hget]
  show (displayType _ >>= fun type => failWith "AttributeError" _ none).outcome _ = _
  unfold displayType
  rw [bind_assoc, outcome_access_bind hget]
  rfl

end Simulation

namespace Context

open Simulation Crossing

variable (ctx : Context) {α σ : Type} {depth : Nat} {s : Simulation} {ref : Ref} {name : String}

/-!
# Reports
-/

theorem failureText_of_kind {d : Diagnostic} (hkind : d.kind ≠ "") :
    failureText (some d) = d.text := by
  have htext : d.text ≠ "" := by
    unfold Diagnostic.text
    rw [if_neg (by rwa [String.isEmpty_iff])]
    split
    · exact hkind
    · intro hempty
      exact hkind (String.append_eq_empty_iff.1 (String.append_eq_empty_iff.1 hempty).1).1
  unfold failureText
  dsimp only
  rw [if_neg (by rwa [String.isEmpty_iff])]

section Raised

variable (hready : s.Ready) (d : Diagnostic)

include hready

/-- A failure that a runtime raised is fetched, and no longer pending then. -/
theorem comes_fetched :
    (Crossing.ask .errorPending).Comes (answer (run depth)) { s with pending := some d } (.ok true)
        { s with pending := some d } ∧
      (Crossing.ask .takeError).Comes (answer (run depth)) { s with pending := some d } (.ok (some d))
        s := by
  have hrunning : ({ s with pending := some d } : Simulation).phase = .running := hready.running
  have hcleared : ({ s with pending := none } : Simulation) = s := by
    have hquiet := hready.quiet
    cases s
    cases hquiet
    rfl
  refine ⟨Comes.ask (outcome_answer_of_running hrunning _), ?_⟩
  rw [← hcleared]
  exact Comes.ask (outcome_answer_of_running hrunning _)

theorem comes_clearError_raised :
    clearError.Comes (answer (run depth)) { s with pending := some d } (.ok (some d)) s :=
  Comes.bind (comes_fetched hready d).1 (comes_fetched hready d).2

theorem comes_checkRef_raised (operation : Operation) (hkind : d.kind ≠ "") :
    (ctx.checkRef operation none).Comes (answer (run depth)) { s with pending := some d }
      (.error (.foreignRuntime operation d.text)) s := by
  rw [← failureText_of_kind hkind]
  exact Comes.bind (comes_fetched hready d).1 (Comes.bind (comes_fetched hready d).2
    (Comes.bind (Comes.releaseAll (.done () s)) (ctx.comes_fail operation (some d))))

end Raised

/-!
# Walking along attributes
-/

section Walking

variable (hready : s.Ready) (hclosed : Closed s.heap) {a : Attribute}

include hready

/-- A runtime that serves goes on serving with another heap. -/
theorem ready_withHeap (h : Heap Object) : (s.withHeap h).Ready := ⟨hready.running, hready.quiet⟩

include hclosed

theorem comes_getAttr_found (hlive : s.heap.isLive ref = true)
    (ha : attributeOf? s.heap ref name = some a) :
    (ctx.getAttr ref name).Comes (answer (run depth)) s (.ok (a.owned s.heap).1)
      (s.withHeap (a.owned s.heap).2) := by
  have hserve : (Simulation.serve (run depth) (.getAttr ref name)).outcome s = _ :=
    outcome_getAttr_eq hclosed hlive name
  rw [ha] at hserve
  exact Comes.bind Comes.note (Comes.bind (comes_served hready hserve)
    (comes_checkRef ctx (ready_withHeap hready _) .getField _))

theorem comes_getAttr_missing (hlive : s.heap.isLive ref = true)
    (hmissing : attributeOf? s.heap ref name = none) :
    (ctx.getAttr ref name).Comes (answer (run depth)) s
      (.error (.foreignRuntime .getField (missing (typeText s.heap ref) name).text)) s := by
  have hserve : (Simulation.serve (run depth) (.getAttr ref name)).outcome s = _ :=
    outcome_getAttr_eq hclosed hlive name
  rw [hmissing] at hserve
  have hkind : (missing (typeText s.heap ref) name).kind ≠ "" := (by decide : "AttributeError" ≠ "")
  exact Comes.bind Comes.note (Comes.bind (comes_served hready hserve)
    (ctx.comes_checkRef_raised hready _ .getField hkind))

/-- An attribute is read from a reference to another one, which is given back. -/
theorem comes_field (hlives : a.Lives s.heap) {next : Attribute}
    (hnext : a.field s.heap name = .ok next) :
    (owning (a.owned s.heap).1 (ctx.getAttr (a.owned s.heap).1 name)).Comes (answer (run depth))
      (s.withHeap (a.owned s.heap).2) (.ok (next.owned s.heap).1)
      (s.withHeap (next.owned s.heap).2) ∧ next.Lives s.heap := by
  cases a with
  | method receiver function => cases hnext
  | object ref =>
      unfold Attribute.field at hnext
      dsimp only at hnext
      cases hfound : attributeOf? s.heap ref name with
      | none =>
          rw [hfound] at hnext
          cases hnext
      | some found =>
          rw [hfound] at hnext
          cases hnext
          exact ⟨(owes_owned hlives).comes_owning hready.running
            (ctx.comes_getAttr_found hready hclosed hlives hfound),
            lives_of_attributeOf? hclosed hlives hfound⟩

theorem comes_field_missing (hlives : a.Lives s.heap) {d : Diagnostic}
    (hmissing : a.field s.heap name = .error d) :
    (owning (a.owned s.heap).1 (ctx.getAttr (a.owned s.heap).1 name)).Comes (answer (run depth))
      (s.withHeap (a.owned s.heap).2) (.error (.foreignRuntime .getField d.text))
      (s.withHeap (a.left s.heap)) := by
  cases a with
  | method receiver function =>
      cases hmissing
      have hserve : (Simulation.serve (run depth) (.getAttr ((Attribute.method receiver function).owned
          s.heap).1 name)).outcome _ = _ := outcome_getAttr_method s receiver function _ name
      have hkind : (missing "method" name).kind ≠ "" := (by decide : "AttributeError" ≠ "")
      have hready' := ready_withHeap hready ((Attribute.method receiver function).owned s.heap).2
      exact Comes.owningAll (Comes.bind Comes.note (Comes.bind (comes_served hready' hserve)
        (ctx.comes_checkRef_raised hready' _ .getField hkind)))
        ((owes_owned hlives).succeeds_releaseAll hready.running)
  | object ref =>
      unfold Attribute.field at hmissing
      dsimp only at hmissing
      cases hfound : attributeOf? s.heap ref name with
      | some found =>
          rw [hfound] at hmissing
          cases hmissing
      | none =>
          rw [hfound] at hmissing
          cases hmissing
          exact (owes_owned hlives).comes_owning hready.running
            (ctx.comes_getAttr_missing hready hclosed hlives hfound)

/-- A walk along attributes comes to what they lead to, and to a reference of it, or fails as the first
of them that is missing and leaves all objects as they were. -/
theorem comes_walk_along (depth : Nat) (hlives : a.Lives s.heap) (names : List String) :
    match a.along s.heap names with
    | .ok last =>
      (ctx.walk (a.owned s.heap).1 (names.map Accessor.field)).Comes (answer (run depth))
        (s.withHeap (a.owned s.heap).2) (.ok (last.owned s.heap).1)
        (s.withHeap (last.owned s.heap).2)
    | .error d =>
      ∃ h, (ctx.walk (a.owned s.heap).1 (names.map Accessor.field)).Comes (answer (run depth))
          (s.withHeap (a.owned s.heap).2) (.error (.foreignRuntime .getField d.text)) (s.withHeap h) ∧
        ∀ ref, h.slot? ref = s.heap.slot? ref := by
  induction names generalizing a with
  | nil => exact Comes.pure
  | cons name names ih =>
      unfold Attribute.along
      cases hfield : a.field s.heap name with
      | error d =>
          exact ⟨_, Comes.bind_error (ctx.comes_field_missing hready hclosed hlives hfield),
            a.slot?_left s.heap⟩
      | ok next =>
          rcases ctx.comes_field hready hclosed hlives hfield with ⟨hnext, hlives'⟩
          have hrest := ih hlives'
          show match next.along s.heap names with
            | .ok last => _
            | .error d => _
          cases halong : next.along s.heap names with
          | ok last =>
              rw [halong] at hrest
              exact Comes.bind hnext hrest
          | error d =>
              rw [halong] at hrest
              rcases hrest with ⟨h, hcomes, hsame⟩
              exact ⟨h, Comes.bind hnext hcomes, hsame⟩

end Walking

end Context
end ForeignBridge
