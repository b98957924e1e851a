import ForeignBridge.Proofs.Chains.Places
import ForeignBridge.Proofs.Simulation.Invariants

/-!
# What endures

A number is given out once, so that what bears it is the same object for as long as it lives.  And of
an object only the entries of its table can be replaced and added to, or the items of a list replaced,
one place at a time, by a request that writes there.  All else endures while the object lives.
-/

namespace ForeignBridge
namespace Simulation

open Attempt

/-- What is written: into which places of which objects, and the references that are put there. -/
abbrev Writing := Ref → Place → Ref → Prop

/-- Nothing is written. -/
def Writing.nothing : Writing := fun _ _ _ => False

/-!
# Objects
-/

namespace Object

/-- An object without what can be written to it: its table is empty, and of its items, if it is a list,
only the number is left.  Nothing is missing of other objects. -/
def frame : Object → Object
  | list items => list (List.replicate items.length ⟨0⟩)
  | object => object.withAttrs .empty

/-- What an object can become while it lives: one with the same frame, in which every place that held a
reference holds one, either the same or one that was written there. -/
structure Becomes (written : Place → Ref → Prop) (object object' : Object) : Prop where
  frame : object'.frame = object.frame
  kept : ∀ place ref, object'.at? place = some ref → object.at? place = some ref ∨ written place ref
  filled : ∀ place, (object.at? place).isSome = true → (object'.at? place).isSome = true

namespace Becomes

variable {written written' : Place → Ref → Prop} {object object' object'' : Object}

theorem refl (object : Object) : object.Becomes written object :=
  ⟨rfl, fun _ _ hat => .inl hat, fun _ hat => hat⟩

theorem mono (h : object.Becomes written object')
    (hwritten : ∀ place ref, written place ref → written' place ref) :
    object.Becomes written' object' :=
  ⟨h.frame, fun place ref hat => (h.kept place ref hat).imp_right (hwritten place ref), h.filled⟩

theorem trans (hfirst : object.Becomes written object')
    (hsecond : object'.Becomes written object'') : object.Becomes written object'' := by
  constructor
  · exact hsecond.frame.trans hfirst.frame
  · intro place ref hat
    rcases hsecond.kept place ref hat with hat' | hwritten
    · exact hfirst.kept place ref hat'
    · exact .inr hwritten
  · exact fun place hat => hsecond.filled place (hfirst.filled place hat)

/-- A list goes on to be a list of the same length. -/
theorem of_list {items : List Ref} (h : (list items).Becomes written object') :
    ∃ items', object' = list items' ∧ items'.length = items.length := by
  have hframe := h.frame
  cases object' with
  | list items' =>
      refine ⟨items', rfl, ?_⟩
      have hlengths := congrArg List.length (Object.list.inj hframe)
      rw [List.length_replicate, List.length_replicate] at hlengths
      exact hlengths
  | _ => cases hframe

/-- The class of an instance stays the same. -/
theorem class?_eq (h : object.Becomes written object') : object'.class? = object.class? := by
  have hclass : ∀ other : Object, other.frame.class? = other.class? := fun other => by
    cases other with
    | _ => rfl
  rw [← hclass, h.frame, hclass]

/-- What is no list and has no table stays the same: numbers, texts, tuples, functions and methods. -/
theorem eq_of_fixed (h : object.Becomes written object') (htable : object.attrs? = none)
    (hlist : ∀ items, object ≠ list items) : object' = object := by
  have hframe : object'.frame = object := by
    rw [h.frame]
    cases object with
    | list items => exact absurd rfl (hlist items)
    | bag _ | moduleOf _ _ | classOf _ _ | instanceOf _ _ => cases htable
    | _ => rfl
  rw [← hframe] at htable hlist
  rw [← hframe]
  cases object' with
  | list items => exact absurd rfl (hlist _)
  | bag _ | moduleOf _ _ | classOf _ _ | instanceOf _ _ => cases htable
  | _ => rfl

end Becomes

theorem frame_put (object : Object) (ref : Ref) (place : Place) :
    (object.put ref place).frame = object.frame := by
  cases place with
  | field name =>
      cases object with
      | _ => rfl
  | slot position =>
      cases object with
      | list items =>
          show list (List.replicate (items.set position ref).length ⟨0⟩) = _
          rw [List.length_set]
          rfl
      | _ => rfl

/-- What is put into a place replaces what was there, and nothing else. -/
theorem becomes_put {object : Object} {place : Place} (htakes : object.Takes place) (ref : Ref) :
    object.Becomes (fun other new => other = place ∧ new = ref) (object.put ref place) := by
  constructor
  · exact frame_put object ref place
  · intro other new hat
    by_cases hother : other = place
    · rw [hother, at?_put_self htakes] at hat
      exact .inr ⟨hother, (Option.some.inj hat).symm⟩
    · rw [at?_put_of_ne hother] at hat
      exact .inl hat
  · intro other hat
    by_cases hother : other = place
    · rw [hother, at?_put_self htakes]
      rfl
    · rw [at?_put_of_ne hother]
      exact hat

/-- The place of a container that a key names. -/
def keyed? (object key : Object) : Option Place :=
  match object with
  | list items => (key.int?.bind (resolveIndex · items.length)).map .slot
  | bag _ => key.text?.map .field
  | _ => none

end Object

/-!
# Heaps
-/

/-- What comes of a heap where only some things are written. -/
structure Endures (written : Writing) (h h' : Heap Object) : Prop where
  grows : h.slots.size ≤ h'.slots.size
  /-- What lives and did not live has a number that was not given out yet. -/
  newer : ∀ ref object', h.get? ref = none → h'.get? ref = some object' → h.slots.size ≤ ref.id
  lasts : ∀ ref object object', h.get? ref = some object → h'.get? ref = some object' →
    object.Becomes (written ref) object'

namespace Endures

variable {written written' : Writing} {h h' h'' : Heap Object}

theorem of_older (hold : h.Older h') : Endures written h h' := by
  refine ⟨hold.grows, fun ref object' hdead hget => ?_, fun ref object object' hbefore hafter => ?_⟩
  · by_contra hnot
    have hbefore := hold.lasts ref object' (Nat.lt_of_not_le hnot) hget
    rw [hdead] at hbefore
    cases hbefore
  · have hsame := hold.get?_of_live hbefore ⟨object', hafter⟩
    rw [hafter] at hsame
    cases hsame
    exact .refl object

theorem refl (h : Heap Object) : Endures written h h := of_older (.refl h)

theorem mono (hendures : Endures written h h')
    (hwritten : ∀ ref place new, written ref place new → written' ref place new) :
    Endures written' h h' :=
  ⟨hendures.grows, hendures.newer, fun ref object object' hbefore hafter =>
    (hendures.lasts ref object object' hbefore hafter).mono (hwritten ref)⟩

/-- Where nothing is written, no more is changed than where something is. -/
theorem of_nothing (hendures : Endures .nothing h h') : Endures written h h' :=
  hendures.mono fun _ _ _ => False.elim

/-- What comes to live has a greater number than all that lived before. -/
theorem id_lt_of_newer (hendures : Endures written h h') {old new : Ref} {object object' : Object}
    (hold : h.get? old = some object) (hdead : h.get? new = none) (hnew : h'.get? new = some object') :
    old.id < new.id :=
  Nat.lt_of_lt_of_le (Heap.id_lt_size hold) (hendures.newer new object' hdead hnew)

/-- What died does not live again. -/
theorem stays_dead (hfirst : Endures written h h') (hsecond : Endures written' h' h'') {ref : Ref}
    {object : Object} (hlive : h.get? ref = some object) (hdead : h'.get? ref = none) :
    h''.get? ref = none := by
  cases hlater : h''.get? ref with
  | none => rfl
  | some object'' =>
      have hnumbered := Heap.id_lt_size hlive
      have hnew := hsecond.newer ref object'' hdead hlater
      have hgrows := hfirst.grows
      omega

theorem trans (hfirst : Endures written h h') (hsecond : Endures written h' h'') :
    Endures written h h'' := by
  constructor
  · exact Nat.le_trans hfirst.grows hsecond.grows
  · intro ref object'' hdead hget
    cases hmiddle : h'.get? ref with
    | some object' => exact hfirst.newer ref object' hdead hmiddle
    | none => exact Nat.le_trans hfirst.grows (hsecond.newer ref object'' hmiddle hget)
  · intro ref object object'' hbefore hafter
    cases hmiddle : h'.get? ref with
    | none =>
        have hdead := stays_dead hfirst hsecond hbefore hmiddle
        rw [hafter] at hdead
        cases hdead
    | some object' =>
        exact (hfirst.lasts ref object object' hbefore hmiddle).trans
          (hsecond.lasts ref object' object'' hmiddle hafter)

/-- One place of one object is written. -/
theorem setContent {target value : Ref} {object : Object} {place : Place}
    (hget : h.get? target = some object) (htakes : object.Takes place) :
    Endures (fun ref other new => ref = target ∧ other = place ∧ new = value) h
      (h.setContent target (object.put value place)) := by
  constructor
  · rw [Heap.size_setContent]
  · intro ref object' hdead hfound
    rw [Heap.get?_setContent hget] at hfound
    split at hfound
    · rename_i htarget
      rw [htarget, hget] at hdead
      cases hdead
    · rw [hdead] at hfound
      cases hfound
  · intro ref before after hbefore hafter
    rw [Heap.get?_setContent hget] at hafter
    split at hafter
    · rename_i htarget
      rw [htarget, hget] at hbefore
      cases hbefore
      cases hafter
      rw [htarget]
      exact (Object.becomes_put htakes value).mono fun _ _ hput => ⟨rfl, hput⟩
    · rw [hbefore] at hafter
      cases hafter
      exact .refl before

end Endures

/-- Apart from what is written to objects, everything that the runtime does lets them endure. -/
theorem steady_endures (written : Writing) (h : Heap Object) :
    Steady (fun s => Endures written h s.heap) fun _ => True where
  misuse _ _ := trivial
  gate _ _ _ _ := ⟨trivial, trivial⟩
  retain _ _ _ hs hretain := hs.trans (.of_older (.retain hretain))
  allocate s object hs _ _ := hs.trans (.of_older (.allocate s.heap object))
  report _ _ hs := hs
  build s object hs _ := hs.trans (.of_older (.allocate s.heap object))
  release s ref hs := hs.trans (.of_older (.releaseAll s.heap [ref]))
  register _ _ hs := hs
  count _ _ hs := hs
  clear _ hs := hs

/-!
# Writing
-/

/-- What an operation may write in a runtime.  Only two requests write, each into one place of the
object that it is about. -/
def Op.Writes (s : Simulation) : Op → Writing
  | .request (.setAttr target name value) => fun ref place new =>
    s.phase = .running ∧ ref = target ∧ place = .field name ∧ new = value
  | .request (.setItem target key value) => fun ref place new =>
    s.phase = .running ∧ ref = target ∧ new = value ∧ ∃ object keyObject,
      s.heap.get? target = some object ∧ s.heap.get? key = some keyObject ∧
      object.keyed? keyObject = some place
  | _ => .nothing

section Writing

variable {s : Simulation} {target key value : Ref} {name : String}

/-- What is written after a reference was retained. -/
theorem endures_retain_put {h : Heap Object} {object : Object} {place : Place}
    (hretain : s.heap.retain? value = some h) (hget : s.heap.get? target = some object)
    (htakes : object.Takes place) :
    Endures (fun ref other new => ref = target ∧ other = place ∧ new = value) s.heap
      (h.setContent target (object.put value place)) :=
  .trans (.of_older (.retain hretain))
    (.setContent ((Heap.get?_retain hretain target).trans hget) htakes)

theorem endures_setAttr (hrunning : s.phase = .running) :
    Endures (Op.Writes s (.request (.setAttr target name value))) s.heap
      ((setAttr target name value).outcome s).2.heap := by
  have hsteady := steady_endures (Op.Writes s (.request (.setAttr target name value))) s.heap
  apply meets_iff_state.1 (meets_setAttr hsteady (.refl s.heap) _)
  intro h object attrs hretain hget hattrs
  have hput : object.withAttrs (attrs.insert name value) = object.put value (.field name) := by
    show _ = object.withAttrs ((object.attrs?.getD .empty).insert name value)
    rw [hattrs]
    rfl
  have htakes : object.Takes (.field name) := by
    show object.attrs?.isSome = true
    rw [hattrs]
    rfl
  rw [hput]
  exact (endures_retain_put hretain hget htakes).mono fun _ _ _ hwritten => ⟨hrunning, hwritten⟩

theorem endures_setItem (hrunning : s.phase = .running) :
    Endures (Op.Writes s (.request (.setItem target key value))) s.heap
      ((setItem target key value).outcome s).2.heap := by
  have hwrites : ∀ {object keyObject : Object} {place : Place},
      s.heap.get? target = some object → s.heap.get? key = some keyObject →
      object.keyed? keyObject = some place → ∀ ref other new,
        ref = target ∧ other = place ∧ new = value →
          Op.Writes s (.request (.setItem target key value)) ref other new := by
    rintro object keyObject place hget hkey hkeyed ref other new ⟨href, rfl, hnew⟩
    exact ⟨hrunning, href, hnew, object, keyObject, hget, hkey, hkeyed⟩
  have hsteady := steady_endures (Op.Writes s (.request (.setItem target key value))) s.heap
  refine meets_iff_state.1 (meets_setItem hsteady (.refl s.heap) ?_ ?_)
  · intro h items number index position hretain hget hkey hnumber hposition
    have hkeyed : (Object.list items).keyed? number = some (.slot position) := by
      show (number.int?.bind (resolveIndex · items.length)).map Place.slot = _
      rw [hnumber, Option.bind_some, hposition]
      rfl
    have htakes : (Object.list items).Takes (.slot position) :=
      ⟨items, rfl, resolveIndex_lt hposition⟩
    exact (endures_retain_put hretain hget htakes).mono (hwrites hget hkey hkeyed)
  · intro h attrs text name hretain hget hkey hname
    have hkeyed : (Object.bag attrs).keyed? text = some (.field name) := by
      show text.text?.map Place.field = _
      rw [hname]
      rfl
    have htakes : (Object.bag attrs).Takes (.field name) := rfl
    exact (endures_retain_put hretain hget htakes).mono (hwrites hget hkey hkeyed)

end Writing

end Simulation
end ForeignBridge
