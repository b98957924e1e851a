import ForeignBridge.Proofs.Chains.Agreeing
import ForeignBridge.Proofs.Chains.Writing
import ForeignBridge.Proofs.Heap.Entries
import ForeignBridge.Proofs.Names.Public

/-!
# Listing attributes

The names that an object answers when it is asked for its members are those of its own attributes and
those of its class.  They are the names under which an attribute is read, whether it is the own one, one
of the class, or a function of the class that is bound to the object.  To write an attribute adds its name
and no other, and takes none away.
-/

namespace ForeignBridge
namespace Simulation

/-- The names of an object's own attributes. -/
def ownNames (object : Object) : List String := (object.attrs?.map Table.names).getD []

/-- The names of an object's own attributes, and after them those of its class. -/
def namesOf (h : Heap Object) (ref : Ref) : List String :=
  ownNames (contentOf h ref) ++
    ((contentOf h ref).class?.map fun cls => ownNames (contentOf h cls)).getD []

variable {h h' : Heap Object} {s s' : Simulation} {depth : Nat} {ref target value : Ref}
  {name other : String}

theorem mem_ownNames {object : Object} :
    name ∈ ownNames object ↔ ∃ found, object.at? (.field name) = some found := by
  unfold ownNames Object.at?
  cases object.attrs? with
  | none => simp
  | some attrs => exact Table.mem_names_iff

/-- The names that are listed are those of attributes. -/
theorem mem_namesOf : name ∈ namesOf h ref ↔ ∃ a, attributeOf? h ref name = some a := by
  unfold namesOf attributeOf?
  rw [List.mem_append, mem_ownNames]
  cases hown : (contentOf h ref).at? (.field name) with
  | some own => simp
  | none =>
      cases hclass : (contentOf h ref).class? with
      | none => simp
      | some cls =>
          rw [Option.map_some, Option.getD_some, mem_ownNames, Option.bind_some]
          cases (contentOf h cls).at? (.field name) with
          | none => simp
          | some found => simp

/-!
# Requests
-/

/-- A live object answers its names, and nothing is different. -/
theorem outcome_memberNames_eq (hclosed : Closed s.heap) (hlive : s.heap.isLive ref = true) :
    (memberNames ref).outcome s = (.ok (namesOf s.heap ref), s) := by
  unfold memberNames namesOf ownNames
  rw [outcome_look (get?_contentOf hlive)]
  dsimp only
  cases hclass : (contentOf s.heap ref).class? with
  | none =>
      rw [Option.map_none, Option.getD_none, List.append_nil]
      rfl
  | some cls =>
      dsimp only
      rw [outcome_look (get?_contentOf (hclosed.isLive (class_mem_children hclass)))]
      rfl

/-- The request for an attribute succeeds. -/
def ReadsAttr (s : Simulation) (depth : Nat) (ref : Ref) (name : String) : Prop :=
  ∃ found s', (answer (run depth) (.getAttr ref name)).outcome s = (.ok (some found), s')

/-- An attribute is read exactly under the names that are listed. -/
theorem mem_namesOf_iff_readsAttr (hrunning : s.phase = .running) (hclosed : Closed s.heap)
    (hlive : s.heap.isLive ref = true) :
    name ∈ namesOf s.heap ref ↔ s.ReadsAttr depth ref name := by
  unfold ReadsAttr
  rw [mem_namesOf, outcome_answer_of_running hrunning]
  show _ ↔ ∃ found s', (getAttr ref name).outcome s = _
  rw [outcome_getAttr_eq hclosed hlive]
  cases attributeOf? s.heap ref name with
  | none => simp
  | some a => simp

/-!
# Writing
-/

theorem contentOf_eq {object : Object} (hget : h.get? ref = some object) : contentOf h ref = object := by
  unfold contentOf
  rw [hget]
  rfl

namespace Rewritten

variable (hw : Rewritten h target (.field name) value h')

include hw

/-- Other names than the one that was written are own names as before. -/
theorem mem_ownNames_of_ne {object found : Object} (hget : h.get? ref = some object)
    (hfound : h'.get? ref = some found) (hother : other ≠ name) :
    other ∈ ownNames found ↔ other ∈ ownNames object := by
  rw [mem_ownNames, mem_ownNames, hw.at? hget hfound fun _ heq => hother (Place.field.inj heq)]

/-- An object has the names that it had, and that of an attribute that was written into it. -/
theorem mem_namesOf (hclosed : Closed h) (hclosed' : Closed h') (hlive : h'.isLive target = true) :
    other ∈ namesOf h' target ↔ other = name ∨ other ∈ namesOf h target := by
  rcases hw.written with ⟨object, hget, htakes, hnew⟩
  have hfound := get?_contentOf hlive
  have hput := hnew _ hfound
  have hclass := hw.class? hget hfound
  unfold namesOf
  rw [List.mem_append, List.mem_append, contentOf_eq hget, hclass]
  by_cases hother : other = name
  · have hwritten : other ∈ ownNames (contentOf h' target) := by
      rw [mem_ownNames, hput, hother]
      exact ⟨value, Object.at?_put_self htakes value⟩
    exact iff_of_true (.inl hwritten) (.inl hother)
  · rw [hw.mem_ownNames_of_ne hget hfound hother]
    cases hcls : object.class? with
    | none => simp [hother]
    | some cls =>
        rcases hclosed target object hget cls (class_mem_children hcls) with ⟨class', hbefore⟩
        rcases hclosed' target _ hfound cls (class_mem_children (hclass.trans hcls)) with ⟨_, hafter⟩
        rw [Option.map_some, Option.getD_some, Option.map_some, Option.getD_some,
          contentOf_eq hbefore, contentOf_eq hafter, hw.mem_ownNames_of_ne hbefore hafter hother]
        simp [hother]

end Rewritten

end Simulation

namespace Context

open Simulation Crossing

variable (ctx : Context) {s t : Simulation} {base : Multiset Ref} {depth : Nat} {h : Handle}

/-!
# Members of a handle
-/

/-- The members of a handle are the public names of its object. -/
theorem comes_memberNames (hready : s.Ready) (hclosed : Closed s.heap)
    (hlive : s.heap.isLive h.ref = true) :
    (ctx.memberNames h).Comes (answer (run depth)) s (.ok (publicNames (namesOf s.heap h.ref))) s := by
  have hserve : (Simulation.serve (run depth) (.memberNames h.ref)).outcome s =
      (.ok (some (namesOf s.heap h.ref)), s) := by
    show (Simulation.memberNames h.ref >>= fun names => pure (some names)).outcome s = _
    rw [Attempt.outcome_bind, Simulation.outcome_memberNames_eq hclosed hlive]
    rfl
  exact Comes.bind (comes_served hready hserve)
    (Comes.bind (Comes.bind (comes_errorPending hready) Comes.pure) Comes.pure)

/-- What comes through a check leaves the runtime as it is, in which no error is pending. -/
theorem eq_of_checkValue {α : Type} {operation : Operation} {answered : Option α} {a : α}
    (hcomes : (ctx.checkValue operation answered).Comes (answer (run depth)) s (.ok a) t) :
    t = s ∧ s.pending = none := by
  rcases hcomes.of_bind with ⟨pending, middle, hasked, hrest⟩
  rcases errorPending_of_answer hasked.of_ask with ⟨hpending, hmiddle⟩
  rw [hpending, hmiddle] at hrest
  cases hcalm : s.pending with
  | some diagnostic =>
      rw [hcalm] at hrest
      rcases hrest.of_bind with ⟨_, _, _, hfail⟩
      exact absurd hfail ctx.not_fail
  | none =>
      rw [hcalm] at hrest
      cases answered with
      | none => exact absurd hrest ctx.not_fail
      | some found => exact ⟨hrest.of_pure.2, rfl⟩

/-- Members are answered only by a runtime that runs, while no error is pending. -/
theorem ready_of_memberNames (hclosed : Closed s.heap) (hlive : s.heap.isLive h.ref = true)
    {names : List String}
    (hcomes : (ctx.memberNames h).Comes (answer (run depth)) s (.ok names) t) : s.Ready := by
  rcases hcomes.of_bind with ⟨answered, s₁, hask, hrest⟩
  have hrunning := running_of_ask hask
  have houtcome : (Simulation.memberNames h.ref >>= fun names => pure (some names)).outcome s =
      (.ok answered, s₁) := (serve_of_answer hask.of_ask).2
  rw [Attempt.outcome_bind, Simulation.outcome_memberNames_eq hclosed hlive] at houtcome
  cases houtcome
  rcases hrest.of_bind with ⟨listed, s₂, hcheck, -⟩
  exact ⟨hrunning, (ctx.eq_of_checkValue hcheck).2⟩

/-- A field that was set is written into the object of the handle. -/
theorem wrote_setField (hs : s.Sound base) (hready : s.Ready) (hown : h.context = ctx.id)
    {name : String} {v : Value} {reply : Reply}
    (hcomes : (ctx.serve (.setField (.handle h) name v)).Comes (answer (run depth)) s (.ok reply) t) :
    ∃ value, Wrote s base 0 h.ref (.field name) value t := by
  rw [ctx.serve_setField hown] at hcomes
  rcases hcomes.of_bind with ⟨_, _, hretained, -⟩
  rcases exists_of_retain hretained with ⟨object, hget⟩
  rcases comes_retain depth (Holds.refl hs hready) hget with ⟨s₁, hretain, hs₁⟩
  rcases (hcomes.of_bind_of_comes hretain).of_owningAll with ⟨s₂, hbody, hrelease⟩
  rcases hbody.of_bind with ⟨_, s₃, hassign, hpure⟩
  rcases hpure.of_pure with ⟨-, rfl⟩
  rcases ctx.wrote_assign hs hs₁ hget rfl hassign with ⟨value, given, -, hwrote⟩
  exact ⟨value, hwrote.release hrelease⟩

end Context
end ForeignBridge
