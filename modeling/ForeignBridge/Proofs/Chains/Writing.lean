import ForeignBridge.Proofs.Chains.Following

/-!
# Writing through chains

A write at the end of a chain of lookups succeeds only where there is a place for what is written.  Then
the object that the chain leads to has it in that place, and no other object that lives on is
different.  The reference that was there before is given back, so objects may die, but none that is
held or that a held object leads to.

The chain can then be read.  It comes to the object that was written, because none of its links before
the last one looks at the place.
-/

namespace ForeignBridge
namespace Simulation

open Attempt

variable {first s s' : Simulation} {base held : Multiset Ref} {depth : Nat} {target value : Ref}
  {place : Place}

/-!
# Single writes
-/

theorem returns_retain_eq (ref : Ref) :
    (retain ref).Returns s fun _ s' =>
      ∃ heap, s.heap.retain? ref = some heap ∧ s' = { s with heap := heap } := by
  unfold retain
  rw [returns_bind, returns_get]
  cases hretain : s.heap.retain? ref with
  | none => exact returns_throw
  | some heap => exact ⟨heap, rfl, rfl⟩

theorem returns_releaseOld_older (previous : Option Ref) :
    (releaseOld previous).Returns s fun _ s' => s.heap.Older s'.heap := by
  cases previous with
  | none => exact Heap.Older.refl s.heap
  | some old =>
      refine returns_mono (fun _ s' h => ?_) (returns_release_eq old)
      rw [h]
      exact Heap.Older.releaseAll s.heap [old]

/-- A reference that was acquired is put into a place, and what was there is given back. -/
theorem returns_put {heap : Heap Object} (hretain : s.heap.retain? value = some heap)
    {object : Object} (hget : s.heap.get? target = some object) (htakes : object.Takes place)
    (previous : Option Ref) :
    (store target (object.put value place) >>= fun _ => releaseOld previous >>= fun _ =>
      pure true).Returns { s with heap := heap } fun _ s' =>
        Rewritten s.heap target place value s'.heap := by
  have hwritten : Rewritten s.heap target place value
      (heap.setContent target (object.put value place)) := by
    apply Rewritten.setContent hget htakes _ (Heap.get?_retain hretain)
    exact (Heap.size_retain? hretain).2.symm
  rw [returns_bind]
  show (releaseOld previous >>= fun _ => pure true).Returns
    { s with heap := heap.setContent target (object.put value place) } _
  rw [returns_bind]
  exact returns_mono (fun _ _ hold => hwritten.older hold) (returns_releaseOld_older previous)

/-- An attribute is written if the object has attributes. -/
theorem setAttr_rewrites (name : String) :
    (setAttr target name value).Returns s fun ok s' =>
      ok = true → Rewritten s.heap target (.field name) value s'.heap := by
  unfold setAttr
  rw [returns_bind]
  apply returns_access
  intro object hget
  cases hattrs : object.attrs? with
  | none =>
      have hread : Read s true s s := Read.refl nofun
      refine returns_mono (fun ok s' h => ?_)
        (returns_complaint_read target "AttributeError" _ false hread)
      rw [h.1]
      exact nofun
  | some attrs =>
      dsimp only
      rw [returns_bind]
      refine returns_mono (fun _ s' hretained => ?_) (returns_retain_eq value)
      rcases hretained with ⟨heap, hretain, rfl⟩
      rw [returns_bind]
      apply returns_access
      intro found hfound
      rw [Heap.get?_retain hretain, hget] at hfound
      cases hfound
      have htakes : object.Takes (.field name) := by
        show object.attrs?.isSome = true
        rw [hattrs]
        rfl
      exact returns_mono (fun _ _ hwritten _ => hwritten) (returns_put hretain hget htakes _)

/-- An item is written if the object is a list that has the position. -/
theorem setItem_rewrites {key : Ref} {number : Object} {index : Int} (hindex : 0 ≤ index)
    (hkey : s.heap.get? key = some number) (hnumber : number.int? = some index) :
    (setItem target key value).Returns s fun ok s' =>
      ok = true → Rewritten s.heap target (.slot index.toNat) value s'.heap := by
  unfold setItem
  rw [returns_bind]
  refine returns_mono (fun type s' h => ?_) (returns_displayType target)
  rw [h, returns_bind]
  apply returns_access
  intro found hfound
  rw [hkey] at hfound
  cases hfound
  rw [returns_bind]
  refine returns_mono (fun _ s' hretained => ?_) (returns_retain_eq value)
  rcases hretained with ⟨heap, hretain, rfl⟩
  have hrefused : ∀ kind message, (release value >>= fun _ => failWith kind message false).Returns
      { s with heap := heap } fun ok s'' =>
        ok = true → Rewritten s.heap target (.slot index.toNat) value s''.heap := by
    intro kind message
    rw [returns_bind]
    refine returns_mono (fun _ s'' _ => ?_) (returns_release_eq value)
    refine returns_mono (fun ok s₃ h => ?_) (returns_failWith kind message false)
    rw [h.1]
    exact nofun
  dsimp only
  rw [returns_bind]
  apply returns_access
  intro object hget
  rw [Heap.get?_retain hretain] at hget
  cases object with
  | list items =>
      dsimp only
      rw [hnumber, Option.bind_some]
      cases hresolve : resolveIndex index items.length with
      | none => exact hrefused _ _
      | some position =>
          rcases position_of_resolveIndex hindex hresolve with ⟨rfl, hlt⟩
          have htakes : (Object.list items).Takes (.slot index.toNat) := ⟨items, rfl, hlt⟩
          exact returns_mono (fun _ _ hwritten _ => hwritten) (returns_put hretain hget htakes _)
  | bag attrs =>
      dsimp only
      rw [text?_of_int? hnumber]
      exact hrefused _ _
  | _ => exact hrefused _ _

/-!
# After a write
-/

/-- One place of the first heap is rewritten, and some references are held beyond those that were
held at first. -/
structure Wrote (first : Simulation) (base held : Multiset Ref) (target : Ref) (place : Place)
    (value : Ref) (s : Simulation) : Prop where
  sound : s.Sound (held + base)
  ready : s.Ready
  rewritten : Rewritten first.heap target place value s.heap

namespace Wrote

theorem of_eq {held' : Multiset Ref} (h : Wrote first base held target place value s)
    (heq : held = held') : Wrote first base held' target place value s := heq ▸ h

theorem retain (h : Wrote first base held target place value s) {ref : Ref}
    (hcomes : (Crossing.ask (.retain ref)).Comes (answer (run depth)) s (.ok ()) s') :
    Wrote first base ({ref} + held) target place value s' := by
  have houtcome := hcomes.of_ask
  rw [outcome_answer_of_running h.ready.running] at houtcome
  rcases returns_of_outcome (returns_retain_eq ref) houtcome with ⟨heap, hretain, rfl⟩
  have hsound := returns_of_outcome (returns_retain ref h.sound) houtcome
  refine ⟨?_, ⟨h.ready.running, h.ready.quiet⟩, h.rewritten.older (Heap.Older.retain hretain)⟩
  rw [add_assoc]
  exact hsound.1

theorem release {ref : Ref} (h : Wrote first base ({ref} + held) target place value s)
    (hsucceeds : (Program.releaseAll [ref]).Succeeds (answer (run depth)) s () s') :
    Wrote first base held target place value s' := by
  have hs := h.sound
  rw [add_assoc] at hs
  have hsound := returns_of_outcome (keeps_release ref s _ hs) (outcome_release hs)
  rw [zero_add] at hsound
  rw [eq_of_released hs h.ready hsucceeds]
  exact ⟨hsound, ⟨h.ready.running, h.ready.quiet⟩,
    h.rewritten.older (Heap.Older.releaseAll s.heap [ref])⟩

end Wrote

section Requests

variable (h : Holds first base held s) {object : Object}
  (hget : first.heap.get? target = some object)

include h hget

theorem Holds.wrote (hsame : SameButHeap s s') (hsound : s'.Sound (held + base))
    (hrewritten : Rewritten s.heap target place value s'.heap) :
    Wrote first base held target place value s' := by
  rcases hsame with ⟨heap, rfl⟩
  exact ⟨hsound, ⟨h.ready.running, h.ready.quiet⟩, hrewritten.of_goesOn h.intact.goesOn hget⟩

theorem Holds.setAttr {name : String}
    (houtcome : (Simulation.setAttr target name value).outcome s = (.ok true, s')) :
    Wrote first base held target (.field name) value s' := by
  have hwritten : (Simulation.setAttr target name value).Returns s fun ok s' =>
      Written first true s ok s' := returns_setAttr target name value nofun
  have hsame := returns_of_outcome hwritten houtcome
  have hkeeps : (Simulation.setAttr target name value).Returns s fun _ s' =>
      s'.Sound (held + base) := keeps_setAttr target name value s base h.sound
  have hsound := returns_of_outcome hkeeps houtcome
  exact h.wrote hget hsame hsound (returns_of_outcome (setAttr_rewrites name) houtcome rfl)

theorem Holds.setItem (hfirst : first.Sound base) {key : Ref} {number : Object} {index : Int}
    (hindex : 0 ≤ index) (hkey : s.heap.get? key = some number) (hnumber : number.int? = some index)
    (houtcome : (Simulation.setItem target key value).outcome s = (.ok true, s')) :
    Wrote first base held target (.slot index.toNat) value s' := by
  have hwritten : (Simulation.setItem target key value).Returns s fun ok s' =>
      Written first true s ok s' := returns_setItem hfirst target key value h.sound nofun
  have hsame := returns_of_outcome hwritten houtcome
  have hkeeps : (Simulation.setItem target key value).Returns s fun _ s' =>
      s'.Sound (held + base) := keeps_setItem target key value s base h.sound
  have hsound := returns_of_outcome hkeeps houtcome
  exact h.wrote hget hsame hsound
    (returns_of_outcome (setItem_rewrites hindex hkey hnumber) houtcome rfl)

end Requests

end Simulation

namespace Context

open Simulation Crossing

variable (ctx : Context) {α : Type} {first s s' : Simulation} {base held : Multiset Ref} {depth : Nat}
  {target value : Ref} {object : Simulation.Object}

theorem of_checkStatus {operation : Operation} {ok : Bool}
    (hcomes : (ctx.checkStatus operation ok).Comes (answer (run depth)) s (.ok ()) s') : ok = true := by
  have hanswered := ctx.of_checkValue hcomes
  cases ok with
  | true => rfl
  | false => cases hanswered

/-- A check leaves a runtime without a pending error as it is. -/
theorem checkStatus_same {operation : Operation} {ok : Bool} (hready : s.Ready)
    (hcomes : (ctx.checkStatus operation ok).Comes (answer (run depth)) s (.ok ()) s') : s' = s := by
  have hrest := hcomes.of_bind_of_comes (comes_errorPending hready)
  rw [ctx.of_checkStatus hcomes] at hrest
  exact hrest.of_pure.2

theorem wrote_setAttr (h : Holds first base held s) (hget : first.heap.get? target = some object)
    {name : String}
    (hcomes : (ctx.setAttr target name value).Comes (answer (run depth)) s (.ok ()) s') :
    Wrote first base held target (.field name) value s' := by
  have hasked := hcomes.of_bind_of_comes Comes.note
  rcases hasked.of_bind with ⟨ok, s₁, hask, hcheck⟩
  have houtcome := hask.of_ask
  rw [outcome_answer_of_running h.ready.running, ctx.of_checkStatus hcheck] at houtcome
  have hwrote := h.setAttr hget houtcome
  rw [ctx.checkStatus_same hwrote.ready hcheck]
  exact hwrote

theorem wrote_setItem (hfirst : first.Sound base) (h : Holds first base held s)
    (hget : first.heap.get? target = some object) {arguments : List Value} {place : Place}
    (hplace : slotOf? arguments = some place)
    (hcomes : (ctx.setItem target arguments value).Comes (answer (run depth)) s (.ok ()) s') :
    Wrote first base held target place value s' := by
  rcases exists_of_slotOf? hplace with ⟨index, hposition, rfl⟩
  rcases ctx.comes_keyToForeign depth h hposition with
    ⟨key, number, s₁, hmade, hs₁, hkey, hnumber⟩
  rcases (hcomes.of_bind_of_comes hmade).of_owningAll with ⟨s₂, hbody, hrelease⟩
  have hasked := hbody.of_bind_of_comes Comes.note
  rcases hasked.of_bind with ⟨ok, s₃, hask, hcheck⟩
  have houtcome := hask.of_ask
  rw [outcome_answer_of_running hs₁.ready.running, ctx.of_checkStatus hcheck] at houtcome
  have hwrote := hs₁.setItem hget hfirst (position_within arguments index hposition).1 hkey hnumber
    houtcome
  rw [ctx.checkStatus_same hwrote.ready hcheck] at hrelease
  exact hwrote.release hrelease

/-- What is written at the last link of a chain is the counterpart of the value. -/
theorem wrote_assign (hfirst : first.Sound base) (h : Holds first base held s)
    (hget : first.heap.get? target = some object) {last : Accessor} {place : Place} {v : Value}
    (hplace : last.place? = some place)
    (hcomes : (ctx.assign target v last).Comes (answer (run depth)) s (.ok ()) s') :
    ∃ value given, (ctx.toForeign v).Comes (answer (run depth)) s (.ok value) given ∧
      Wrote first base held target place value s' := by
  have hitem : ∀ arguments, slotOf? arguments = some place →
      (do
        if ← Crossing.ask (.supportsIndexing target) then
          let ref ← ctx.toForeign v
          Crossing.owning ref (ctx.setItem target arguments ref)
        else refuseKind target .notAssignable : Crossing Unit).Comes (answer (run depth)) s (.ok ()) s' →
      ∃ value given, (ctx.toForeign v).Comes (answer (run depth)) s (.ok value) given ∧
        Wrote first base held target place value s' := by
    intro arguments hplace hcomes
    have hrest := hcomes.of_bind_of_comes (comes_supportsIndexing h hget)
    cases hindexing : object.supportsIndexing with
    | false =>
        rw [hindexing] at hrest
        exact absurd hrest not_refuseKind
    | true =>
        rw [hindexing] at hrest
        rcases hrest.of_bind with ⟨value, given, hmade, howning⟩
        rcases howning.of_owningAll with ⟨s₁, hset, hrelease⟩
        have hwrote := ctx.wrote_setItem hfirst (holds_toForeign hfirst ctx h hmade) hget hplace hset
        exact ⟨value, given, hmade, hwrote.release hrelease⟩
  cases last with
  | field name =>
      cases hplace
      rcases hcomes.of_bind with ⟨value, given, hmade, howning⟩
      rcases howning.of_owningAll with ⟨s₁, hset, hrelease⟩
      have hwrote := ctx.wrote_setAttr (holds_toForeign hfirst ctx h hmade) hget hset
      exact ⟨value, given, hmade, hwrote.release hrelease⟩
  | call arguments => exact hitem arguments hplace hcomes
  | index arguments => exact hitem arguments hplace hcomes

/-!
# Writes through chains
-/

section Chains

variable {root : Handle} {chain : List Accessor} {last : Accessor} {place : Place} {v : Value}

theorem of_requireOwn (hcomes : (ctx.requireOwn root).Comes (answer (run depth)) s (.ok ()) s') :
    root.context = ctx.id := by
  unfold requireOwn at hcomes
  by_cases hown : root.context = ctx.id
  · exact hown
  · rw [if_neg hown] at hcomes
    exact absurd hcomes Comes.not_throw

/-- Only a running runtime answers. -/
theorem running_of_ask {r : Request} {given : r.Answer}
    (hcomes : (Crossing.ask r).Comes (answer (run depth)) s (.ok given) s') : s.phase = .running := by
  have houtcome := hcomes.of_ask
  unfold answer at houtcome
  rw [Attempt.outcome_bind] at houtcome
  rcases hrequire : (requireRunning r.method).outcome s with ⟨outcome, s''⟩
  rw [hrequire] at houtcome
  cases outcome with
  | error panic => cases houtcome
  | ok _ => exact (Attempt.returns_of_outcome (returns_requireRunning r.method) hrequire).2

/-- A reference can only be acquired to an object that lives. -/
theorem exists_of_retain {ref : Ref}
    (hcomes : (Crossing.ask (.retain ref)).Comes (answer (run depth)) s (.ok ()) s') :
    ∃ object, s.heap.get? ref = some object := by
  have houtcome := hcomes.of_ask
  rw [outcome_answer_of_running (running_of_ask hcomes)] at houtcome
  rcases Attempt.returns_of_outcome (returns_retain_eq ref) houtcome with ⟨heap, hretain, -⟩
  rcases Option.map_eq_some_iff.1 hretain with ⟨slot, hslot, -⟩
  refine ⟨slot.content, ?_⟩
  unfold Heap.get?
  rw [hslot]
  rfl

/-- Nothing is written into a method. -/
theorem not_assign_of_isMethod (hs : s.Sound base) (hready : s.Ready)
    (hget : s.heap.get? target = some object) (hmethod : object.isMethod = true)
    (hplace : last.place? = some place) :
    ¬ (ctx.assign target v last).Comes (answer (run depth)) s (.ok ()) s' := by
  intro hcomes
  rcases ctx.wrote_assign hs (Holds.refl hs hready) hget hplace hcomes with ⟨value, given, -, hwrote⟩
  rcases hwrote.rewritten.written with ⟨found, hfound, htakes, -⟩
  rw [hget] at hfound
  cases hfound
  cases object with
  | boundMethod receiver function =>
      cases place with
      | field name => cases htakes
      | slot position =>
          rcases htakes with ⟨items, hlist, -⟩
          cases hlist
  | _ => cases hmethod

/-- A write through a chain of lookups that succeeds returns its root, and rewrites one place of the
object that the chain leads to.  The value is converted when the end of the chain is reached, where
all is as it was at first but for the reference that is held. -/
theorem wrote_serve (hs : s.Sound base) (hcalm : s.pending = none)
    (hlooks : Looks s.heap root.ref chain) (hplace : last.place? = some place) {reply : Reply}
    (hcomes : (ctx.serve (.assign root (chain ++ [last]) v)).Comes (answer (run depth)) s (.ok reply)
      s') :
    root.context = ctx.id ∧ reply = .value (.foreign root) ∧ ∃ target value start given,
      follow? s.heap root.ref chain = some target ∧ Undone s start ∧
      (ctx.toForeign v).Comes (answer (run depth)) (start.lending {target}) (.ok value) given ∧
      Wrote s base {root.ref} target place value s' := by
  rcases hcomes.of_bind with ⟨⟨⟩, _, hrequire, hrest⟩
  have hown := ctx.of_requireOwn hrequire
  rcases hrequire.unique (ctx.comes_requireOwn hown) with ⟨-, rfl⟩
  rcases hrest.of_bind with ⟨returned, _, hassign, hreply⟩
  rcases hreply.of_pure with ⟨rfl, rfl⟩
  unfold assignChain at hassign
  rw [List.getLast?_concat, List.dropLast_concat] at hassign
  rcases hassign.of_bind with ⟨_, _, hacquire, -⟩
  rcases hacquire.of_bind with ⟨⟨⟩, _, hretained, -⟩
  rcases exists_of_retain hretained with ⟨object, hroot⟩
  rcases comes_retain depth (Holds.refl hs ⟨running_of_ask hretained, hcalm⟩) hroot with
    ⟨s₁, hretain, hs₁⟩
  rcases (hassign.of_bind_of_comes (Comes.bind hretain Comes.pure)).of_bind with
    ⟨target, s₂, hwalk, howning⟩
  rcases howning.of_owningAll with ⟨s₃, hbody, hrelease⟩
  rcases hbody.of_bind with ⟨⟨⟩, s₄, hwritten, hagain⟩
  rcases ctx.of_walk hs (hs₁.of_eq (add_zero _)) hroot hlooks hwalk with
    hfollow | ⟨hs₂, method, hmethod, his⟩
  · rcases ctx.comes_walk depth hs (hs₁.of_eq (add_zero _)) hfollow with ⟨s₂', hwalk', hs₂⟩
    rcases hwalk.unique hwalk' with ⟨-, rfl⟩
    rcases exists_last (closed_of_balanced hs.balanced) hfollow hroot with ⟨found, hget⟩
    rcases ctx.wrote_assign hs hs₂ hget hplace hwritten with ⟨value, given, hmade, hwrote⟩
    rcases hagain.of_bind with ⟨_, s₅, hacquire, hreturn⟩
    rcases hreturn.of_pure with ⟨rfl, rfl⟩
    rcases hacquire.of_bind with ⟨⟨⟩, s₆, hretain, hpure⟩
    rcases hpure.of_pure with ⟨-, rfl⟩
    have hheld := (hwrote.retain hretain).of_eq (add_comm _ _)
    rcases hs₂.exists_lending hs hget with ⟨start, hlending, hstart⟩
    rw [hlending] at hmade
    exact ⟨hown, rfl, target, value, start, given, hfollow, hstart.undone hs, hmade,
      hheld.release hrelease⟩
  · exact absurd hwritten (ctx.not_assign_of_isMethod hs₂.sound hs₂.ready hmethod his hplace)

end Chains

end Context

namespace Simulation

open Attempt

variable {first s : Simulation} {base held : Multiset Ref} {target value : Ref} {place : Place}

/-- The chain leads to what was written, and its links before the last one to the object in which. -/
theorem Wrote.follow? (h : Wrote first base held target place value s) {root : Ref}
    (hroot : root ∈ held) {chain : List Accessor} {last : Accessor}
    (hspared : Spares first.heap target place root chain) (hplace : last.place? = some place)
    (hfollow : Simulation.follow? first.heap root chain = some target) :
    Simulation.follow? s.heap root (chain ++ [last]) = some value ∧
      ∃ object, first.heap.get? target = some object ∧
        s.heap.get? target = some (object.put value place) := by
  rcases h.sound.exists_held (Multiset.mem_add.2 (.inl hroot)) with ⟨found, hfound⟩
  rcases h.rewritten.follow? (closed_of_balanced h.sound.balanced) hfound hspared hfollow with
    ⟨hbefore, later, hlater⟩
  rcases h.rewritten.written with ⟨object, hget, -, hnew⟩
  refine ⟨?_, object, hget, ?_⟩
  · rw [follow?_append, hbefore, Option.bind_some]
    unfold Simulation.follow?
    rw [h.rewritten.next?_target hlater hplace]
    rfl
  · rw [← hnew later hlater]
    exact hlater

end Simulation
end ForeignBridge
