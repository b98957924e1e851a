import ForeignBridge.Proofs.Chains.Factoring
import ForeignBridge.Proofs.Session.Classification

/-!
# The end of a chain

A walk along a chain ends at an object to which it holds a reference.  The rest of the chain starts from
there: whatever it does, that reference is given back in the end, and then the object may be gone.  What
was read meanwhile is nevertheless converted to the value that it had at the end of the walk.
-/

namespace ForeignBridge

namespace Heap

variable {α : Type} {h h' : Heap α} {ref : Ref}

/-- Where everything that was there at first is there, nothing of it is different. -/
theorem GoesOn.older [Linked α] (hon : h.GoesOn h') : h.Older h' :=
  ⟨hon.grows, fun ref _ hid hget => (hon.same ref hid).symm.trans hget⟩

/-- A reference to what is dead cannot be lent. -/
theorem lent_of_dead (hdead : h.get? ref = none) (held : Multiset Ref) :
    h.lent (ref ::ₘ held) = h.lent held := by
  have hslot : h.slot? ref = none := Option.map_eq_none_iff.1 hdead
  have hslots : (h.lent (ref ::ₘ held)).slots = (h.lent held).slots := by
    apply Array.ext_getElem?
    intro id
    unfold lent
    rw [Array.getElem?_mapIdx, Array.getElem?_mapIdx]
    by_cases hid : (⟨id⟩ : Ref) = ref
    · rw [← hid] at hslot
      rcases hfound : h.slots[id]? with - | (- | live)
      · rfl
      · rfl
      · rw [show h.slot? ⟨id⟩ = some live from Option.join_eq_some_iff.2 hfound] at hslot
        cases hslot
    · rw [Multiset.count_cons_of_ne hid]
  exact congrArg Heap.mk hslots

end Heap

namespace Simulation

open Attempt

variable {α : Type} {s t : Simulation} {base held : Multiset Ref} {depth : Nat} {ref : Ref}

/-!
# What is held
-/

theorem keptBy_ownership (depth : Nat) (held : Multiset Ref) :
    ownership.KeptBy (answer (run depth)) (fun owned s => s.Sound (owned + held)) fun _ => True :=
  ownership_keptBy (fun r s held hs => keeps_answer (runsHonestly_run depth) r s held hs) held

/-- A runtime that serves requests.  It is sound while some references are held, and all of its numbers
are of the kinds that they carry. -/
structure Serving (s : Simulation) (held : Multiset Ref) : Prop where
  sound : s.Sound held
  ready : s.Ready
  genuine : s.Genuine

namespace Serving

theorem readable (h : s.Serving held) : s.Readable := readable_of_sound h.sound h.ready h.genuine

theorem of_eq {held' : Multiset Ref} (h : s.Serving held) (heq : held = held') : s.Serving held' :=
  heq ▸ h

/-- What is held lives. -/
theorem isLive (h : s.Serving held) (href : ref ∈ held) : s.heap.isLive ref = true := by
  rcases h.sound.exists_held href with ⟨object, hget⟩
  exact Heap.isLive_of_get? hget

/-- A crossing that leaves a runtime sound and ready leaves it serving. -/
theorem after {held' : Multiset Ref} (h : s.Serving held) {c : Crossing α}
    {outcome : Except BridgeError α} (hcomes : c.Comes (answer (run depth)) s outcome t)
    (hsound : t.Sound held') (hready : t.Ready) : t.Serving held' :=
  ⟨hsound, hready, upheld_of_comes lasting_genuine h.genuine hcomes⟩

/-- A crossing that owns no more than its result leaves a runtime in which that is held besides, if no
error is pending then. -/
theorem of_comes (h : s.Serving held) {c : Crossing α} {after : α → Multiset Ref}
    (howns : c.Owns 0 after) {a : α} (hcomes : c.Comes (answer (run depth)) s (.ok a) t)
    (hcalm : t.pending = none) : t.Serving (after a + held) := by
  have hs : s.Sound (0 + 0 + held) := by
    rw [zero_add, zero_add]
    exact h.sound
  rcases Program.Succeeds.follows (keptBy_ownership depth held) hcomes (howns 0) hs with
    ⟨owned, howned, ht⟩
  have hall : owned = after a + 0 := howned
  rw [hall, add_zero] at ht
  exact h.after hcomes ht ⟨(phase_of_comes hcomes).trans h.ready.running, hcalm⟩

/-- What is held is given back. -/
theorem release (h : s.Serving ({ref} + held)) (depth : Nat) :
    ∃ t, (Program.releaseAll [ref]).Succeeds (answer (run depth)) s () t ∧ t.Serving held ∧
      s.heap.Older t.heap := by
  have houtcome := outcome_release h.sound
  have hsound := returns_of_outcome (keeps_release ref s held h.sound) houtcome
  rw [zero_add] at hsound
  have hanswer : (answer (run depth) (.release ref)).outcome s = _ :=
    (outcome_answer_of_running h.ready.running _).trans houtcome
  exact ⟨_, .ask hanswer (.done () _), ⟨hsound, ⟨h.ready.running, h.ready.quiet⟩,
    h.genuine.releaseAll [ref]⟩, Heap.Older.releaseAll s.heap [ref]⟩

end Serving

/-!
# Reading what is held
-/

/-- A runtime owes the references that it lends. -/
theorem exists_owes_lending (s : Simulation) (held : Multiset Ref) :
    ∃ debts, (s.lending held).Owes debts s := by
  induction held using Multiset.induction_on with
  | empty =>
      rw [lending_zero]
      exact ⟨[], Owes.refl s⟩
  | cons ref held ih =>
      rcases ih with ⟨debts, howes⟩
      cases hget : s.heap.get? ref with
      | none =>
          unfold lending
          rw [Heap.lent_of_dead hget]
          exact ⟨debts, howes⟩
      | some object =>
          have houtcome : (retain ref).outcome (s.lending held) = (.ok (), s.lending (ref ::ₘ held)) :=
            outcome_retain (Heap.retain?_lent hget held)
          exact ⟨_, (owes_of_retain houtcome).trans howes⟩

/-- An object that is held is converted to its value, also if nobody else holds it. -/
theorem comes_toHost_held (h : s.Serving ({ref} + held)) (depth : Nat) (ctx : Context) :
    ∃ t, (ctx.toHost ref).Comes (answer (run depth)) s
      (hostValue s.heap ctx.id ctx.settings.matrixAutoconversion ref) t := by
  have hends : ∀ lent, ∃ t, (s.lender depth).Ends ref lent t := by
    intro lent
    rcases exists_owes_lending s lent with ⟨debts, howes⟩
    have hpaced := defers_release ref debts s (s.lending lent) howes
    rcases returns_of_outcome hpaced (outcome_release h.sound) with ⟨t, houtcome, -⟩
    have hrunning : (s.lending lent).phase = .running := h.ready.running
    exact ⟨t, (outcome_answer_of_running hrunning _).trans houtcome⟩
  choose after hafter using fun outcome => hends (lentBy Value.refs 0 outcome)
  have hlive : (s.lender depth).Knows ref :=
    h.isLive (Multiset.mem_add.2 (.inl (Multiset.mem_singleton_self ref)))
  have hcomes := ctx.comes_toHost (serves_lender h.readable) hlive hafter
  rw [show (s.lender depth).lending 0 = s from lending_zero s] at hcomes
  exact ⟨_, hcomes⟩

/-- The value of an object that is held stays the same while other references are given back. -/
theorem hostValue_of_released {other : Ref} (h : s.Serving ({other} + ({ref} + held)))
    (hrelease : (Program.releaseAll [other]).Succeeds (answer (run depth)) s () t) (ctx : Context) :
    hostValue t.heap ctx.id ctx.settings.matrixAutoconversion ref =
      hostValue s.heap ctx.id ctx.settings.matrixAutoconversion ref := by
  rcases h.release depth with ⟨t', hrelease', ht, -⟩
  rcases hrelease.unique hrelease' with ⟨-, rfl⟩
  rcases comes_toHost_held ht depth ctx with ⟨after, hafter⟩
  rcases (owes_of_releaseAll hrelease).exists_comes hafter with ⟨after', hafter', -⟩
  rcases comes_toHost_held (h.of_eq (add_left_comm _ _ _)) depth ctx with ⟨before, hbefore⟩
  exact (hafter'.unique hbefore).1

end Simulation

namespace Context

open Crossing Simulation

variable (ctx : Context) {s t : Simulation} {base : Multiset Ref} {depth : Nat} {root : Handle}
  {chain : List Accessor} {link : Accessor} {target : Ref}

/-!
# The last link
-/

/-- Walks along a chain from the object of a handle. -/
def reach (root : Handle) (chain : List Accessor) : Crossing Ref := do
  let first ← acquire root
  ctx.walk first chain

theorem serve_read_concat (hown : root.context = ctx.id) (chain : List Accessor) (link : Accessor) :
    ctx.serve (.read root (chain ++ [link])) = ctx.reach root chain >>= fun target =>
      owning target (ctx.step target link) >>= fun last =>
        ctx.toHost last >>= fun v => pure (.value v) := by
  rw [ctx.serve_read hown (List.append_ne_nil_of_right_ne_nil chain (List.cons_ne_nil link []))]
  unfold reach acquire
  simp only [walk_append, walk, bind_assoc, pure_bind, bind_pure]

theorem serve_assign_concat (hown : root.context = ctx.id) (chain : List Accessor) (link : Accessor)
    (v : Value) :
    ctx.serve (.assign root (chain ++ [link]) v) = ctx.reach root chain >>= fun target =>
      owning target (ctx.assign target v link >>= fun _ => acquire root >>= fun _ => pure root) >>=
        fun h => pure (.value (.foreign h)) := by
  show (ctx.requireOwn root >>= fun _ => ctx.assignChain root (chain ++ [link]) v >>= fun h =>
    pure (Reply.value (.foreign h))) = _
  rw [ctx.serve_of_own hown]
  unfold assignChain reach
  rw [List.getLast?_concat, List.dropLast_concat]
  simp only [bind_assoc]

theorem owns_reach (root : Handle) (chain : List Accessor) :
    (ctx.reach root chain).Owns 0 fun target => {target} := by
  have htidy : Crossing.Tidy ctx false [] 0 (ctx.reach root chain) fun target => {target} := by
    unfold reach acquire
    rw [bind_assoc]
    exact .bind .retain fun _ => ctx.tidy_walk root.ref chain
  exact htidy.owns

/-- A runtime in which a walk ended goes on serving. -/
theorem serving_of_reach (hs : s.Serving base)
    (hreach : (ctx.reach root chain).Comes (answer (run depth)) s (.ok target) t) :
    t.Serving ({target} + base) := by
  refine hs.of_comes (ctx.owns_reach root chain) hreach ?_
  rcases hreach.of_bind with ⟨first, start, hacquire, hwalk⟩
  cases chain with
  | cons link rest => exact ctx.calm_of_walk (List.cons_ne_nil link rest) hwalk
  | nil =>
      rcases hacquire.of_bind with ⟨_, held, hretain, hpure⟩
      have hpending : held.pending = s.pending :=
        (owes_of_retain (serve_of_answer hretain.of_ask).2).same fun _ _ => rfl
      rw [hwalk.of_pure.2, hpure.of_pure.2, hpending]
      exact hs.ready.quiet

/-- A walk along lookups ends at the object that they lead to in the heap. -/
theorem comes_reach (hs : s.Serving base) (hroot : root.ref ∈ base)
    (hfollow : follow? s.heap root.ref chain = some target) (depth : Nat) :
    ∃ t, (ctx.reach root chain).Comes (answer (run depth)) s (.ok target) t ∧
      Holds s base {target} t := by
  rcases hs.sound.exists_held hroot with ⟨object, hget⟩
  rcases comes_retain depth (Holds.refl hs.sound hs.ready) hget with ⟨s₁, hretain, hs₁⟩
  rcases ctx.comes_walk depth hs.sound (hs₁.of_eq (add_zero _)) hfollow with ⟨t, hwalk, ht⟩
  exact ⟨t, Comes.bind (Comes.bind hretain Comes.pure) hwalk, ht⟩

end Context
end ForeignBridge
