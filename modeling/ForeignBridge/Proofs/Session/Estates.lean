import ForeignBridge.Proofs.Session.Places

/-!
# Runs over several runtimes

A run begins in a world with any number of bridges over any number of fresh simulated runtimes.  In any
order, bridges are entered, left and asked; host values, which may hold handles of many bridges, are
copied, rearranged and dropped, also after a runtime was shut down; and each runtime is used past the
bridges by someone who passes on only references there that are theirs, and writes only honest
functions.

After every run each runtime is sound with what is held of it, and the handles are those of bridges that
have a runtime.
-/

namespace ForeignBridge
namespace Session

variable {α : Type}

/-- A world, the host values that exist, and the references in each runtime that are owned past the
bridges, or by no one any more. -/
structure Estate where
  world : World
  values : List Value
  owned : Nat → Multiset Ref

namespace World

/-- A computation on the simulated runtime at a place, past all bridges, with its result and the world
after it. -/
def YieldsAt (w : World) (place : Nat) (attempt : Attempt Simulation α) (a : α) (w' : World) : Prop :=
  ∃ rig s, w.runtimes[place]? = some (.simulated rig) ∧
    attempt.outcome rig.simulation = (.ok a, s) ∧
    w' = { w with
      runtimes := w.runtimes.setIfInBounds place (.simulated { rig with simulation := s }) }

/-- All bridges that have a runtime have a fresh one, and no variable holds a value. -/
structure Opens (w : World) : Prop where
  fresh : ∀ index bridge connection, w.Connected index bridge connection →
    ∃ depth, w.runtimes[connection.runtime]? = some (.simulated ⟨.fresh, [], depth⟩)
  unbound : w.bindings = .empty

end World

namespace Estate

open World

/-- All references in the runtime at a place that are held outside. -/
def held (e : Estate) (place : Nat) : Multiset Ref :=
  e.world.refsAt place (Value.handlesAll e.values) + e.owned place

/-- What may happen next in a run. -/
inductive Step : Estate → Estate → Prop where
  /-- An operation on a runtime past the bridges. -/
  | operate {e : Estate} {w : World} {op : Simulation.Op} {answer : op.Answer} (place depth : Nat)
      (hnames : op.WellNamed) (howned : (op.consumed : Multiset Ref) ≤ e.owned place)
      (h : e.world.YieldsAt place (Simulation.perform (Simulation.run depth) op) answer w) :
      Step e ⟨w, e.values,
        Function.update e.owned place (op.acquired answer + (e.owned place - op.consumed))⟩
  /-- A new function. -/
  | define {e : Estate} {w : World} {name : String} {body : Nat → List Ref → Simulation.Script}
      {ref : Ref} (place : Nat) (hbody : Simulation.HonestBody body)
      (h : e.world.YieldsAt place (Simulation.allocate (.function name body)) ref w) :
      Step e ⟨w, e.values, Function.update e.owned place ({ref} + e.owned place)⟩
  /-- A runtime is started past the bridges, or refuses to. -/
  | start {e : Estate} {w : World} {paths : List String} {running : Bool} (place : Nat)
      (h : e.world.YieldsAt place (Simulation.start paths) running w) : Step e ⟨w, e.values, e.owned⟩
  /-- A runtime is stopped past the bridges. -/
  | stop {e : Estate} {w : World} (place : Nat)
      (h : e.world.YieldsAt place Simulation.stop () w) : Step e ⟨w, e.values, e.owned⟩
  /-- A runtime is told whether to refuse to start. -/
  | refuseStart {e : Estate} {w : World} (place : Nat) (refuses : Bool)
      (h : e.world.YieldsAt place (modify fun s => { s with refusesStart := refuses }) () w) :
      Step e ⟨w, e.values, e.owned⟩
  /-- A bridge starts its runtime, or fails to. -/
  | enter {e : Estate} (bridge : Nat) :
      Step e ⟨((World.enter bridge).run.run e.world).2, e.values, e.owned⟩
  /-- A bridge stops its runtime, or fails to. -/
  | leave {e : Estate} (bridge : Nat) :
      Step e ⟨((World.leave bridge).run.run e.world).2, e.values, e.owned⟩
  /-- A bridge serves a request of the host. -/
  | served {e : Estate} {w : World} {bridge : Nat} {entry : Entry} {reply : Reply}
      (h : (cross bridge fun ctx => ctx.serve entry).run.run e.world = (.ok reply, w)) :
      Step e ⟨w, reply.values ++ e.values, e.owned⟩
  /-- A bridge reports an error to the host. -/
  | failed {e : Estate} {w : World} {bridge : Nat} {entry : Entry} {error : BridgeError}
      (h : (cross bridge fun ctx => ctx.serve entry).run.run e.world =
        (.error (.bridge error), w)) :
      Step e ⟨w, e.values, e.owned⟩
  /-- A handle is asked for its members. -/
  | asked {e : Estate} {w : World} {h : Handle} {names : List String}
      (hasked : (cross h.context fun ctx => ctx.memberNames h).run.run e.world = (.ok names, w)) :
      Step e ⟨w, e.values, e.owned⟩
  /-- A handle has no members to report. -/
  | unanswered {e : Estate} {w : World} {h : Handle} {error : BridgeError}
      (hasked : (cross h.context fun ctx => ctx.memberNames h).run.run e.world =
        (.error (.bridge error), w)) :
      Step e ⟨w, e.values, e.owned⟩
  /-- A host value is copied. -/
  | clone {e : Estate} {w : World} {v : Value} (hv : v ∈ e.values)
      (h : (cloneHandles v.handles).run.run e.world = (.ok (), w)) :
      Step e ⟨w, v :: e.values, e.owned⟩
  /-- A host value is dropped. -/
  | drop {e : Estate} {w : World} {v : Value} {rest : List Value}
      (hv : e.values.Perm (v :: rest)) (h : (dropValue v).run.run e.world = (.ok (), w)) :
      Step e ⟨w, rest, fun place => e.world.leaksAt place v.handles + e.owned place⟩
  /-- The host puts its values together otherwise, with the same handles. -/
  | arrange {e : Estate} {values : List Value}
      (h : (Value.handlesAll e.values).Perm (Value.handlesAll values)) :
      Step e ⟨e.world, values, e.owned⟩

/-- What a run leads to. -/
inductive Reachable : Estate → Prop where
  | opens {w : World} (hw : w.Opens) : Reachable ⟨w, [], fun _ => 0⟩
  | step {e e' : Estate} (he : Reachable e) (hstep : Step e e') : Reachable e'

section Bridges

variable {e : Estate} {w : World} {bridge : Nat}

theorem bridges_of_yields {attempt : Attempt Simulation α} {a : α} {place : Nat}
    (h : e.world.YieldsAt place attempt a w) : w.bridges = e.world.bridges := by
  rcases h with ⟨rig, s, -, -, rfl⟩
  rfl

theorem bridges_of_cross {crossing : Context → Crossing α} {outcome : Except Failure α}
    (h : (cross bridge crossing).run.run e.world = (outcome, w)) : w.bridges = e.world.bridges := by
  have hsame := bridges_cross (w := e.world) bridge crossing
  rw [h] at hsame
  exact hsame

/-- The bridges stay the same in a run. -/
theorem bridges_step {e' : Estate} (hstep : Step e e') : e'.world.bridges = e.world.bridges := by
  cases hstep with
  | operate _ _ _ _ h | define _ _ h | start _ h | stop _ h | refuseStart _ _ h =>
      exact bridges_of_yields h
  | enter bridge => exact bridges_enter_same bridge
  | leave bridge => exact bridges_leave_same bridge
  | served h | failed h | asked h | unanswered h => exact bridges_of_cross h
  | @clone w v _ h =>
      have hsame := bridges_cloneHandles (w := e.world) v.handles
      rw [h] at hsame
      exact hsame
  | @drop w v _ _ h =>
      have hsame : ((dropValue v).run.run e.world).2.bridges = e.world.bridges :=
        bridges_dropHandles v.handles
      rw [h] at hsame
      exact hsame
  | arrange _ => rfl

end Bridges

/-!
# Steps keep the books of all runtimes
-/

/-- Every handle is of a bridge that has a runtime, and every runtime that a bridge has is sound with all
that is held of it. -/
structure Kept (e : Estate) : Prop where
  connected : ∀ h ∈ Value.handlesAll e.values, ∃ bridge connection,
    e.world.Connected h.context bridge connection
  sound : ∀ index bridge connection, e.world.Connected index bridge connection →
    e.world.SoundAt connection.runtime (e.held connection.runtime)

variable {e : Estate} {w : World}

theorem kept_of_opens (hw : w.Opens) : Kept ⟨w, [], fun _ => 0⟩ := by
  constructor
  · intro h hh
    cases hh
  · intro index bridge connection hconnected
    rcases hw.fresh index bridge connection hconnected with ⟨depth, hrig⟩
    exact ⟨_, hrig, rfl, Simulation.sound_fresh⟩

/-- A step over the same bridges keeps the books if it keeps those of each runtime. -/
theorem kept_of_sound {values : List Value} {owned : Nat → Multiset Ref} (hkept : Kept e)
    (hbridges : w.bridges = e.world.bridges)
    (hconnected : ∀ h ∈ Value.handlesAll values, ∃ bridge connection,
      e.world.Connected h.context bridge connection)
    (hsound : ∀ place, e.world.SoundAt place (e.held place) →
      w.SoundAt place (e.world.refsAt place (Value.handlesAll values) + owned place)) :
    Kept ⟨w, values, owned⟩ := by
  have hsame : ∀ index bridge connection,
      w.Connected index bridge connection ↔ e.world.Connected index bridge connection := by
    intro index bridge connection
    unfold Connected
    rw [hbridges]
  constructor
  · intro h hh
    rcases hconnected h hh with ⟨bridge, connection, hconnected⟩
    exact ⟨bridge, connection, (hsame _ _ _).2 hconnected⟩
  · intro index bridge connection hconnected
    unfold held
    rw [refsAt_congr hbridges]
    exact hsound _ (hkept.sound index bridge connection ((hsame _ _ _).1 hconnected))

/-- What leaves all references with their owners. -/
theorem kept_of_quiet (hkept : Kept e) (hbridges : w.bridges = e.world.bridges)
    (hsound : ∀ place held, e.world.SoundAt place held → w.SoundAt place held) :
    Kept ⟨w, e.values, e.owned⟩ :=
  kept_of_sound hkept hbridges hkept.connected fun place hw => hsound place _ hw

section Past

variable {attempt : Attempt Simulation α} {a : α} {before : Multiset Ref} {after : α → Multiset Ref}
  {place : Nat} (hkeeps : Simulation.Keeps before attempt after)

include hkeeps

theorem soundAt_of_yields {other : Nat} {held : Multiset Ref} (h : e.world.YieldsAt place attempt a w)
    (hw : e.world.SoundAt other (share other place before + held)) :
    w.SoundAt other (share other place (after a) + held) := by
  rcases h with ⟨rig, s, hrig, houtcome, rfl⟩
  by_cases hplace : place = other
  · subst hplace
    rw [share_self] at hw
    rcases hw with ⟨rig', hrig', hfaults, hs⟩
    rw [hrig] at hrig'
    cases hrig'
    rw [share_self]
    have hafter := Attempt.returns_of_outcome (hkeeps rig.simulation held hs) houtcome
    exact ⟨_, getElem?_set_self hrig _, hfaults, hafter⟩
  · rw [share_of_ne hplace, zero_add] at hw
    rcases hw with ⟨rig', hrig', hsound⟩
    rw [share_of_ne hplace, zero_add]
    exact ⟨rig', (Array.getElem?_setIfInBounds_ne hplace).trans hrig', hsound⟩

omit hkeeps in
theorem update_eq (owned : Nat → Multiset Ref) (given rest : Multiset Ref) (other : Nat) :
    Function.update owned place (given + rest) other =
      share other place given + Function.update owned place rest other := by
  by_cases hplace : place = other
  · subst hplace
    rw [Function.update_self, Function.update_self, share_self]
  · rw [Function.update_of_ne (Ne.symm hplace), Function.update_of_ne (Ne.symm hplace),
      share_of_ne hplace, zero_add]

/-- What is done past the bridges takes references from the owner there, and hands over others. -/
theorem kept_of_yields {rest : Multiset Ref} (hkept : Kept e) (howned : e.owned place = before + rest)
    (h : e.world.YieldsAt place attempt a w) :
    Kept ⟨w, e.values, Function.update e.owned place (after a + rest)⟩ := by
  refine kept_of_sound hkept (bridges_of_yields h) hkept.connected fun other hw => ?_
  have hother : e.owned other =
      share other place before + Function.update e.owned place rest other := by
    rw [← update_eq, ← howned, Function.update_eq_self]
  unfold held at hw
  rw [hother, add_left_comm] at hw
  rw [update_eq, add_left_comm]
  exact soundAt_of_yields hkeeps h hw

end Past

/-- What leaves the references in the runtime with their owner. -/
theorem kept_of_still {attempt : Attempt Simulation α} {a : α} {place : Nat}
    (hkeeps : Simulation.Keeps 0 attempt fun _ => 0) (hkept : Kept e)
    (h : e.world.YieldsAt place attempt a w) : Kept ⟨w, e.values, e.owned⟩ := by
  have hafter := kept_of_yields hkeeps hkept (zero_add _).symm h
  rw [zero_add, Function.update_eq_self] at hafter
  exact hafter

section Served

variable {bridge : Nat} {entry : Entry}

theorem own_of_served {reply : Reply}
    (h : (cross bridge fun ctx => ctx.serve entry).run.run e.world = (.ok reply, w)) :
    ∀ handle ∈ reply.handles, handle.context = bridge := by
  rcases exists_connected_of_cross h with ⟨found, connection, hconnected⟩
  exact (isolated_of_connected hconnected entry).own reply w h

theorem kept_served {reply : Reply} (hkept : Kept e)
    (h : (cross bridge fun ctx => ctx.serve entry).run.run e.world = (.ok reply, w)) :
    Kept ⟨w, reply.values ++ e.values, e.owned⟩ := by
  have hown := own_of_served h
  rcases exists_connected_of_cross h with ⟨found, connection, hconnected⟩
  refine kept_of_sound hkept (bridges_of_cross h) (fun handle hhandle => ?_) fun place hw => ?_
  · rw [Value.handlesAll_append, ← Reply.handles_eq, List.mem_append] at hhandle
    rcases hhandle with hnew | hold
    · rw [hown handle hnew]
      exact ⟨found, connection, hconnected⟩
    · exact hkept.connected handle hold
  · have hends := ends_cross_at hconnected (fun ctx => (ctx.tidy_serve entry).owns) hw
    unfold Ends at hends
    rw [h] at hends
    rw [Value.handlesAll_append, ← Reply.handles_eq, refsAt_append,
      refsAt_of_own hconnected hown, ← Reply.refs_eq_map, add_assoc]
    exact hends

theorem kept_failed {crossing : Context → Crossing α} {after : α → Multiset Ref} {error : BridgeError}
    (howns : ∀ ctx, Crossing.Owns 0 (crossing ctx) after) (hkept : Kept e)
    (h : (cross bridge crossing).run.run e.world = (.error (.bridge error), w)) :
    Kept ⟨w, e.values, e.owned⟩ := by
  refine kept_of_quiet hkept (bridges_of_cross h) fun place held hw => ?_
  by_cases hconnected : ∃ found connection, e.world.Connected bridge found connection
  · rcases hconnected with ⟨found, connection, hconnected⟩
    have hends := ends_cross_at hconnected howns hw
    unfold Ends at hends
    rw [h] at hends
    exact hends
  · rcases run_cross_of_unconnected (fun found connection hfound =>
      hconnected ⟨found, connection, hfound⟩) crossing with ⟨failure, hrun⟩
    rw [hrun] at h
    cases h
    exact hw

theorem kept_asked {h : Handle} {names : List String} (hkept : Kept e)
    (hasked : (cross h.context fun ctx => ctx.memberNames h).run.run e.world = (.ok names, w)) :
    Kept ⟨w, e.values, e.owned⟩ := by
  rcases exists_connected_of_cross hasked with ⟨found, connection, hconnected⟩
  refine kept_of_quiet hkept (bridges_of_cross hasked) fun place held hw => ?_
  have hends := ends_cross_at hconnected (fun ctx => ctx.owns_memberNames h) hw
  unfold Ends at hends
  rw [hasked, share_zero, zero_add] at hends
  exact hends

end Served

theorem kept_clone {v : Value} (hkept : Kept e) (hv : v ∈ e.values)
    (h : (cloneHandles v.handles).run.run e.world = (.ok (), w)) :
    Kept ⟨w, v :: e.values, e.owned⟩ := by
  refine kept_of_sound hkept (bridges_step (.clone hv h)) (fun handle hhandle => ?_) fun place hw => ?_
  · rw [Value.handlesAll, List.mem_append] at hhandle
    rcases hhandle with hnew | hold
    · exact hkept.connected handle (Value.mem_handlesAll hv hnew)
    · exact hkept.connected handle hold
  · have hends := ends_cloneHandles_at v.handles hw
    unfold Ends at hends
    rw [h] at hends
    rw [Value.handlesAll, refsAt_append, add_assoc]
    exact hends.1

theorem kept_drop {v : Value} {rest : List Value} (hkept : Kept e)
    (hv : e.values.Perm (v :: rest)) (h : (dropValue v).run.run e.world = (.ok (), w)) :
    Kept ⟨w, rest, fun place => e.world.leaksAt place v.handles + e.owned place⟩ := by
  have hperm : (Value.handlesAll e.values).Perm (v.handles ++ Value.handlesAll rest) :=
    Value.handlesAll_perm hv
  refine kept_of_sound hkept (bridges_step (.drop hv h)) (fun handle hhandle => ?_) fun place hw => ?_
  · exact hkept.connected handle (hperm.mem_iff.2 (List.mem_append_right _ hhandle))
  · unfold held at hw
    rw [refsAt_perm hperm, refsAt_append, add_assoc] at hw
    have hends := ends_dropHandles_at v.handles hw
    unfold Ends at hends
    rw [show (dropHandles v.handles).run.run e.world = (.ok (), w) from h] at hends
    rw [add_left_comm]
    exact hends.1

/-- One step, whatever it is. -/
theorem kept_step {e' : Estate} (hkept : Kept e) (hstep : Step e e') : Kept e' := by
  cases hstep with
  | operate place depth hnames howned h =>
      have hkeeps := Simulation.keeps_perform (Simulation.runsHonestly_run depth) hnames
      exact kept_of_yields hkeeps hkept (add_tsub_cancel_of_le howned).symm h
  | define place hbody h =>
      exact kept_of_yields (Simulation.keeps_newFunction _ hbody) hkept (zero_add _).symm h
  | start place h => exact kept_of_still (Simulation.keeps_start _) hkept h
  | stop place h => exact kept_of_still Simulation.keeps_stop hkept h
  | refuseStart place refuses h => exact kept_of_still (Simulation.keeps_refuseStart refuses) hkept h
  | enter bridge =>
      exact kept_of_quiet hkept (bridges_enter_same bridge) fun place held hw =>
        (abides_enter_at bridge).holds hw
  | leave bridge =>
      exact kept_of_quiet hkept (bridges_leave_same bridge) fun place held hw =>
        (abides_leave_at bridge).holds hw
  | served h => exact kept_served hkept h
  | @failed w bridge entry error h =>
      exact kept_failed (fun ctx => (ctx.tidy_serve entry).owns) hkept h
  | asked hasked => exact kept_asked hkept hasked
  | @unanswered w h error hasked =>
      exact kept_failed (fun ctx => ctx.owns_memberNames h) hkept hasked
  | clone hv h => exact kept_clone hkept hv h
  | drop hv h => exact kept_drop hkept hv h
  | arrange h =>
      refine kept_of_sound hkept rfl (fun handle hhandle => ?_) fun place hw => ?_
      · exact hkept.connected handle (h.mem_iff.2 hhandle)
      · rw [← refsAt_perm h]
        exact hw

theorem kept_of_reachable (he : Reachable e) : Kept e := by
  induction he with
  | opens hw => exact kept_of_opens hw
  | step _ hstep ih => exact kept_step ih hstep

end Estate
end Session
end ForeignBridge
