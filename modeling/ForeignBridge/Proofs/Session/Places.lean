import ForeignBridge.Proofs.Session.Moments

/-!
# Upkeep of several runtimes

In a world over any number of runtimes, what is held of one of them is not held of another.  Whatever
the bridges and the host values do, a simulated runtime at any place is kept sound with what is held
there.
-/

namespace ForeignBridge
namespace Session
namespace World

open Attempt

variable {α : Type} {place runtime : Nat} {held : Multiset Ref} {w w' : World}

/-- The runtime at a place of the world is a simulated one without faults, and it is sound. -/
def SoundAt (place : Nat) (held : Multiset Ref) (w : World) : Prop :=
  ∃ rig, w.runtimes[place]? = some (.simulated rig) ∧ rig.faults = [] ∧ rig.simulation.Sound held

/-- Of references in one runtime, those in the runtime at a place: all of them or none. -/
def share (place runtime : Nat) (refs : Multiset Ref) : Multiset Ref :=
  if runtime = place then refs else 0

theorem share_self (refs : Multiset Ref) : share place place refs = refs := if_pos rfl

theorem share_of_ne (hne : runtime ≠ place) (refs : Multiset Ref) : share place runtime refs = 0 :=
  if_neg hne

theorem share_zero : share place runtime 0 = 0 := by
  unfold share
  split
  · rfl
  · rfl

theorem share_add (refs others : Multiset Ref) :
    share place runtime (refs + others) = share place runtime refs + share place runtime others := by
  unfold share
  split
  · rfl
  · rfl

/-!
# Computations on one of the runtimes
-/

theorem returns_of_state {attempt : Attempt World α} {P : World → Prop} (h : P (attempt.outcome w).2) :
    attempt.Returns w fun _ w' => P w' := by
  unfold Returns
  rcases houtcome : attempt.outcome w with ⟨outcome, w'⟩
  rw [houtcome] at h
  cases outcome with
  | ok a => exact h
  | error panic => trivial

theorem outcome_inRuntime_simulated {rig : Rig} (hrig : w.runtimes[runtime]? = some (.simulated rig))
    (onRig : Attempt Rig α) (onInterpreter : StateM Interpreter α) :
    (inRuntime runtime (Runtime.perform onRig onInterpreter)).outcome w =
      ((onRig.outcome rig).1, { w with
        runtimes := w.runtimes.setIfInBounds runtime (.simulated (onRig.outcome rig).2) }) :=
  outcome_inRuntime hrig _

theorem sameGates_inRuntime (attempt : Attempt Runtime α) :
    w.SameGates ((inRuntime runtime attempt).outcome w).2 := by
  cases hruntime : w.runtimes[runtime]? with
  | none =>
      rw [outcome_inRuntime_none hruntime]
      exact SameGates.refl w
  | some found =>
      rw [outcome_inRuntime hruntime]
      exact ⟨rfl, rfl⟩

/-- What is done in another runtime leaves a runtime sound with what is held of it. -/
theorem soundAt_inRuntime_of_ne (hne : runtime ≠ place) (hw : w.SoundAt place held)
    (attempt : Attempt Runtime α) : ((inRuntime runtime attempt).outcome w).2.SoundAt place held := by
  rcases hw with ⟨rig, hrig, hsound⟩
  have hreaches : ReachesOnly runtime (inRuntime runtime attempt).run := reachesOnly_inRuntime attempt
  exact ⟨rig, (hreaches.elsewhere w place hne.symm).trans hrig, hsound⟩

theorem returns_inRuntime_at {onRig : Attempt Rig α} {onInterpreter : StateM Interpreter α}
    {before : Multiset Ref} {after : α → Multiset Ref}
    (hw : w.SoundAt place (share place runtime before + held))
    (h : ∀ rig, rig.faults = [] → rig.simulation.Sound (before + held) →
      onRig.Returns rig fun a rig' => rig'.faults = [] ∧ rig'.simulation.Sound (after a + held)) :
    (inRuntime runtime (Runtime.perform onRig onInterpreter)).Returns w fun a w' =>
      w'.SoundAt place (share place runtime (after a) + held) := by
  by_cases hplace : runtime = place
  · subst hplace
    rw [share_self] at hw
    rcases hw with ⟨rig, hrig, hfaults, hsound⟩
    have hreturns := h rig hfaults hsound
    unfold Returns at hreturns ⊢
    rw [outcome_inRuntime_simulated hrig]
    rcases houtcome : onRig.outcome rig with ⟨outcome, rig'⟩
    rw [houtcome] at hreturns
    cases outcome with
    | error panic => trivial
    | ok a =>
        dsimp only
        rw [share_self]
        exact ⟨rig', getElem?_set_self hrig _, hreturns⟩
  · rw [share_of_ne hplace] at hw
    rw [zero_add] at hw
    have hafter := soundAt_inRuntime_of_ne hplace hw (Runtime.perform onRig onInterpreter)
    unfold Returns
    rcases houtcome : (inRuntime runtime (Runtime.perform onRig onInterpreter)).outcome w with
      ⟨outcome, w'⟩
    rw [houtcome] at hafter
    cases outcome with
    | error panic => trivial
    | ok a =>
        dsimp only
        rw [share_of_ne hplace, zero_add]
        exact hafter

theorem upholds_inRuntime_at {onRig : Attempt Rig α} {onInterpreter : StateM Interpreter α}
    (h : onRig.Upholds (fun rig => rig.faults = [] ∧ rig.simulation.Sound held) fun _ => True) :
    (inRuntime runtime (Runtime.perform onRig onInterpreter)).Upholds (SoundAt place held)
      fun _ => True := by
  intro w hw
  refine meets_iff_state.2 ?_
  by_cases hplace : runtime = place
  · subst hplace
    rcases hw with ⟨rig, hrig, hsound⟩
    rw [outcome_inRuntime_simulated hrig]
    exact ⟨_, getElem?_set_self hrig _, meets_iff_state.1 (h rig hsound)⟩
  · exact soundAt_inRuntime_of_ne hplace hw _

/-- What agrees with a sound runtime is sound. -/
theorem upholds_sound_of_agrees {attempt : Attempt Simulation α}
    (h : ∀ first, attempt.Upholds (Simulation.Agrees first) fun _ => True) :
    (Rig.inSimulation attempt).Upholds (fun rig => rig.faults = [] ∧ rig.simulation.Sound held)
      fun _ => True := by
  rintro rig ⟨hfaults, hsound⟩
  have hagrees : Simulation.Agrees rig.simulation (attempt.outcome rig.simulation).2 :=
    meets_iff_state.1 (h rig.simulation rig.simulation (Simulation.Agrees.refl _))
  refine meets_iff_state.2 ⟨hfaults, ?_, ?_⟩
  · show (attempt.outcome rig.simulation).2.heap.Balanced
      ({Simulation.nullRef} + ((attempt.outcome rig.simulation).2.modules.values : Multiset Ref) + held)
    rw [hagrees.heap, hagrees.modules]
    exact hsound.balanced
  · show (attempt.outcome rig.simulation).2.heap.Every Simulation.Proper
    rw [hagrees.heap]
    exact hsound.proper

theorem sameGates_answer (connection : Connection) (r : Request) :
    w.SameGates ((answer connection r).outcome w).2 := by
  cases r with
  | numericKind object =>
      show w.SameGates ((if connection.typed then _ else _ : Attempt World _).outcome w).2
      split
      · exact sameGates_inRuntime _
      · exact SameGates.refl w
  | _ => exact sameGates_inRuntime _

theorem returns_answer_at (connection : Connection) (r : Request)
    (hw : w.SoundAt place (share place connection.runtime (r.returned.toList : Multiset Ref) + held)) :
    (answer connection r).Returns w fun given w' =>
      w'.SoundAt place (share place connection.runtime (r.acquired given : Multiset Ref) + held) ∧
        w.SameGates w' := by
  have hasked : (inRuntime connection.runtime (Runtime.answer r)).Returns w fun given w' =>
      w'.SoundAt place (share place connection.runtime (r.acquired given : Multiset Ref) + held) :=
    returns_inRuntime_at hw fun rig hfaults hs => returns_rigAnswer r hfaults hs
  refine returns_and ?_ (returns_of_state (sameGates_answer connection r))
  cases r with
  | numericKind object =>
      show (if connection.typed then _ else _ : Attempt World _).Returns w _
      split
      · exact hasked
      · exact hw
  | _ => exact hasked

/-!
# Lifecycles and crossings
-/

theorem abides_enter_at (index : Nat) :
    Abides (SoundAt place held) (fun _ => True) (enter index) := by
  refine abides_enter_of_start (fun _ _ hw => hw) (fun _ _ hw => hw) (fun _ => trivial)
    (fun runtime paths => ?_) index
  apply upholds_inRuntime_at
  rw [map_eq_pure_bind]
  exact Upholds.bind (upholds_sound_of_agrees fun _ => Simulation.upholds_start paths) fun _ =>
    Upholds.pure

theorem abides_leave_at (index : Nat) :
    Abides (SoundAt place held) (fun _ => True) (leave index) :=
  abides_leave_of_stop (fun _ _ hw => hw) (fun _ _ hw => hw)
    (fun _ => upholds_inRuntime_at (upholds_sound_of_agrees Simulation.upholds_stop)) index

theorem upholds_bridges (bridges : Array Bridge) (attempt : Attempt Runtime α) :
    (inRuntime runtime attempt).Upholds (fun w => w.bridges = bridges) fun _ => True :=
  fun _ hw => meets_iff_state.2 ((sameGates_inRuntime attempt).1.trans hw)

theorem bridges_enter_same (index : Nat) : ((enter index).run.run w).2.bridges = w.bridges :=
  Abides.holds (abides_enter_of_start (fun _ _ hw => hw) (fun _ _ hw => hw) (fun _ => trivial)
    (fun _ _ => upholds_bridges w.bridges _) index) rfl

theorem bridges_leave_same (index : Nat) : ((leave index).run.run w).2.bridges = w.bridges :=
  Abides.holds (abides_leave_of_stop (fun _ _ hw => hw) (fun _ _ hw => hw)
    (fun _ => upholds_bridges w.bridges _) index) rfl

/-- A crossing of a bridge brings what comes with its result, in the runtime of the bridge. -/
theorem ends_crossEntered_at (index : Nat) {connection : Connection}
    {crossing : Context → Crossing α} {after : α → Multiset Ref}
    (h : ∀ ctx, Crossing.Owns 0 (crossing ctx) after) (hw : w.SoundAt place held) :
    Ends (crossEntered index crossing connection) w
      (fun a w' => w'.SoundAt place (share place connection.runtime (after a) + held))
      fun w' => w'.SoundAt place held := by
  cases hbridge : w.bridges[index]? with
  | none =>
      unfold Ends
      rw [run_crossEntered_of_none hbridge]
      trivial
  | some bridge =>
      -- What is held in the crossing is held of the runtime of the bridge, which may be another one.
      have hstart : w.SoundAt place (share place connection.runtime 0 + held) := by
        rw [share_zero, zero_add]
        exact hw
      have hreturns := returns_crossing_of
        (fun w refs => w.SoundAt place (share place connection.runtime refs + held))
        (fun r w owned hw => by
          rw [share_add, add_assoc] at hw
          refine returns_mono (fun given w' hw' => ?_) (returns_answer_at connection r hw)
          rw [share_add, add_assoc]
          exact hw'.1)
        (fun _ _ _ hw => hw) (h (w.contextOf index bridge connection)) hstart
      unfold Ends
      unfold Returns at hreturns
      rw [run_crossEntered hbridge]
      rcases houtcome : (Program.run (answer connection) record
        (crossing (w.contextOf index bridge connection)).run).outcome w with ⟨outcome, w'⟩
      rw [houtcome] at hreturns
      rcases outcome with panic | result
      · trivial
      · cases result with
        | ok a =>
            dsimp only at hreturns
            rw [add_zero] at hreturns
            exact hreturns
        | error e =>
            dsimp only at hreturns
            rw [share_zero, zero_add] at hreturns
            exact hreturns

/-- What a bridge that is no bridge, or has no runtime, is asked for leaves the world as it was. -/
theorem run_cross_of_unconnected {index : Nat}
    (h : ∀ bridge connection, ¬ w.Connected index bridge connection)
    (crossing : Context → Crossing α) :
    ∃ failure, (cross index crossing).run.run w = (.error failure, w) := by
  rcases run_enter_of_unconnected h with ⟨failure, hrun, -⟩
  refine ⟨failure, ?_⟩
  rw [cross_eq, run_bind, hrun]

theorem bridges_cross (index : Nat) (crossing : Context → Crossing α) :
    ((cross index crossing).run.run w).2.bridges = w.bridges := by
  by_cases hconnected : ∃ bridge connection, w.Connected index bridge connection
  · rcases hconnected with ⟨bridge, connection, hconnected⟩
    rw [run_cross hconnected]
    exact (reachesOnly_cross index crossing bridge connection).bridges w
  · rcases run_cross_of_unconnected (fun bridge connection h => hconnected ⟨bridge, connection, h⟩)
      crossing with ⟨failure, hrun⟩
    rw [hrun]

/-- A bridge that crosses is connected. -/
theorem exists_connected_of_cross {index : Nat} {crossing : Context → Crossing α} {a : α}
    (h : (cross index crossing).run.run w = (.ok a, w')) :
    ∃ bridge connection, w.Connected index bridge connection := by
  by_contra hnot
  rcases run_cross_of_unconnected (fun bridge connection h => hnot ⟨bridge, connection, h⟩)
    crossing with ⟨failure, hrun⟩
  rw [hrun] at h
  cases h

theorem ends_cross_at {index : Nat} {bridge : Bridge} {connection : Connection}
    (hconnected : w.Connected index bridge connection) {crossing : Context → Crossing α}
    {after : α → Multiset Ref} (h : ∀ ctx, Crossing.Owns 0 (crossing ctx) after)
    (hw : w.SoundAt place held) :
    Ends (cross index crossing) w
      (fun a w' => w'.SoundAt place (share place connection.runtime (after a) + held))
      fun w' => w'.SoundAt place held := by
  have henter : ((enter index).run.run w).2.SoundAt place held := (abides_enter_at index).holds hw
  rw [cross_eq, ends_bind]
  unfold Ends
  rw [run_enter hconnected] at henter ⊢
  rcases hensure : (ensure connection.lifecycle connection.runtime
    bridge.settings.searchPaths).run.run w with ⟨outcome, w'⟩
  rw [hensure] at henter
  cases outcome with
  | ok _ => exact ends_crossEntered_at index h henter
  | error failure =>
      cases failure with
      | bridge error => exact henter
      | _ => trivial

/-!
# Host values
-/

/-- The references in the runtime at a place that handles hold. -/
def refsAt (w : World) (place : Nat) (handles : List Handle) : Multiset Ref :=
  ((handles.filter fun h => w.runtimeOf h = some place).map Handle.ref : List Ref)

theorem refsAt_append (handles others : List Handle) :
    w.refsAt place (handles ++ others) = w.refsAt place handles + w.refsAt place others := by
  unfold refsAt
  rw [List.filter_append, List.map_append, Multiset.coe_add]

theorem refsAt_cons (h : Handle) (rest : List Handle) :
    w.refsAt place (h :: rest) = w.refsAt place [h] + w.refsAt place rest :=
  refsAt_append [h] rest

theorem refsAt_perm {handles others : List Handle} (h : handles.Perm others) :
    w.refsAt place handles = w.refsAt place others :=
  Multiset.coe_eq_coe.2 ((h.filter _).map Handle.ref)

/-- Handles of one bridge hold references in the runtime of that bridge. -/
theorem refsAt_of_own {index : Nat} {bridge : Bridge} {connection : Connection}
    (hconnected : w.Connected index bridge connection) {handles : List Handle}
    (hown : ∀ h ∈ handles, h.context = index) :
    w.refsAt place handles = share place connection.runtime (handles.map Handle.ref : List Ref) := by
  have hruntime : ∀ h ∈ handles, w.runtimeOf h = some connection.runtime := by
    intro h hh
    unfold runtimeOf
    rw [hown h hh, hconnected.1, Option.bind_some, hconnected.2]
    rfl
  unfold refsAt
  by_cases hplace : connection.runtime = place
  · rw [hplace] at hruntime ⊢
    rw [share_self, List.filter_eq_self.2 fun h hh => decide_eq_true (hruntime h hh)]
  · have hnone : ∀ h ∈ handles, ¬ decide (w.runtimeOf h = some place) = true := by
      intro h hh hsome
      rw [hruntime h hh] at hsome
      exact hplace (Option.some.inj (of_decide_eq_true hsome))
    rw [share_of_ne hplace, List.filter_eq_nil_iff.2 hnone]
    rfl

theorem refsAt_singleton {h : Handle} {bridge : Bridge} {connection : Connection}
    (hconnected : w.Connected h.context bridge connection) :
    w.refsAt place [h] = share place connection.runtime {h.ref} :=
  refsAt_of_own hconnected fun other hother => by rw [List.mem_singleton.1 hother]

theorem isShut_iff {h : Handle} : w.IsShut h ↔
    ∃ c ∈ (w.bridges[h.context]?).bind Bridge.connection, w.phaseOf c.lifecycle = .finished := by
  constructor
  · rintro ⟨bridge, connection, hbridge, hconnection, hphase⟩
    exact ⟨connection, Option.bind_eq_some_iff.2 ⟨bridge, hbridge, hconnection⟩, hphase⟩
  · rintro ⟨connection, hmem, hphase⟩
    rcases Option.bind_eq_some_iff.1 hmem with ⟨bridge, hbridge, hconnection⟩
    exact ⟨bridge, connection, hbridge, hconnection, hphase⟩

instance : DecidablePred w.IsShut := fun _ => decidable_of_iff _ isShut_iff.symm

/-- What handles hold in the runtime at a place after they were dropped: those whose runtime was shut
down do not give their references back. -/
def leaksAt (w : World) (place : Nat) (handles : List Handle) : Multiset Ref :=
  w.refsAt place (handles.filter fun h => w.IsShut h)

theorem isShut_of_connected {h : Handle} {bridge : Bridge} {connection : Connection}
    (hconnected : w.Connected h.context bridge connection) :
    w.IsShut h ↔ w.phaseOf connection.lifecycle = .finished := by
  rw [isShut_iff, hconnected.1, Option.bind_some, hconnected.2]
  simp

theorem leaksAt_of_isShut {h : Handle} (hshut : w.IsShut h) :
    w.leaksAt place [h] = w.refsAt place [h] := by
  simp [leaksAt, hshut]

theorem leaksAt_of_open {h : Handle} (hopen : ¬ w.IsShut h) : w.leaksAt place [h] = 0 := by
  simp [leaksAt, refsAt, hopen]

theorem leaksAt_cons (h : Handle) (rest : List Handle) :
    w.leaksAt place (h :: rest) = w.leaksAt place [h] + w.leaksAt place rest := by
  unfold leaksAt
  rw [← refsAt_append, ← List.filter_append]
  rfl

theorem runtimeOf_congr (hbridges : w'.bridges = w.bridges) : w'.runtimeOf = w.runtimeOf := by
  funext h
  unfold runtimeOf
  rw [hbridges]

theorem refsAt_congr (hbridges : w'.bridges = w.bridges) : w'.refsAt = w.refsAt := by
  funext place handles
  unfold refsAt
  rw [runtimeOf_congr hbridges]

theorem SameGates.leaksAt (hsame : w.SameGates w') : w'.leaksAt = w.leaksAt := by
  have hback : w'.SameGates w := ⟨hsame.1.symm, hsame.2.symm⟩
  funext place handles
  unfold World.leaksAt
  rw [refsAt_congr hsame.1]
  congr 1
  exact List.filter_congr fun h _ => decide_eq_decide.2 ⟨hsame.isShut, hback.isShut⟩

theorem tends_bridges (bridges : Array Bridge) :
    Tends (fun w => w.bridges = bridges) fun _ => True where
  misuse _ _ := trivial
  retain connection ref := fun _ hw =>
    meets_iff_state.2 ((sameGates_answer connection (.retain ref)).1.trans hw)
  release connection ref := fun _ hw =>
    meets_iff_state.2 ((sameGates_answer connection (.release ref)).1.trans hw)
  log _ _ hw := hw

theorem bridges_cloneHandles (handles : List Handle) :
    ((cloneHandles handles).run.run w).2.bridges = w.bridges :=
  (abides_cloneHandles (tends_bridges w.bridges) handles).holds rfl

theorem bridges_dropHandles (handles : List Handle) :
    ((dropHandles handles).run.run w).2.bridges = w.bridges :=
  (abides_dropHandles (tends_bridges w.bridges) handles).holds rfl

theorem ends_cloneHandle_at (h : Handle) (hw : w.SoundAt place held) :
    Ends (cloneHandle h) w
      (fun _ w' => w'.SoundAt place (w.refsAt place [h] + held) ∧ w.SameGates w') fun _ => True := by
  unfold cloneHandle
  rw [ends_bind]
  refine ends_mono (fun connection w' hconnection => ?_) (fun _ h => h) (ends_connectionOf h w)
  rcases hconnection with ⟨rfl, bridge, hconnected⟩
  rw [ends_bind, ends_get, refsAt_singleton hconnected]
  split
  · trivial
  · apply ends_ofAttempt
    apply returns_answer_at connection (.retain h.ref)
    show w'.SoundAt place (share place connection.runtime 0 + held)
    rw [share_zero, zero_add]
    exact hw

theorem ends_cloneHandles_at (handles : List Handle) (hw : w.SoundAt place held) :
    Ends (cloneHandles handles) w
      (fun _ w' => w'.SoundAt place (w.refsAt place handles + held) ∧ w.SameGates w')
      fun _ => True := by
  induction handles generalizing w held with
  | nil =>
      show w.SoundAt place (0 + held) ∧ w.SameGates w
      rw [zero_add]
      exact ⟨hw, SameGates.refl w⟩
  | cons h rest ih =>
      unfold cloneHandles
      rw [ends_bind]
      refine ends_mono (fun _ w' hw' => ?_) (fun _ h => h) (ends_cloneHandle_at h hw)
      apply ends_guarding
      refine ends_mono (fun _ w'' hw'' => ?_) (fun _ h => h) (ih hw'.1)
      rw [refsAt_congr hw'.2.1, add_left_comm, ← add_assoc, ← refsAt_cons] at hw''
      exact ⟨hw''.1, hw''.2.1.trans hw'.2.1, hw''.2.2.trans hw'.2.2⟩

theorem ends_dropHandle_at (h : Handle) (hw : w.SoundAt place (w.refsAt place [h] + held)) :
    Ends (dropHandle h) w
      (fun _ w' => w'.SoundAt place (w.leaksAt place [h] + held) ∧ w.SameGates w') fun _ => True := by
  unfold dropHandle
  rw [ends_bind]
  refine ends_mono (fun connection w' hconnection => ?_) (fun _ h => h) (ends_connectionOf h w)
  rcases hconnection with ⟨rfl, bridge, hconnected⟩
  have hshut := isShut_of_connected hconnected
  rw [ends_bind, ends_get]
  split
  · rename_i hphase
    rw [leaksAt_of_isShut (hshut.2 hphase)]
    exact ⟨hw, SameGates.refl w'⟩
  · rename_i hphase
    rw [leaksAt_of_open fun hfinished => hphase (hshut.1 hfinished)]
    apply ends_ofAttempt
    rw [refsAt_singleton hconnected] at hw
    refine returns_mono (fun given w'' hw'' => ?_) (returns_answer_at connection (.release h.ref) hw)
    have hacquired : ((Request.release h.ref).acquired given : Multiset Ref) = 0 := rfl
    rw [hacquired, share_zero] at hw''
    exact hw''

theorem ends_dropHandles_at (handles : List Handle)
    (hw : w.SoundAt place (w.refsAt place handles + held)) :
    Ends (dropHandles handles) w
      (fun _ w' => w'.SoundAt place (w.leaksAt place handles + held) ∧ w.SameGates w')
      fun _ => True := by
  induction handles generalizing w held with
  | nil => exact ⟨hw, SameGates.refl w⟩
  | cons h rest ih =>
      rw [refsAt_cons, add_assoc] at hw
      have hdrop := ends_dropHandle_at h hw
      unfold Ends at hdrop ⊢
      rw [run_dropHandles_cons]
      rcases houtcome : (dropHandle h).run.run w with ⟨outcome, w'⟩
      rw [houtcome] at hdrop
      cases outcome with
      | error failure => cases failure <;> trivial
      | ok _ =>
          rcases hdrop with ⟨hw', hgates⟩
          rw [add_left_comm, ← refsAt_congr hgates.1] at hw'
          have hrest := ih hw'
          unfold Ends at hrest
          rcases hothers : (dropHandles rest).run.run w' with ⟨others, w''⟩
          rw [hothers] at hrest
          cases others with
          | error failure => cases failure <;> trivial
          | ok _ =>
              rw [hgates.leaksAt, add_left_comm, ← add_assoc, ← leaksAt_cons] at hrest
              exact ⟨hrest.1, hrest.2.1.trans hgates.1, hrest.2.2.trans hgates.2⟩

end World
end Session
end ForeignBridge
