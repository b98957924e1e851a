import ForeignBridge.Proofs.Session.Gates

/-!
# Runtimes apart

What a bridge does in a world reaches one runtime.  The other runtimes and the bridges stay as they
are, and nothing is asked of the other runtimes: with any others in their places it would come to the
same.
-/

namespace ForeignBridge
namespace Session
namespace World

variable {α β ε : Type} {runtime : Nat}

/-- Two worlds that differ at most in runtimes other than a given one. -/
def AlikeAt (runtime : Nat) (w w' : World) : Prop :=
  ∃ runtimes, runtimes[runtime]? = w.runtimes[runtime]? ∧ w' = { w with runtimes }

theorem AlikeAt.phaseOf {w w' : World} (h : AlikeAt runtime w w') (lifecycle : LifecycleId) :
    w'.phaseOf lifecycle = w.phaseOf lifecycle := by
  rcases h with ⟨runtimes, -, rfl⟩
  rfl

theorem AlikeAt.bridges {w w' : World} (h : AlikeAt runtime w w') : w'.bridges = w.bridges := by
  rcases h with ⟨runtimes, -, rfl⟩
  rfl

theorem AlikeAt.nesting {w w' : World} (h : AlikeAt runtime w w') : w'.nesting = w.nesting := by
  rcases h with ⟨runtimes, -, rfl⟩
  rfl

theorem AlikeAt.runtimeName {w w' : World} (h : AlikeAt runtime w w') :
    w'.runtimeName runtime = w.runtimeName runtime := by
  rcases h with ⟨runtimes, hsame, rfl⟩
  unfold World.runtimeName
  dsimp only
  rw [hsame]

/-- A computation in a world reaches no runtime but a given one. -/
structure ReachesOnly (runtime : Nat) (act : StateM World α) : Prop where
  elsewhere : ∀ w other, other ≠ runtime → (act.run w).2.runtimes[other]? = w.runtimes[other]?
  bridges : ∀ w, (act.run w).2.bridges = w.bridges
  alike : ∀ w w', AlikeAt runtime w w' →
    (act.run w').1 = (act.run w).1 ∧ AlikeAt runtime (act.run w).2 (act.run w').2

namespace ReachesOnly

theorem pure {a : α} : ReachesOnly runtime (pure a : StateM World α) :=
  ⟨fun _ _ _ => rfl, fun _ => rfl, fun _ _ h => ⟨rfl, h⟩⟩

theorem bind {act : StateM World α} {f : α → StateM World β} (hact : ReachesOnly runtime act)
    (hf : ∀ a, ReachesOnly runtime (f a)) : ReachesOnly runtime (act >>= f) := by
  constructor
  · intro w other hother
    have hfirst := hact.elsewhere w other hother
    rw [StateT.run_bind]
    exact ((hf _).elsewhere _ other hother).trans hfirst
  · intro w
    rw [StateT.run_bind]
    exact ((hf _).bridges _).trans (hact.bridges w)
  · intro w w' h
    have hfirst := hact.alike w w' h
    rw [StateT.run_bind, StateT.run_bind]
    show ((f (act.run w').1).run (act.run w').2).1 = ((f (act.run w).1).run (act.run w).2).1 ∧
      AlikeAt runtime ((f (act.run w).1).run (act.run w).2).2
        ((f (act.run w').1).run (act.run w').2).2
    rw [hfirst.1]
    exact (hf _).alike _ _ hfirst.2

theorem modify {f : World → World}
    (hsame : ∀ w, (f w).runtimes = w.runtimes ∧ (f w).bridges = w.bridges)
    (halike : ∀ w runtimes, f { w with runtimes } = { f w with runtimes }) :
    ReachesOnly runtime (modify f : StateM World Unit) := by
  constructor
  · intro w other hother
    exact congrArg (·[other]?) (hsame w).1
  · exact fun w => (hsame w).2
  · rintro w w' ⟨runtimes, hruntime, rfl⟩
    refine ⟨rfl, runtimes, ?_, halike w runtimes⟩
    show runtimes[runtime]? = (f w).runtimes[runtime]?
    rw [(hsame w).1]
    exact hruntime

/-- A computation that may end in an error. -/
theorem run_bind {act : ExceptT ε (StateM World) α} {f : α → ExceptT ε (StateM World) β}
    (hact : ReachesOnly runtime act.run) (hf : ∀ a, ReachesOnly runtime (f a).run) :
    ReachesOnly runtime (act >>= f).run := by
  rw [ExceptT.run_bind]
  apply bind hact
  intro outcome
  cases outcome with
  | ok a => exact hf a
  | error e => exact pure

/-- What is looked at in a world is the same in a world that differs in other runtimes. -/
theorem get_bind {f : World → Act α} (hsame : ∀ w w', AlikeAt runtime w w' → f w' = f w)
    (hf : ∀ w, ReachesOnly runtime (f w).run) : ReachesOnly runtime (get >>= f : Act α).run := by
  constructor
  · intro w other hother
    exact (hf w).elsewhere w other hother
  · intro w
    exact (hf w).bridges w
  · intro w w' h
    show ((f w').run.run w').1 = ((f w).run.run w).1 ∧
      AlikeAt runtime ((f w).run.run w).2 ((f w').run.run w').2
    rw [hsame w w' h]
    exact (hf w).alike w w' h

end ReachesOnly

/-!
# What reaches a runtime
-/

theorem reachesOnly_inRuntime (attempt : Attempt Runtime α) :
    ReachesOnly runtime (inRuntime runtime attempt).run := by
  constructor
  · intro w other hother
    show ((inRuntime runtime attempt).outcome w).2.runtimes[other]? = _
    cases hruntime : w.runtimes[runtime]? with
    | none => rw [outcome_inRuntime_none hruntime]
    | some found =>
        rw [outcome_inRuntime hruntime]
        exact Array.getElem?_setIfInBounds_ne hother.symm
  · intro w
    show ((inRuntime runtime attempt).outcome w).2.bridges = _
    cases hruntime : w.runtimes[runtime]? with
    | none => rw [outcome_inRuntime_none hruntime]
    | some found => rw [outcome_inRuntime hruntime]
  · rintro w w' ⟨runtimes, hsame, rfl⟩
    show ((inRuntime runtime attempt).outcome { w with runtimes }).1 =
        ((inRuntime runtime attempt).outcome w).1 ∧
      AlikeAt runtime ((inRuntime runtime attempt).outcome w).2
        ((inRuntime runtime attempt).outcome { w with runtimes }).2
    cases hruntime : w.runtimes[runtime]? with
    | none =>
        rw [hruntime] at hsame
        have hnone : (World.runtimes { w with runtimes })[runtime]? = none := hsame
        rw [outcome_inRuntime_none hruntime, outcome_inRuntime_none hnone]
        exact ⟨rfl, runtimes, hsame.trans hruntime.symm, rfl⟩
    | some found =>
        rw [hruntime] at hsame
        have hsome : (World.runtimes { w with runtimes })[runtime]? = some found := hsame
        rw [outcome_inRuntime hruntime, outcome_inRuntime hsome]
        refine ⟨rfl, _, ?_, rfl⟩
        have hfirst : runtime < w.runtimes.size := (Array.getElem?_eq_some_iff.1 hruntime).1
        have hsecond : runtime < runtimes.size := (Array.getElem?_eq_some_iff.1 hsame).1
        dsimp only
        rw [Array.getElem?_setIfInBounds_self_of_lt hfirst,
          Array.getElem?_setIfInBounds_self_of_lt hsecond]

theorem reachesOnly_record (event : Event) : ReachesOnly runtime (record event) :=
  ReachesOnly.modify (fun _ => ⟨rfl, rfl⟩) fun _ _ => rfl

theorem reachesOnly_log (event : Event) : ReachesOnly runtime (log event).run :=
  ReachesOnly.bind (reachesOnly_record event) fun _ => ReachesOnly.pure

theorem reachesOnly_setPhase (lifecycle : LifecycleId) (phase : Phase) :
    ReachesOnly runtime (setPhase lifecycle phase).run := by
  have hmodify : ReachesOnly runtime (modify fun w : World =>
      { w with phases := (lifecycle, phase) :: w.phases.filter (·.1 != lifecycle) }) :=
    ReachesOnly.modify (fun _ => ⟨rfl, rfl⟩) fun _ _ => rfl
  exact ReachesOnly.bind hmodify fun _ => ReachesOnly.pure

theorem reachesOnly_ofAttempt {attempt : Attempt World α} (h : ReachesOnly runtime attempt.run) :
    ReachesOnly runtime (ofAttempt attempt).run := by
  unfold ofAttempt
  apply ReachesOnly.bind h
  intro outcome
  cases outcome with
  | ok a => exact ReachesOnly.pure
  | error panic => exact ReachesOnly.pure

/-!
# Bridges
-/

theorem reachesOnly_answer (connection : Connection) (r : Request) :
    ReachesOnly connection.runtime (answer connection r).run := by
  cases r with
  | numericKind object =>
      unfold answer
      split
      · exact reachesOnly_inRuntime _
      · exact ReachesOnly.pure
  | _ => exact reachesOnly_inRuntime _

theorem reachesOnly_runHolding (connection : Connection) (held : List Ref) (p : Program α) :
    ReachesOnly connection.runtime (p.runHolding (answer connection) record held) := by
  induction p generalizing held with
  | done result => exact ReachesOnly.pure
  | abort panic => exact ReachesOnly.pure
  | ask r next ih =>
      unfold Program.runHolding
      apply ReachesOnly.bind (reachesOnly_answer connection r)
      intro outcome
      cases outcome with
      | ok given => exact ih given _
      | error panic => exact ReachesOnly.pure
  | note event next ih =>
      unfold Program.runHolding
      exact ReachesOnly.bind (reachesOnly_record event) fun _ => ih held

theorem reachesOnly_unwind (connection : Connection) (held : List Ref) :
    ReachesOnly connection.runtime (Program.unwind (answer connection) held) := by
  induction held with
  | nil => exact ReachesOnly.pure
  | cons ref rest ih =>
      unfold Program.unwind
      apply ReachesOnly.bind (reachesOnly_answer connection (.release ref))
      intro outcome
      cases outcome with
      | ok given => exact ih
      | error panic => exact ReachesOnly.pure

theorem reachesOnly_program (connection : Connection) (p : Program α) :
    ReachesOnly connection.runtime (p.run (answer connection) record).run := by
  unfold Program.run
  apply ReachesOnly.bind (reachesOnly_runHolding connection [] p)
  rintro ⟨outcome, held⟩
  cases outcome with
  | ok a => exact ReachesOnly.pure
  | error panic => exact ReachesOnly.bind (reachesOnly_unwind connection held) fun _ => ReachesOnly.pure

theorem reachesOnly_ensure (lifecycle : LifecycleId) (paths : List String) :
    ReachesOnly runtime (ensure lifecycle runtime paths).run := by
  have hlogs : ∀ refused : List String,
      ReachesOnly runtime (refused.forM fun path => log (.pathNotAdded path)).run := by
    intro refused
    induction refused with
    | nil => exact ReachesOnly.pure
    | cons path rest ih => exact ReachesOnly.run_bind (reachesOnly_log _) fun _ => ih
  unfold ensure
  apply ReachesOnly.get_bind
  · intro w w' h
    dsimp only
    rw [h.phaseOf, h.runtimeName]
  · intro w
    dsimp only
    cases w.phaseOf lifecycle with
    | started => exact ReachesOnly.pure
    | finished => exact ReachesOnly.pure
    | idle =>
        apply ReachesOnly.run_bind (reachesOnly_ofAttempt (reachesOnly_inRuntime _))
        rintro ⟨running, refused⟩
        apply ReachesOnly.run_bind (hlogs refused)
        intro _
        cases running with
        | true => exact ReachesOnly.run_bind (reachesOnly_setPhase _ _) fun _ => reachesOnly_log _
        | false => exact ReachesOnly.pure

theorem reachesOnly_crossEntered (index : Nat) (crossing : Context → Crossing α)
    (connection : Connection) :
    ReachesOnly connection.runtime (crossEntered index crossing connection).run := by
  have hbridge : ReachesOnly connection.runtime (World.bridge index).run := by
    unfold World.bridge
    apply ReachesOnly.get_bind
    · intro w w' h
      rw [h.bridges]
    · intro w
      cases w.bridges[index]? with
      | some bridge => exact ReachesOnly.pure
      | none => exact ReachesOnly.pure
  unfold crossEntered
  apply ReachesOnly.get_bind
  · intro w w' h
    rw [h.runtimeName, h.nesting]
  · intro w
    apply ReachesOnly.run_bind hbridge
    intro bridge
    apply ReachesOnly.run_bind (reachesOnly_ofAttempt (reachesOnly_program connection _))
    intro outcome
    cases outcome with
    | ok result => exact ReachesOnly.pure
    | error e => exact ReachesOnly.pure

/-- A connected bridge first has its runtime started, and then crosses. -/
theorem run_cross {w : World} {index : Nat} {bridge : Bridge} {connection : Connection}
    (hconnected : w.Connected index bridge connection) (crossing : Context → Crossing α) :
    (cross index crossing).run.run w =
      (ensure connection.lifecycle connection.runtime bridge.settings.searchPaths >>= fun _ =>
        crossEntered index crossing connection).run.run w := by
  rw [cross_eq, run_bind, run_bind, run_enter hconnected]
  rcases (ensure connection.lifecycle connection.runtime bridge.settings.searchPaths).run.run w with
    ⟨outcome, w'⟩
  cases outcome with
  | ok _ => rfl
  | error failure => rfl

/-- What is asked of a bridge reaches no runtime but its own. -/
theorem reachesOnly_cross (index : Nat) (crossing : Context → Crossing α) (bridge : Bridge)
    (connection : Connection) :
    ReachesOnly connection.runtime
      (ensure connection.lifecycle connection.runtime bridge.settings.searchPaths >>= fun _ =>
        crossEntered index crossing connection).run :=
  ReachesOnly.run_bind (reachesOnly_ensure _ _) fun _ => reachesOnly_crossEntered index crossing connection

end World
end Session
end ForeignBridge
