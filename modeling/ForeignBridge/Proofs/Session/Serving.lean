import ForeignBridge.Interpreter.Answer
import ForeignBridge.Proofs.Session.Isolation

/-!
# Crossings of started bridges

A bridge that was started runs its crossings against its runtime, whatever kind of runtime that is.
Nothing else in the world changes but the record of events, so what one crossing leaves behind is
what the next one begins with.
-/

namespace ForeignBridge
namespace Session

/-- A kind of runtime without faults: how it answers, and what it is in a world. -/
structure Backend (σ : Type) where
  answer : (r : Request) → Attempt σ r.Answer
  runtime : σ → Runtime

namespace Backend

variable {σ α : Type}

/-- A simulated runtime; the kinds of its numbers may be hidden. -/
def simulated (depth : Nat) (typed : Bool) : Backend Simulation where
  answer r :=
    match r with
    | .numericKind object =>
      if typed then Simulation.answer (Simulation.run depth) (.numericKind object) else pure none
    | r => Simulation.answer (Simulation.run depth) r
  runtime s := .simulated ⟨s, [], depth⟩

/-- An interpreter, which always answers. -/
def interpreted : Backend Interpreter where
  answer r := ExceptT.lift (Interpreter.answer r)
  runtime := .interpreted

/-- The runtime at a connection is of a kind. -/
def Drives (B : Backend σ) (connection : Connection) : Prop :=
  ∀ (w : World) (r : Request) (given : r.Answer) (s s' : σ),
    w.runtimes[connection.runtime]? = some (B.runtime s) → (B.answer r).outcome s = (.ok given, s') →
      (World.answer connection r).outcome w = (.ok given,
        { w with runtimes := w.runtimes.setIfInBounds connection.runtime (B.runtime s') })

theorem setIfInBounds_same {w : World} {k : Nat} {runtime : Runtime}
    (hruntime : w.runtimes[k]? = some runtime) :
    ({ w with runtimes := w.runtimes.setIfInBounds k runtime } : World) = w := by
  have hsame : w.runtimes.setIfInBounds k runtime = w.runtimes := by
    apply Array.ext_getElem?
    intro i
    by_cases hi : k = i
    · subst hi
      rw [Array.getElem?_setIfInBounds_self_of_lt (Array.getElem?_eq_some_iff.1 hruntime).1,
        hruntime]
    · rw [Array.getElem?_setIfInBounds_ne hi]
  rw [hsame]

/-- A request that reaches the runtime is answered as the runtime does. -/
theorem answer_of_asked {B : Backend σ} {connection : Connection} {w : World} {r : Request}
    {given : r.Answer} {s s' : σ}
    (hasked : World.answer connection r = World.inRuntime connection.runtime (Runtime.answer r))
    (hserved : (Runtime.answer r).outcome (B.runtime s) = (.ok given, B.runtime s'))
    (hruntime : w.runtimes[connection.runtime]? = some (B.runtime s)) :
    (World.answer connection r).outcome w = (.ok given,
      { w with runtimes := w.runtimes.setIfInBounds connection.runtime (B.runtime s') }) := by
  rw [hasked, World.outcome_inRuntime hruntime, hserved]

/-- The kinds of numbers are hidden, so that the runtime is not asked for them. -/
theorem answer_of_untyped {B : Backend σ} {connection : Connection} {w : World} {object : Ref}
    {s : σ} (huntyped : connection.typed = false)
    (hruntime : w.runtimes[connection.runtime]? = some (B.runtime s)) :
    (World.answer connection (.numericKind object)).outcome w = (.ok none,
      { w with runtimes := w.runtimes.setIfInBounds connection.runtime (B.runtime s) }) := by
  rw [setIfInBounds_same hruntime]
  unfold World.answer
  rw [huntyped]
  rfl

theorem drives_simulated (depth : Nat) (connection : Connection) :
    (simulated depth connection.typed).Drives connection := by
  intro w r given s s' hruntime hanswer
  have hother : World.answer connection r =
        World.inRuntime connection.runtime (Runtime.answer r) →
      (simulated depth connection.typed).answer r = Simulation.answer (Simulation.run depth) r →
      (World.answer connection r).outcome w = (.ok given, { w with
        runtimes := w.runtimes.setIfInBounds connection.runtime
          ((simulated depth connection.typed).runtime s') }) := by
    intro hasked hsame
    rw [hsame] at hanswer
    refine answer_of_asked hasked ?_ hruntime
    show (((Simulation.answer (Simulation.run depth) r).outcome s).1, Runtime.simulated
        ⟨((Simulation.answer (Simulation.run depth) r).outcome s).2, [], depth⟩) = _
    rw [hanswer]
    rfl
  cases r with
  | numericKind object =>
      cases htyped : connection.typed with
      | true =>
          rw [htyped] at hother
          exact hother (by unfold World.answer; rw [htyped]; rfl) rfl
      | false =>
          rw [htyped] at hanswer
          cases hanswer
          rw [htyped] at hruntime
          exact answer_of_untyped htyped hruntime
  | _ => exact hother rfl rfl

theorem drives_interpreted (connection : Connection) : interpreted.Drives connection := by
  intro w r given s s' hruntime hanswer
  have hother : World.answer connection r =
        World.inRuntime connection.runtime (Runtime.answer r) →
      (World.answer connection r).outcome w = (.ok given, { w with
        runtimes := w.runtimes.setIfInBounds connection.runtime (interpreted.runtime s') }) := by
    intro hasked
    refine answer_of_asked hasked ?_ hruntime
    show (Except.ok ((Interpreter.answer r).run s).1,
      Runtime.interpreted ((Interpreter.answer r).run s).2) = _
    cases hanswer
    rfl
  cases r with
  | numericKind object =>
      cases htyped : connection.typed with
      | true => exact hother (by unfold World.answer; rw [htyped]; rfl)
      | false =>
          cases hanswer
          exact answer_of_untyped htyped hruntime
  | _ => exact hother rfl

end Backend

namespace World

variable {σ α : Type} {B : Backend σ} {connection : Connection} {first w : World} {s s' : σ}
  {index : Nat} {bridge : Bridge}

/-!
# Crossings
-/

/-- A world is another one with the runtime at a connection in a given state and with more
events. -/
structure Bears (B : Backend σ) (connection : Connection) (first w : World) (s : σ) : Prop where
  runtime : w.runtimes[connection.runtime]? = some (B.runtime s)
  elsewhere : ∀ other, other ≠ connection.runtime → w.runtimes[other]? = first.runtimes[other]?
  gates : first.SameGates w
  nesting : w.nesting = first.nesting

theorem Bears.refl (hruntime : w.runtimes[connection.runtime]? = some (B.runtime s)) :
    Bears B connection w w s := ⟨hruntime, fun _ _ => rfl, SameGates.refl w, rfl⟩

theorem Bears.exists_answer (hdrives : B.Drives connection) (h : Bears B connection first w s)
    {r : Request} {given : r.Answer} (hanswer : (B.answer r).outcome s = (.ok given, s')) :
    ∃ w', (answer connection r).outcome w = (.ok given, w') ∧ Bears B connection first w' s' := by
  refine ⟨_, hdrives w r given s s' h.runtime hanswer, ?_, fun other hother => ?_, h.gates,
    h.nesting⟩
  · exact Array.getElem?_setIfInBounds_self_of_lt (Array.getElem?_eq_some_iff.1 h.runtime).1
  · exact (Array.getElem?_setIfInBounds_ne hother.symm).trans (h.elsewhere other hother)

theorem Bears.record (event : Event) (h : Bears B connection first w s) :
    Bears B connection first ((record event).run w).2 s :=
  ⟨h.runtime, h.elsewhere, h.gates, h.nesting⟩

/-- What a crossing of a started bridge comes to against its runtime. -/
theorem exists_cross_of_comes (hdrives : B.Drives connection)
    (hconnected : w.Connected index bridge connection)
    (hstarted : w.phaseOf connection.lifecycle = .started)
    (hruntime : w.runtimes[connection.runtime]? = some (B.runtime s))
    (crossing : Context → Crossing α) {outcome : Except BridgeError α}
    (hcomes : (crossing (w.contextOf index bridge connection)).Comes B.answer s outcome s') :
    ∃ w', (cross index crossing).run.run w = (outcome.mapError .bridge, w') ∧
      Bears B connection w w' s' := by
  rcases hcomes.run (fun r given t t' w' (hw : Bears B connection w w' t) hanswer =>
    hw.exists_answer hdrives hanswer) (fun event t w' hw => hw.record event)
    (Bears.refl hruntime) with ⟨w', houtcome, hbears⟩
  refine ⟨w', ?_, hbears⟩
  rw [cross_eq, run_bind, run_enter_of_started hconnected.1 hconnected.2 hstarted]
  dsimp only
  rw [run_crossEntered hconnected.1, houtcome]
  cases outcome with
  | ok a => rfl
  | error error => rfl

end World
end Session
end ForeignBridge
