import ForeignBridge.Proofs.Session.Scenes

/-!
# The life of a runtime

However a run goes on, the runtime goes through the phases of its lifecycle in order.  It starts at
most once, with the search paths of the bridge that started it, and is stopped at most once; only
between that it is reached, and who comes later fails before it.
-/

namespace ForeignBridge
namespace Session

open World

namespace Scene

variable {lifecycle : LifecycleId} {s : Scene} {rig : Rig} {action : Action}

theorem Course.bridges {w : World} (h : s.Course lifecycle action rig w) :
    w.bridges = s.world.bridges := by
  cases h with
  | rests h => exact h.2.1
  | refused _ _ h =>
      rw [h]
      rfl
  | starts _ _ _ _ _ hbridges _ => exact hbridges
  | stops _ _ _ hbridges _ => exact hbridges

/-- What an action comes to for the life of the runtime: it goes on with its lifecycle, forward only,
and once it was started neither how often that was tried nor its search paths change. -/
structure Onward (lifecycle : LifecycleId) (s later : Scene) (rig rig' : Rig) : Prop where
  idle : later.phase lifecycle = .idle →
    s.phase lifecycle = .idle ∧ rig'.simulation.searchPaths = rig.simulation.searchPaths
  finished : s.phase lifecycle = .finished → later.phase lifecycle = .finished
  once : s.phase lifecycle ≠ .idle → rig'.simulation.startCount = rig.simulation.startCount ∧
    rig'.simulation.searchPaths = rig.simulation.searchPaths

theorem Onward.refl (s : Scene) (rig : Rig) : s.Onward lifecycle s rig rig where
  idle h := ⟨h, rfl⟩
  finished h := h
  once _ := ⟨rfl, rfl⟩

theorem Onward.trans {middle later : Scene} {rig' rig'' : Rig}
    (h : s.Onward lifecycle middle rig rig') (h' : middle.Onward lifecycle later rig' rig'') :
    s.Onward lifecycle later rig rig'' where
  idle hlater := ⟨(h.idle (h'.idle hlater).1).1,
    (h'.idle hlater).2.trans (h.idle (h'.idle hlater).1).2⟩
  finished hs := h'.finished (h.finished hs)
  once hs := by
    have hmiddle : middle.phase lifecycle ≠ .idle := fun hidle => hs (h.idle hidle).1
    exact ⟨(h'.once hmiddle).1.trans (h.once hs).1, (h'.once hmiddle).2.trans (h.once hs).2⟩

/-- The runtime after an action is in the phase of its lifecycle again. -/
theorem Course.exists_rig (hs : s.Sane lifecycle rig)
    (h : s.Course lifecycle action rig (s.run action).2) :
    ∃ rig', (s.after action).world.runtimes = #[.simulated rig'] ∧
      rig'.simulation.phase = ((s.after action).phase lifecycle).ofRuntime ∧
      s.Onward lifecycle (s.after action) rig rig' := by
  cases h with
  | rests h =>
      rcases h with ⟨⟨rig', hruntimes, hlife⟩, hgates⟩
      rcases Simulation.life_eq_iff.1 hlife with ⟨hphase, hcount, hpaths⟩
      have hsame : (s.after action).phase lifecycle = s.phase lifecycle := hgates.phaseOf lifecycle
      refine ⟨rig', hruntimes, ?_, ?_⟩
      · rw [hphase, hsame]
        exact hs.matched
      · constructor
        · exact fun hidle => ⟨hsame.symm.trans hidle, hpaths⟩
        · exact fun hfinished => hsame.trans hfinished
        · exact fun _ => ⟨hcount, hpaths⟩
  | refused hidle _ h =>
      have hsame : (s.after action).phase lifecycle = .idle := by
        show (s.run action).2.phaseOf lifecycle = .idle
        rw [h]
        exact hidle
      refine ⟨{ rig with simulation := rig.simulation.refused }, ?_, ?_, ?_⟩
      · exact congrArg World.runtimes h
      · rw [hsame, ← hidle]
        exact hs.matched
      · constructor
        · exact fun _ => ⟨hidle, rfl⟩
        · intro hfinished
          rw [hidle] at hfinished
          cases hfinished
        · exact fun hnot => absurd hidle hnot
  | starts hidle _ _ _ hhosting _ hstarted =>
      rcases hhosting with ⟨rig', hruntimes, hlife⟩
      have hphase : (s.after action).phase lifecycle = .started := hstarted
      refine ⟨rig', hruntimes, ?_, ?_⟩
      · rw [hphase]
        exact (Simulation.life_eq_iff.1 hlife).1
      · constructor
        · intro hlater
          rw [hphase] at hlater
          cases hlater
        · intro hfinished
          rw [hidle] at hfinished
          cases hfinished
        · exact fun hnot => absurd hidle hnot
  | stops hstarted _ hhosting _ hfinished =>
      rcases hhosting with ⟨rig', hruntimes, hlife⟩
      rcases Simulation.life_eq_iff.1 hlife with ⟨hstopped, hcount, hpaths⟩
      have hphase : (s.after action).phase lifecycle = .finished := hfinished
      refine ⟨rig', hruntimes, ?_, ?_⟩
      · rw [hphase]
        exact hstopped
      · constructor
        · intro hlater
          rw [hphase] at hlater
          cases hlater
        · exact fun _ => hphase
        · exact fun _ => ⟨hcount, hpaths⟩

/-- The handles that the host is given are of bridges that have a runtime.  There are none as long
as the runtime was not started. -/
theorem given_of_sane (hs : s.Sane lifecycle rig) (hallowed : s.Allows action)
    {handles : List Handle} {w : World} (hrun : s.run action = (.ok handles, w)) :
    (∀ h ∈ handles, ∃ bridge connection, s.world.Connected h.context bridge connection) ∧
      ((s.after action).phase lifecycle = .idle → handles = []) := by
  have hidle : (s.after action).phase lifecycle = .idle → s.phase lifecycle = .idle := by
    rcases (goes_of_sane hs hallowed).1.exists_rig hs with ⟨_, -, -, honward⟩
    exact fun hafter => (honward.idle hafter).1
  cases hcaller : action.caller with
  | some index =>
      rcases Action.exists_rest hcaller with ⟨rest, hact, -, hgiven⟩
      have hentered := run_of_caller (s := s) hact
      by_cases hconnected : ∃ bridge connection, s.world.Connected index bridge connection
      · rcases hconnected with ⟨bridge, connection, hconnected⟩
        rw [hrun] at hentered
        constructor
        · rcases henter : (enter index).run.run s.world with ⟨outcome, w'⟩
          rw [henter] at hentered
          cases outcome with
          | error failure => cases hentered
          | ok entered =>
              intro h hh
              rw [hgiven entered w' handles w hentered.symm h hh]
              exact ⟨bridge, connection, hconnected⟩
        · intro hafter
          rcases goes_idle_connected hs (hidle hafter) hcaller hconnected with
            ⟨-, hrefused, hstarted⟩
          cases hrefuses : rig.simulation.refusesStart with
          | true =>
              rw [hrefused hrefuses] at hrun
              cases hrun
          | false =>
              have hphase := hafter.symm.trans (hstarted hrefuses)
              cases hphase
      · push Not at hconnected
        rcases run_enter_of_unconnected hconnected with ⟨failure, henter, -⟩
        rw [hrun, henter] at hentered
        cases hentered
  | none =>
      cases action with
      | init _ | serve _ _ | members _ => cases hcaller
      | exit _ | drop _ | outside _ =>
          rcases of_run_bind_pure hrun with ⟨_, -, hnone⟩
          rw [← hnone]
          exact ⟨nofun, fun _ => rfl⟩
      | clone v =>
          rcases of_run_bind_pure hrun with ⟨_, -, hhandles⟩
          rw [← hhandles]
          constructor
          · exact fun h hh => hs.connected h (Multiset.mem_of_le hallowed hh)
          · intro hafter
            have hnone : (v.handles : Multiset Handle) ≤ 0 := by
              rw [← (hs.unused (hidle hafter)).1]
              exact hallowed
            exact (Multiset.coe_eq_zero _).1 (Multiset.le_zero.1 hnone)

/-- One step of a run. -/
theorem sane_after (hs : s.Sane lifecycle rig) (hallowed : s.Allows action) :
    ∃ rig', (s.after action).Sane lifecycle rig' ∧ s.Onward lifecycle (s.after action) rig rig' := by
  have hcourse := (goes_of_sane hs hallowed).1
  rcases hcourse.exists_rig hs with ⟨rig', hruntimes, hmatched, honward⟩
  have hbridges : (s.after action).world.bridges = s.world.bridges := hcourse.bridges
  have hconnected : ∀ index bridge connection,
      (s.after action).world.Connected index bridge connection ↔
        s.world.Connected index bridge connection := by
    intro index bridge connection
    unfold Connected
    rw [hbridges]
  refine ⟨rig', ⟨hruntimes, hmatched, ?_, ?_, ?_⟩, honward⟩
  · exact fun index bridge connection h => hs.shared _ _ _ ((hconnected _ _ _).1 h)
  · intro h hh
    have hold : ∃ bridge connection, s.world.Connected h.context bridge connection := by
      rcases Multiset.mem_add.1 hh with hgiven | hkept
      · rcases hrun : s.run action with ⟨outcome, w⟩
        rw [hrun] at hgiven
        cases outcome with
        | error failure => cases hgiven
        | ok handles => exact (given_of_sane hs hallowed hrun).1 h hgiven
      · exact hs.connected h (Multiset.mem_of_le (Multiset.sub_le_self _ _) hkept)
    rcases hold with ⟨bridge, connection, hh⟩
    exact ⟨bridge, connection, (hconnected _ _ _).2 hh⟩
  · intro hidle
    rcases honward.idle hidle with ⟨hbefore, hpaths⟩
    rcases hs.unused hbefore with ⟨hnone, hempty⟩
    refine ⟨?_, hpaths.trans hempty⟩
    have hgiven : (s.run action).1.toOption.getD [] = [] := by
      rcases hrun : s.run action with ⟨outcome, w⟩
      cases outcome with
      | error failure => rfl
      | ok handles => exact (given_of_sane hs hallowed hrun).2 hidle
    unfold after
    rw [hgiven, hnone, Multiset.coe_nil, zero_add]
    exact Multiset.le_zero.1 (Multiset.sub_le_self _ _)

theorem sane_of_opening (h : s.Opening lifecycle) : ∃ rig, s.Sane lifecycle rig := by
  rcases h.fresh with ⟨rig, hruntimes, hfresh, hpaths⟩
  refine ⟨rig, hruntimes, ?_, h.shared, ?_, fun _ => ⟨h.unused, hpaths⟩⟩
  · rw [h.idle]
    exact hfresh
  · rw [h.unused]
    exact nofun

/-- A run, by induction on its actions. -/
theorem sane_of_leads {later : Scene} (hs : s.Sane lifecycle rig) (h : s.Leads later) :
    ∃ rig', later.Sane lifecycle rig' ∧ s.Onward lifecycle later rig rig' := by
  induction h with
  | refl => exact ⟨rig, hs, Onward.refl s rig⟩
  | tail _ hstep ih =>
      rcases ih with ⟨middle, hmiddle, honward⟩
      rcases hstep with ⟨action, hallowed, hafter⟩
      rcases sane_after hmiddle hallowed with ⟨rig', hsane, hnext⟩
      rw [hafter]
      exact ⟨rig', hsane, honward.trans hnext⟩

/-- What can be relied on when an action is taken in a scene. -/
structure Guarded (lifecycle : LifecycleId) (s : Scene) (action : Action) (rig : Rig) : Prop where
  /-- The phase moves only forward, when a bridge starts or stops the runtime. -/
  course : s.Course lifecycle action rig (s.run action).2
  /-- The runtime is not used outside its life. -/
  ungated : ∀ panic, (s.run action).1 = .error (.panic panic) → panic.isGate = false
  /-- The first use starts the runtime, with the search paths of that bridge.  If the runtime refuses
  the lifecycle stays idle, and the next use tries again. -/
  begins : s.phase lifecycle = .idle → ∀ index bridge connection, action.caller = some index →
    s.world.Connected index bridge connection →
    (rig.simulation.refusesStart = true → s.run action =
      (.error (.bridge (.foreignRuntime .start "sim runtime failed to start")),
        s.world.withRig { rig with simulation := rig.simulation.refused })) ∧
    (rig.simulation.refusesStart = false → (s.after action).phase lifecycle = .started)
  /-- Leaving a bridge stops the runtime if it was started, and else does nothing. -/
  ends : ∀ index, action = .exit index →
    (s.phase lifecycle ≠ .started → (s.run action).2 = s.world) ∧
    (s.phase lifecycle = .started →
      (∃ bridge connection, s.world.Connected index bridge connection) →
      (s.after action).phase lifecycle = .finished)
  /-- After the end whoever needs the runtime panics before it is reached. -/
  refuses : s.phase lifecycle = .finished → ∀ index bridge connection,
    action.caller = some index → s.world.Connected index bridge connection →
    s.run action = (.error (.panic (.usedAfterShutdown "sim")), s.world)
  /-- After the end no handle is copied. -/
  uncopied : s.phase lifecycle = .finished → ∀ v, action = .clone v → v.handles ≠ [] →
    ∃ ref, s.run action = (.error (.panic (.clonedAfterShutdown ref)), s.world)
  /-- After the end handles are dropped without the runtime. -/
  leaked : s.phase lifecycle = .finished → ∀ v, action = .drop v →
    ∃ w, s.run action = (.ok [], w) ∧ w.runtimes = s.world.runtimes ∧ s.world.SameGates w

theorem guarded_of_sane (hs : s.Sane lifecycle rig) (hallowed : s.Allows action) :
    s.Guarded lifecycle action rig := by
  have hgoes := goes_of_sane hs hallowed
  constructor
  · exact hgoes.1
  · exact hgoes.2
  · intro hidle index bridge connection hcaller hconnected
    exact (goes_idle_connected hs hidle hcaller hconnected).2
  · intro index haction
    rw [haction]
    constructor
    · intro hnot
      rcases run_exit hs index (.inl hnot) with ⟨outcome, hrun, -⟩
      rw [hrun]
    · rintro hstarted ⟨bridge, connection, hconnected⟩
      exact (goes_exit_connected hs hstarted hconnected).2
  · intro hfinished index bridge connection hcaller hconnected
    exact run_finished_caller hs hfinished hcaller hconnected
  · intro hfinished v haction hsome
    rw [haction] at hallowed ⊢
    exact run_finished_clone hs hfinished hallowed hsome
  · intro hfinished v haction
    rw [haction] at hallowed ⊢
    exact run_finished_drop hs hfinished hallowed

/-- Whatever led to a scene, the runtime is in the phase of its lifecycle, every allowed action is
guarded, and what comes later goes on from there. -/
theorem guarded_of_leads {first : Scene} (hfirst : first.Opening lifecycle) (hs : first.Leads s) :
    ∃ rig, s.world.runtimes = #[.simulated rig] ∧
      rig.simulation.phase = (s.phase lifecycle).ofRuntime ∧
      (∀ action, s.Allows action → s.Guarded lifecycle action rig) ∧
      ∀ later, s.Leads later → ∃ rig', later.world.runtimes = #[.simulated rig'] ∧
        s.Onward lifecycle later rig rig' := by
  rcases sane_of_opening hfirst with ⟨start, hstart⟩
  rcases sane_of_leads hstart hs with ⟨rig, hsane, -⟩
  refine ⟨rig, hsane.runtimes, hsane.matched, fun action => guarded_of_sane hsane, ?_⟩
  intro later hlater
  rcases sane_of_leads hsane hlater with ⟨rig', hrig', honward⟩
  exact ⟨rig', hrig'.runtimes, honward⟩

/-!
A bridge reads a function from its module and is left; after that the handle of the function is not
copied any more.
-/

/-- A world with a module, of which nobody has a handle. -/
def sample : Scene := ⟨Ledger.sampleWorld Ledger.sampleModule, 0⟩

def sampleGiven : Scene := sample.after (.serve 0 (.getField (.name "m") "f"))

def sampleLeft : Scene := sampleGiven.after (.exit 0)

theorem opening_sample : sample.Opening .process where
  fresh := ⟨⟨Ledger.sampleModule, [], 1⟩, rfl, by cbv, by cbv⟩
  idle := rfl
  shared := by
    rintro index bridge connection ⟨hbridge, hconnection⟩
    cases index with
    | zero =>
        cases hbridge
        cases hconnection
        exact ⟨rfl, rfl⟩
    | succ index => cases hbridge
  unused := rfl

theorem guarded_of_sample :
    sample.Opening .process ∧ sample.Leads sampleLeft ∧
      ∃ ref, sampleLeft.run (.clone (.foreign ⟨0, ⟨2⟩, "f"⟩)) =
        (.error (.panic (.clonedAfterShutdown ref)), sampleLeft.world) := by
  have hgiven : sample.Leads sampleGiven := 
    Relation.ReflTransGen.single ⟨.serve 0 (.getField (.name "m") "f"), trivial, rfl⟩
  have hleft : sample.Leads sampleLeft := hgiven.tail ⟨.exit 0, trivial, rfl⟩
  have hread : (sample.run (.serve 0 (.getField (.name "m") "f"))).1 = .ok [⟨0, ⟨2⟩, "f"⟩] := by cbv
  have hexit : (sampleGiven.run (.exit 0)).1 = .ok [] := by cbv
  have hfinished : sampleLeft.phase .process = .finished := by cbv
  have hallowed : sampleLeft.Allows (.clone (.foreign ⟨0, ⟨2⟩, "f"⟩)) := by
    show (([⟨0, ⟨2⟩, "f"⟩] : List Handle) : Multiset Handle) ≤ sampleLeft.handles
    unfold sampleLeft after
    rw [hexit]
    unfold sampleGiven after
    rw [hread]
    exact le_refl _
  rcases guarded_of_leads opening_sample hleft with ⟨rig, -, -, hguarded, -⟩
  exact ⟨opening_sample, hleft, (hguarded _ hallowed).uncopied hfinished _ rfl (List.cons_ne_nil _ _)⟩

end Scene
end Session
end ForeignBridge
