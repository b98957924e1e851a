import ForeignBridge.Proofs.Session.Facing

/-!
# Intermediate handles

The host may keep a handle of what a chain came to and read on from there.  When it drops the handle, it
has got what it would have got from the whole chain at once, and the runtime is in the same state: the same
objects live, with the same contents and owners, and the next object gets the same number.
-/

namespace ForeignBridge
namespace Session
namespace Ledger

open World Simulation

variable {l : Ledger} {rig : Rig} {index : Nat} {bridge : Bridge} {lifecycle : LifecycleId}

/-- Where the first part of a chain comes to a handle, the second part is read from the handle to the same
value or error as the whole chain from the root, and once the handle is dropped the runtime is in the same
state.  Neither way ends in a panic, if no function is in the way of the whole chain. -/
theorem factored_of_reachable (hl : Reachable l) (hruntimes : l.world.runtimes = #[.simulated rig])
    (hconnected : l.world.Connected index bridge ⟨0, lifecycle, true⟩) {root h : Handle}
    {p q : List Accessor} (hp : p ≠ []) (hq : q ≠ [])
    (hfree : l.world.Unhindered rig index (.read root (p ++ q)))
    (hhandles : ∀ other ∈ (Entry.read root (p ++ q)).handles,
      other.context = index → other.ref ∈ Value.refsAll l.values) {w : World}
    (hfirst : l.world.served index (.read root p) = (.ok (.value (.foreign h)), w)) :
    ∃ result direct split dropped,
      l.world.served index (.read root (p ++ q)) = (result, direct) ∧
      w.served index (.read h q) = (result, split) ∧
      (∀ panic, result ≠ .error (.panic panic)) ∧
      (dropHandle h).run.run split = (.ok (), dropped) ∧
      dropped.runtimes = direct.runtimes := by
  rcases facing_of_reachable hl hruntimes hconnected with ⟨failure, failed, henter⟩ |
    ⟨entered, s, hfacing, hagrees, hsound⟩
  · unfold served at hfirst
    rw [crossed_of_refused henter] at hfirst
    cases hfirst
  have hread : l.world.served index (.read root p) =
      ((Except.ok (Reply.value (.foreign h)) : Except BridgeError Reply).mapError Failure.bridge, w) :=
    hfirst
  rcases hfacing.comes_of_served hread with ⟨middle, hpart, hcarries⟩
  rcases Context.reached_of_read _ hp hpart with ⟨hcontext, hmiddle, -⟩
  have hrunning : s.phase = .running := (phase_of_comes hpart).symm.trans hmiddle
  rcases hfacing.exists_comes hagrees hsound hrunning hfree fun other hother hown =>
    Multiset.mem_add.2 (.inl (hhandles other hother hown)) with ⟨outcome, t, hwhole⟩
  rcases Context.comes_second_part _ hp hq hpart hwhole with ⟨t', hrest, howes⟩
  rcases hfacing.served_of_comes hwhole with ⟨direct, hdirect, hleft⟩
  have hnext := hfacing.next hcarries
  have hsecond : (w.crossing index bridge lifecycle (.read h q)).Comes
      (Simulation.answer (Simulation.run rig.callDepth)) middle outcome t' := by
    rw [hfacing.crossing_eq hcarries]
    exact hrest
  rcases hnext.served_of_comes hsecond with ⟨split, hsplit, hkept⟩
  have hlast := hnext.next hkept
  have hconnected' : split.Connected h.context bridge ⟨0, lifecycle, true⟩ := by
    rw [hcontext]
    exact hlast.connected
  rcases run_dropHandle_of_owes hconnected' hlast.started hlast.hosts
    ((phase_of_comes hrest).trans hmiddle) howes with ⟨dropped, hdropped, hend⟩
  refine ⟨_, direct, split, dropped, hdirect, hsplit, fun panic hpanic => ?_, hdropped,
    hend.trans hleft.hosts.symm⟩
  cases outcome <;> cases hpanic

/-!
A bridge imported a module, and a function is called in two parts: it is read from the module, and the
handle of it is called.
-/

/-- The runtime after a bridge started it and imported the module. -/
def sampleBorrowed : Simulation :=
  { ((Simulation.start ["./"]).outcome sampleModule).2 with
    heap := (sampleModule.heap.retain? ⟨3⟩).getD sampleModule.heap }

/-- The world after a bridge imported the module. -/
def sampleImported : World := ((sampleWorld sampleModule).served 0 (.importModule "m")).2

theorem reachable_sampleImported :
    ∃ owned, Reachable ⟨sampleImported, [.foreign ⟨0, ⟨3⟩, "m"⟩], owned⟩ := by
  have hserved : (cross 0 fun ctx => ctx.serve (.importModule "m")).run.run
      (sampleWorld sampleModule) = (.ok (.value (.foreign ⟨0, ⟨3⟩, "m"⟩)), sampleImported) :=
    Prod.ext (by cbv) rfl
  rcases reachable_sampleModule with ⟨owned, hl⟩
  have himported := hl.step (Step.served hserved)
  exact ⟨owned, himported⟩

theorem runtimes_sampleImported : sampleImported.runtimes = #[.simulated ⟨sampleBorrowed, [], 1⟩] := by
  cbv

theorem uses_sampleBorrowed : sampleBorrowed.Uses (· = sampleBody) := by
  have hretain : sampleModule.heap.retain? ⟨3⟩ = some sampleBorrowed.heap := rfl
  exact uses_sampleModule.retain hretain

theorem connected_sampleImported :
    sampleImported.Connected 0 ⟨some ⟨0, .process, true⟩, {}⟩ ⟨0, .process, true⟩ :=
  ⟨by cbv, rfl⟩

theorem factored_of_sample :
    ∃ l direct split dropped w, Reachable l ∧
      l.world.served 0 (.read ⟨0, ⟨3⟩, "m"⟩ [.field "f"]) =
        (.ok (.value (.foreign ⟨0, ⟨2⟩, "f"⟩)), w) ∧
      l.world.served 0 (.read ⟨0, ⟨3⟩, "m"⟩ ([.field "f"] ++ [.call []])) =
        (.ok (.value (.scalar (.int ⟨.int64, 7, by decide⟩))), direct) ∧
      w.served 0 (.read ⟨0, ⟨2⟩, "f"⟩ [.call []]) =
        (.ok (.value (.scalar (.int ⟨.int64, 7, by decide⟩))), split) ∧
      (dropHandle ⟨0, ⟨2⟩, "f"⟩).run.run split = (.ok (), dropped) ∧
      dropped.runtimes = direct.runtimes := by
  have hfirst : sampleImported.served 0 (.read ⟨0, ⟨3⟩, "m"⟩ [.field "f"]) =
      (.ok (.value (.foreign ⟨0, ⟨2⟩, "f"⟩)),
        (sampleImported.served 0 (.read ⟨0, ⟨3⟩, "m"⟩ [.field "f"])).2) := Prod.ext (by cbv) rfl
  have hseven : (sampleImported.served 0 (.read ⟨0, ⟨3⟩, "m"⟩ ([.field "f"] ++ [.call []]))).1 =
      .ok (.value (.scalar (.int ⟨.int64, 7, by decide⟩))) := by cbv
  rcases reachable_sampleImported with ⟨owned, hl⟩
  have hhandles : ∀ other ∈ (Entry.read ⟨0, ⟨3⟩, "m"⟩ ([.field "f"] ++ [.call []])).handles,
      other.context = 0 → other.ref ∈ Value.refsAll [.foreign ⟨0, ⟨3⟩, "m"⟩] := by
    intro other hother _
    rw [List.mem_singleton.1 hother]
    exact List.mem_singleton_self _
  have hfree : sampleImported.Unhindered ⟨sampleBorrowed, [], 1⟩ 0
      (.read ⟨0, ⟨3⟩, "m"⟩ ([.field "f"] ++ [.call []])) := by
    refine .inr (.inl fun panic hpanic => ?_)
    rw [hseven] at hpanic
    cases hpanic
  rcases factored_of_reachable hl runtimes_sampleImported connected_sampleImported
    (List.cons_ne_nil _ _) (List.cons_ne_nil _ _) hfree hhandles hfirst with
    ⟨result, direct, split, dropped, hdirect, hsplit, -, hdropped, hsame⟩
  have hresult : result = .ok (.value (.scalar (.int ⟨.int64, 7, by decide⟩))) := by
    rw [hdirect] at hseven
    exact hseven
  rw [hresult] at hdirect hsplit
  exact ⟨_, direct, split, dropped, _, hl, hfirst, hdirect, hsplit, hdropped, hsame⟩

end Ledger
end Session
end ForeignBridge
