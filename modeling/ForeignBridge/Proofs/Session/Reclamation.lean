import ForeignBridge.Proofs.Heap.Reclamation
import ForeignBridge.Proofs.Session.Conservation

/-!
# Reclamation over runs

After every run that leaves no circle of objects, exactly those objects live that can be reached from
the null object, the registered modules, the handles in the values of the host and the references
owned past the bridges.  Nothing that can be reached was given up too early, and nothing else is left.
-/

namespace ForeignBridge
namespace Session
namespace Ledger

open World

/-- What lives after a run is what can be reached from what is held; without values of the host, what
can be reached from the rest. -/
theorem isLive_iff_of_reachable {l : Ledger} (hl : Reachable l) {rig : Rig}
    (hruntimes : l.world.runtimes = #[.simulated rig]) (hacyclic : rig.simulation.heap.Acyclic)
    (ref : Ref) :
    (rig.simulation.heap.isLive ref = true ↔
      ∃ root, (root = Simulation.nullRef ∨ root ∈ rig.simulation.modules.values ∨
        root ∈ Value.refsAll l.values ∨ root ∈ l.owned) ∧
        rig.simulation.heap.Leads root ref) ∧
    (l.values = [] →
      (rig.simulation.heap.isLive ref = true ↔
        ∃ root, (root = Simulation.nullRef ∨ root ∈ rig.simulation.modules.values ∨
          root ∈ l.owned) ∧ rig.simulation.heap.Leads root ref)) := by
  rcases kept_of_reachable hl with ⟨rig', hruntimes', -, hs⟩
  rw [hruntimes] at hruntimes'
  cases hruntimes'
  have hheld : ∀ root, root ∈ rig.simulation.roots +
      ((Value.refsAll l.values : Multiset Ref) + l.owned) ↔
      root = Simulation.nullRef ∨ root ∈ rig.simulation.modules.values ∨
        root ∈ Value.refsAll l.values ∨ root ∈ l.owned := by
    intro root
    unfold Simulation.roots
    rw [Multiset.mem_add, Multiset.mem_add, Multiset.mem_add, Multiset.mem_singleton,
      Multiset.mem_coe, Multiset.mem_coe, or_assoc]
  have hiff := hs.balanced.isLive_iff hacyclic ref
  simp only [hheld] at hiff
  refine ⟨hiff, fun hnone => ?_⟩
  rw [hiff, hnone]
  have hempty : ∀ root, root ∉ Value.refsAll [] := fun _ => List.not_mem_nil
  simp only [hempty, false_or]

/-!
The run of the books, in which the handle of the function is dropped in the end: the number that the
function answered is gone, and the function is kept by its module.
-/

/-- The world after the function was read. -/
def sampleHeld : World := (sampleRead.run.run (sampleCall.run.run (sampleWorld sampleModule)).2).2

/-- The world after the handle of the function was dropped. -/
def sampleDropped : World := ((dropValue (.foreign ⟨0, ⟨2⟩, "f"⟩)).run.run sampleHeld).2

/-- The function is live and the number dead, in a runtime without circles. -/
def reclaimsSample (w : World) : Bool :=
  match w.runtimes[0]? with
  | some (Runtime.simulated rig) =>
    rig.simulation.heap.descends && (rig.simulation.heap.isLive ⟨2⟩ &&
      !rig.simulation.heap.isLive ⟨5⟩)
  | _ => false

theorem reachable_sampleDropped : ∃ owned, Reachable ⟨sampleDropped, [], owned⟩ := by
  have hcall : sampleCall.run.run (sampleWorld sampleModule) =
      (.ok (.value (.scalar (.int ⟨.int64, 7, by decide⟩))),
        (sampleCall.run.run (sampleWorld sampleModule)).2) :=
    Prod.ext (by cbv) rfl
  have hread : sampleRead.run.run (sampleCall.run.run (sampleWorld sampleModule)).2 =
      (.ok (.value (.foreign ⟨0, ⟨2⟩, "f"⟩)), sampleHeld) :=
    Prod.ext (by cbv) rfl
  have hdrop : (dropValue (.foreign ⟨0, ⟨2⟩, "f"⟩)).run.run sampleHeld = (.ok (), sampleDropped) :=
    Prod.ext (by cbv) rfl
  have hstarted : sampleHeld.phaseOf .process = .started := by cbv
  have hbridge : sampleHeld.bridges[0]? = some ⟨some ⟨0, .process, true⟩, {}⟩ := by cbv
  have hopen : ∀ h ∈ (Value.foreign ⟨0, ⟨2⟩, "f"⟩).handles, ¬ sampleHeld.IsShut h := by
    intro h hh hshut
    rw [List.mem_singleton.1 hh] at hshut
    rcases hshut with ⟨bridge, connection, hfound, hconnection, hphase⟩
    rw [hbridge] at hfound
    cases hfound
    cases hconnection
    rw [hstarted] at hphase
    cases hphase
  rcases reachable_sampleModule with ⟨owned, hmodule⟩
  have hheld := (hmodule.step (Step.served hcall)).step (Step.served hread)
  have hdropped := hheld.step (Step.drop (List.Perm.refl _) hopen hdrop)
  exact ⟨owned, hdropped.step (Step.arrange (List.Perm.refl _))⟩

theorem isLive_iff_of_sample :
    ∃ l rig, Reachable l ∧ l.world.runtimes = #[.simulated rig] ∧
      rig.simulation.heap.isLive ⟨2⟩ = true ∧
      (∃ root, (root = Simulation.nullRef ∨ root ∈ rig.simulation.modules.values ∨
        root ∈ l.owned) ∧ rig.simulation.heap.Leads root ⟨2⟩) ∧
      rig.simulation.heap.isLive ⟨5⟩ = false ∧
      ¬ ∃ root, (root = Simulation.nullRef ∨ root ∈ rig.simulation.modules.values ∨
        root ∈ l.owned) ∧ rig.simulation.heap.Leads root ⟨5⟩ := by
  have hreclaims : reclaimsSample sampleDropped = true := by cbv
  rcases reachable_sampleDropped with ⟨owned, hl⟩
  rcases kept_of_reachable hl with ⟨rig, hruntimes, -, -⟩
  have hsome : sampleDropped.runtimes[0]? = some (.simulated rig) := by
    rw [show sampleDropped.runtimes = #[.simulated rig] from hruntimes]
    rfl
  unfold reclaimsSample at hreclaims
  rw [hsome, Bool.and_eq_true, Bool.and_eq_true, Bool.not_eq_true'] at hreclaims
  rcases hreclaims with ⟨hdescends, hlive, hdead⟩
  have hacyclic := Heap.acyclic_of_descends hdescends
  have hfunction := (isLive_iff_of_reachable hl hruntimes hacyclic ⟨2⟩).2 rfl
  have hnumber := (isLive_iff_of_reachable hl hruntimes hacyclic ⟨5⟩).2 rfl
  refine ⟨_, rig, hl, hruntimes, hlive, hfunction.1 hlive, hdead, fun hleads => ?_⟩
  rw [hnumber.2 hleads] at hdead
  cases hdead

end Ledger
end Session
end ForeignBridge
