import ForeignBridge.Proofs.Chains.Writing
import ForeignBridge.Proofs.Session.Classification
import ForeignBridge.Proofs.Session.Isolation

/-!
# Chains in a run

Whatever happened in a run before, what was written through a chain of lookups is read through it
afterwards.  No other object that lives on is different, and the one that was written only in the place
at the end of the chain.
-/

namespace ForeignBridge
namespace Session

namespace World

variable {first w w' : World} {index depth : Nat} {bridge : Bridge} {lifecycle : LifecycleId}
  {s s' : Simulation}

/-!
# Requests that succeed
-/

/-- A world has a runtime in a given state, and all else that requests depend on as another world. -/
structure Carries (first : World) (depth : Nat) (w : World) (s : Simulation) : Prop where
  hosts : w.Hosts depth s
  gates : first.SameGates w
  nesting : w.nesting = first.nesting

theorem Carries.exists_answer (h : first.Carries depth w s) {r : Request} {given : r.Answer}
    (hanswer : (answer ⟨0, lifecycle, true⟩ r).outcome w = (.ok given, w')) :
    ∃ s', (Simulation.answer (Simulation.run depth) r).outcome s = (.ok given, s') ∧
      first.Carries depth w' s' := by
  have hhosts := h.hosts
  unfold Hosts at hhosts
  have hsome : w.runtimes[0]? = some (.simulated ⟨s, [], depth⟩) := by
    rw [hhosts]
    rfl
  have hasked : answer ⟨0, lifecycle, true⟩ r = inRuntime 0 (Runtime.answer r) := by
    cases r <;> rfl
  have hordinary : (Runtime.answer r).outcome (.simulated ⟨s, [], depth⟩) =
      (((Simulation.answer (Simulation.run depth) r).outcome s).1, .simulated
        ⟨((Simulation.answer (Simulation.run depth) r).outcome s).2, [], depth⟩) := rfl
  rw [hasked, outcome_inRuntime hsome, hordinary, hhosts] at hanswer
  rcases houtcome : (Simulation.answer (Simulation.run depth) r).outcome s with ⟨outcome, s'⟩
  rw [houtcome] at hanswer
  cases hanswer
  exact ⟨s', rfl, rfl, h.gates, h.nesting⟩

/-- Bridges cross in the same context. -/
theorem Carries.contextOf (h : first.Carries depth w s) {s₀ : Simulation}
    (hfirst : first.Hosts depth s₀) (index : Nat) (bridge : Bridge) (lifecycle : LifecycleId) :
    first.contextOf index bridge ⟨0, lifecycle, true⟩ =
      w.contextOf index bridge ⟨0, lifecycle, true⟩ := by
  unfold World.contextOf
  dsimp only
  rw [runtimeName_of_simulated hfirst, runtimeName_of_simulated h.hosts, h.nesting]

/-- A request that a bridge served is one that its runtime answered, after the bridge was entered. -/
theorem comes_of_served (hconnected : w.Connected index bridge ⟨0, lifecycle, true⟩) {entry : Entry}
    {reply : Reply} (hserved : w.served index entry = (.ok reply, w')) :
    ∃ entered, (enter index).run.run w = (.ok ⟨0, lifecycle, true⟩, entered) ∧
      entered.Connected index bridge ⟨0, lifecycle, true⟩ ∧
      ∀ depth s, entered.Hosts depth s → ∃ s',
        ((entered.contextOf index bridge ⟨0, lifecycle, true⟩).serve entry).Comes
          (Simulation.answer (Simulation.run depth)) s (.ok reply) s' ∧
        entered.Carries depth w' s' := by
  have hbridges := bridges_enter hconnected
  have hrun := run_enter hconnected
  dsimp only at hrun
  unfold served at hserved
  rw [cross_eq, run_bind] at hserved
  rcases hensure : (ensure lifecycle 0 bridge.settings.searchPaths).run.run w with ⟨outcome, entered⟩
  rw [hensure] at hrun
  cases outcome with
  | error failure =>
      rw [hrun] at hserved
      cases hserved
  | ok _ =>
      rw [hrun] at hserved hbridges
      have hbridge : entered.bridges[index]? = some bridge := by
        rw [hbridges]
        exact hconnected.1
      refine ⟨entered, hrun, ⟨hbridge, hconnected.2⟩, fun depth s hhosts => ?_⟩
      dsimp only at hserved
      rw [run_crossEntered hbridge] at hserved
      rcases houtcome : (Program.run (answer ⟨0, lifecycle, true⟩) record
        ((entered.contextOf index bridge ⟨0, lifecycle, true⟩).serve entry).run).outcome entered with
        ⟨outcome, w''⟩
      rw [houtcome] at hserved
      rcases outcome with panic | result
      · cases hserved
      · cases result with
        | error error => cases hserved
        | ok given =>
            cases hserved
            have hcarries : entered.Carries depth entered s := ⟨hhosts, SameGates.refl entered, rfl⟩
            exact Program.Succeeds.of_run (fun r given s t t' h => h.exists_answer)
              (fun event s t h => ⟨h.hosts, h.gates, h.nesting⟩) hcarries houtcome

/-- What a bridge that was entered before makes of a request. -/
theorem served_of_comes (hconnected : w.Connected index bridge ⟨0, lifecycle, true⟩)
    (hstarted : w.phaseOf lifecycle = .started) (hhosts : w.Hosts depth s) {entry : Entry}
    {outcome : Except BridgeError Reply}
    (hcomes : ((w.contextOf index bridge ⟨0, lifecycle, true⟩).serve entry).Comes
      (Simulation.answer (Simulation.run depth)) s outcome s') :
    (w.served index entry).1 = outcome.mapError Failure.bridge := by
  rcases hcomes.run (hosts_answer depth lifecycle) hosts_record hhosts with ⟨w', houtcome, -⟩
  unfold served
  rw [cross_eq, run_bind, run_enter_of_started hconnected.1 hconnected.2 hstarted]
  dsimp only
  rw [run_crossEntered hconnected.1, houtcome]
  cases outcome with
  | ok reply => rfl
  | error error => rfl

end World

namespace Ledger

open World Simulation

/-- What a write through a chain of lookups comes to, with a read through the chain that follows it. -/
structure Assigned (ctx : Context) (before : Rig) (root : Handle) (chain : List Accessor) (v : Value)
    (target : Ref) (place : Place) (w : World) (value : Ref) (after : Rig) : Prop where
  runtimes : w.runtimes = #[.simulated after]
  /-- The object that was written is the one that the value is unpacked to when the object to write
  into is held and all else is as it was. -/
  unpacked : ∃ start given, before.simulation.Undone start ∧
    (ctx.toForeign v).Comes (Simulation.answer (run after.callDepth)) (start.lending {target})
      (.ok value) given
  /-- The object that the chain leads to differs in the place only. -/
  written : ∃ object, before.simulation.heap.get? target = some object ∧
    after.simulation.heap.get? target = some (object.put value place)
  /-- All other objects that live on have the contents that they had. -/
  others : ∀ ref object found, ref ≠ target → before.simulation.heap.get? ref = some object →
    after.simulation.heap.get? ref = some found → found = object
  /-- What is read is what the object that was written is packed to. -/
  packed : ∃ packed s,
    (ctx.toHost value).Comes (Simulation.answer (run after.callDepth))
      (after.simulation.lending {value}) packed s ∧
    (w.served ctx.id (.read root chain)).1 = (packed.map Reply.value).mapError Failure.bridge

/-- A write that succeeds, through a chain on which nothing is called, returns the handle that the chain
begins with.  The chain leads to an object in the heap; if no link on the way reads the place that is
written there, the chain can be read afterwards and comes to what was written. -/
theorem assigned_of_reachable {l : Ledger} (hl : Reachable l) {before : Rig}
    (hruntimes : l.world.runtimes = #[.simulated before]) (hcalm : before.simulation.pending = none)
    {index : Nat} {bridge : Bridge} {lifecycle : LifecycleId}
    (hconnected : l.world.Connected index bridge ⟨0, lifecycle, true⟩) {root : Handle}
    {chain : List Accessor} (hlooks : Looks before.simulation.heap root.ref chain) {last : Accessor}
    {place : Place} (hplace : last.place? = some place) {v : Value} {reply : Reply} {w : World}
    (hserved : l.world.served index (.assign root (chain ++ [last]) v) = (.ok reply, w)) :
    reply = .value (.foreign root) ∧ ∃ target,
      follow? before.simulation.heap root.ref chain = some target ∧
      (Spares before.simulation.heap target place root.ref chain → ∃ value after,
        Assigned (w.contextOf index bridge ⟨0, lifecycle, true⟩) before root (chain ++ [last]) v target
          place w value after) := by
  rcases comes_of_served hconnected hserved with ⟨entered, henter, hfound, hcomes⟩
  have hentered := meets_enter index ⟨before, hruntimes, Agrees.refl before.simulation⟩
  unfold Meets at hentered
  rw [henter] at hentered
  -- The runtime that the write meets has the objects of the one before the bridge was entered.
  rcases kept_of_reachable (hl.step (Step.enter henter)) with ⟨rig, hrig, hfaults, hs⟩
  rcases hentered.hosting with ⟨rig', hrig', hagrees⟩
  rw [show entered.runtimes = _ from hrig] at hrig'
  cases hrig'
  rcases rig with ⟨s, faults, depth⟩
  cases hfaults
  dsimp only at hs hagrees
  rw [← hagrees.heap] at hlooks
  rcases hcomes depth s hrig with ⟨s', hassigned, hcarries⟩
  rcases Context.wrote_serve _ hs (hagrees.pending.trans hcalm) hlooks hplace hassigned with
    ⟨hown, hreply, target, value, start, given, hfollow, hundone, hmade, hwrote⟩
  refine ⟨hreply, target, ?_, fun hspared => ⟨value, ⟨s', [], depth⟩, ?_⟩⟩
  · rw [← hagrees.heap]
    exact hfollow
  rw [← hagrees.heap] at hspared
  rcases hwrote.follow? (Multiset.mem_singleton_self root.ref) hspared hplace hfollow with
    ⟨hchain, object, hbefore, hafter⟩
  rw [hcarries.contextOf hrig] at hmade hown
  rw [hagrees.heap] at hbefore
  refine ⟨hcarries.hosts, ⟨start, given, hagrees.undone_of hundone, hmade⟩,
    ⟨object, hbefore, hafter⟩, ?_, ?_⟩
  · intro ref object found hne hget hfound
    rw [← hagrees.heap] at hget
    exact hwrote.rewritten.others ref object found hne hget hfound
  · rcases hosting_of_reachable (hl.step (Step.served hserved)) with ⟨rig, hrig', hgenuine⟩
    rw [show w.runtimes = _ from hcarries.hosts] at hrig'
    cases hrig'
    have hreadable := readable_of_sound hwrote.sound hwrote.ready hgenuine
    have hclosed := closed_of_balanced hwrote.sound.balanced
    rcases hwrote.sound.exists_held
      (Multiset.mem_add.2 (.inl (Multiset.mem_singleton_self root.ref))) with ⟨found, hroot⟩
    rcases exists_last hclosed hchain hroot with ⟨content, hvalue⟩
    have hlive : s'.heap.isLive value = true := by
      rcases Option.map_eq_some_iff.1 hvalue with ⟨slot, hslot, -⟩
      unfold Heap.isLive
      rw [hslot]
      rfl
    have hconnected' : w.Connected index bridge ⟨0, lifecycle, true⟩ := by
      refine ⟨?_, hfound.2⟩
      rw [hcarries.gates.1]
      exact hfound.1
    have hstarted : w.phaseOf lifecycle = .started :=
      (hcarries.gates.phaseOf lifecycle).trans hentered.started
    rcases Context.comes_read _ depth hwrote.sound hreadable hown
      (List.append_ne_nil_of_right_ne_nil chain (List.cons_ne_nil last [])) hchain with
      ⟨s'', hread⟩
    exact ⟨_, _, lends_toHost hreadable _ hlive,
      served_of_comes hconnected' hstarted hcarries.hosts hread⟩

/-!
The first item of a list in a module is written.
-/

/-- The runtime after a list of two numbers was put into a module. -/
def sampleShelf : Simulation :=
  samplePerformed (samplePerformed (samplePerformed (samplePerformed .fresh (.newInt 7)) (.newInt 0))
    (.newList [⟨3⟩, ⟨2⟩])) (.registerModule "m" [("items", ⟨4⟩)])

theorem reachable_sampleShelf : ∃ owned, Reachable ⟨sampleWorld sampleShelf, [], owned⟩ := by
  have hfresh : Reachable ⟨sampleWorld .fresh, [], 0⟩ := Reachable.fresh rfl rfl
  have hseven := hfresh.performed (.newInt 7) ⟨2⟩ trivial (Multiset.zero_le _) (by cbv)
  have hzero := hseven.performed (.newInt 0) ⟨3⟩ trivial (Multiset.zero_le _) (by cbv)
  have hlist := hzero.performed (.newList [⟨3⟩, ⟨2⟩]) ⟨4⟩ trivial (by decide) (by cbv)
  exact ⟨_, hlist.performed (.registerModule "m" [("items", ⟨4⟩)]) ⟨5⟩ (List.nodup_singleton "items")
    (by decide) (by cbv)⟩

/-- The position of the first item. -/
def sampleFirst : Accessor := .index [.scalar (.int ⟨.int64, 1, by decide⟩)]

/-- A text is put in its place. -/
def sampleAssign : Entry := .assign ⟨0, ⟨5⟩, "m"⟩ ([.field "items"] ++ [sampleFirst]) (.text "a")

theorem assigned_of_sample :
    ∃ l w value after, Reachable l ∧
      l.world.served 0 sampleAssign = (.ok (.value (.foreign ⟨0, ⟨5⟩, "m"⟩)), w) ∧
      Assigned (w.contextOf 0 ⟨some ⟨0, .process, true⟩, {}⟩ ⟨0, .process, true⟩)
        ⟨sampleShelf, [], 1⟩ ⟨0, ⟨5⟩, "m"⟩ ([.field "items"] ++ [sampleFirst]) (.text "a") ⟨4⟩
        (.slot 0) w value after := by
  have hreply : ((sampleWorld sampleShelf).served 0 sampleAssign).1 =
      .ok (.value (.foreign ⟨0, ⟨5⟩, "m"⟩)) := by cbv
  have hserved : (sampleWorld sampleShelf).served 0 sampleAssign =
      (.ok (.value (.foreign ⟨0, ⟨5⟩, "m"⟩)), ((sampleWorld sampleShelf).served 0 sampleAssign).2) :=
    Prod.ext hreply rfl
  have hruns : (sampleWorld sampleShelf).runtimes = #[.simulated ⟨sampleShelf, [], 1⟩] := rfl
  have hcalm : sampleShelf.pending = none := by cbv
  have hconnected : (sampleWorld sampleShelf).Connected 0 ⟨some ⟨0, .process, true⟩, {}⟩
      ⟨0, .process, true⟩ := ⟨rfl, rfl⟩
  have hlooks : Looks sampleShelf.heap ⟨5⟩ [.field "items"] := by
    refine ⟨?_, fun _ _ => trivial, ?_⟩
    · rintro arguments object ⟨⟩
    · rintro - arguments ⟨⟩
  have hfollow : follow? sampleShelf.heap ⟨5⟩ [.field "items"] = some ⟨4⟩ := by cbv
  have hplace : sampleFirst.place? = some (.slot 0) := by cbv
  have hspared : Spares sampleShelf.heap ⟨4⟩ (.slot 0) ⟨5⟩ [.field "items"] := by
    refine ⟨fun htouches => ?_, fun _ _ => trivial⟩
    cases htouches.1
  rcases reachable_sampleShelf with ⟨owned, hl⟩
  rcases assigned_of_reachable hl hruns hcalm hconnected hlooks hplace hserved with
    ⟨-, target, htarget, hassigned⟩
  rw [hfollow] at htarget
  cases htarget
  rcases hassigned hspared with ⟨value, after, hassigned⟩
  exact ⟨_, _, value, after, hl, hserved, hassigned⟩

end Ledger
end Session
end ForeignBridge
