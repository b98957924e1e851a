import Mathlib
import ForeignBridge.Proofs.Crossing.Origin
import ForeignBridge.Proofs.Session.Upkeep

/-!
# Conservation over runs

A run begins with a fresh simulated runtime.  In any order, bridges over it are entered, left and
asked to serve requests of the host, which succeed or fail; host values are copied, rearranged and
dropped; and the runtime is used past all bridges by someone who passes on only references that are
theirs and writes only honest functions.

After every run each object counts exactly the references on it: one if it is the null object, those
of registered modules, those inside live objects, those inside host values, and those owned past the
bridges.
-/

namespace ForeignBridge

/-- The host values in a reply. -/
def Reply.values : Reply → List Value
  | .value v => [v]
  | .names _ | .nothing => []

theorem Reply.handles_eq (reply : Reply) : reply.handles = Value.handlesAll reply.values := by
  cases reply with
  | value v => exact (List.append_nil v.handles).symm
  | names _ | nothing => rfl

/-- The references of a reply are those of its handles. -/
theorem Reply.refs_eq_map (reply : Reply) : reply.refs = reply.handles.map Handle.ref := by
  cases reply with
  | value v => rfl
  | names _ | nothing => rfl

theorem Reply.refs_eq (reply : Reply) : reply.refs = Value.refsAll reply.values := by
  rw [refs_eq_map, handles_eq]
  rfl

theorem Value.refsAll_append (values others : List Value) :
    refsAll (values ++ others) = refsAll values ++ refsAll others := by
  unfold refsAll
  rw [handlesAll_append, List.map_append]

theorem Value.refsAll_perm {values others : List Value} (h : values.Perm others) :
    (refsAll values).Perm (refsAll others) :=
  (handlesAll_perm h).map Handle.ref

theorem Context.owns_memberNames (ctx : Context) (h : Handle) :
    Crossing.Owns 0 (ctx.memberNames h) fun _ => 0 := by
  have htidy : Crossing.Tidy ctx false [] 0 (ctx.memberNames h) fun _ => 0 := ctx.tidy_memberNames h
  exact htidy.owns

namespace Session

variable {α : Type}

/-- A world with one simulated runtime, and what is held of it outside: the host values that exist,
and the references owned past the bridges. -/
structure Ledger where
  world : World
  values : List Value
  owned : Multiset Ref

/-- A computation on the simulated runtime, past all bridges, with its result and the world after
it. -/
def World.Yields (w : World) (attempt : Attempt Simulation α) (a : α) (w' : World) : Prop :=
  ∃ rig s, w.runtimes = #[.simulated rig] ∧ attempt.outcome rig.simulation = (.ok a, s) ∧
    w' = { w with runtimes := #[.simulated { rig with simulation := s }] }

namespace Ledger

open World

/-- What may happen next in a run. -/
inductive Step : Ledger → Ledger → Prop where
  /-- An operation past the bridges. -/
  | operate {l : Ledger} {w : World} {op : Simulation.Op} {answer : op.Answer} (depth : Nat)
      (hnames : op.WellNamed) (howned : (op.consumed : Multiset Ref) ≤ l.owned)
      (h : l.world.Yields (Simulation.perform (Simulation.run depth) op) answer w) :
      Step l ⟨w, l.values, op.acquired answer + (l.owned - op.consumed)⟩
  /-- A new function. -/
  | define {l : Ledger} {w : World} {name : String} {body : Nat → List Ref → Simulation.Script}
      {ref : Ref} (hbody : Simulation.HonestBody body)
      (h : l.world.Yields (Simulation.allocate (.function name body)) ref w) :
      Step l ⟨w, l.values, {ref} + l.owned⟩
  /-- The runtime is started past the bridges, or refuses to. -/
  | start {l : Ledger} {w : World} {paths : List String} {running : Bool}
      (h : l.world.Yields (Simulation.start paths) running w) : Step l ⟨w, l.values, l.owned⟩
  /-- The runtime is stopped past the bridges. -/
  | stop {l : Ledger} {w : World} (h : l.world.Yields Simulation.stop () w) :
      Step l ⟨w, l.values, l.owned⟩
  /-- The runtime is told whether to refuse to start. -/
  | refuseStart {l : Ledger} {w : World} (refuses : Bool)
      (h : l.world.Yields (modify fun s => { s with refusesStart := refuses }) () w) :
      Step l ⟨w, l.values, l.owned⟩
  /-- A bridge starts the runtime. -/
  | enter {l : Ledger} {w : World} {bridge : Nat} {connection : Connection}
      (h : (World.enter bridge).run.run l.world = (.ok connection, w)) :
      Step l ⟨w, l.values, l.owned⟩
  /-- A bridge fails to start the runtime. -/
  | refused {l : Ledger} {w : World} {bridge : Nat} {error : BridgeError}
      (h : (World.enter bridge).run.run l.world = (.error (.bridge error), w)) :
      Step l ⟨w, l.values, l.owned⟩
  /-- A bridge stops the runtime. -/
  | leave {l : Ledger} {w : World} {bridge : Nat}
      (h : (World.leave bridge).run.run l.world = (.ok (), w)) : Step l ⟨w, l.values, l.owned⟩
  /-- A bridge serves a request of the host. -/
  | served {l : Ledger} {w : World} {bridge : Nat} {entry : Entry} {reply : Reply}
      (h : (cross bridge fun ctx => ctx.serve entry).run.run l.world = (.ok reply, w)) :
      Step l ⟨w, reply.values ++ l.values, l.owned⟩
  /-- A bridge reports an error to the host. -/
  | failed {l : Ledger} {w : World} {bridge : Nat} {entry : Entry} {error : BridgeError}
      (h : (cross bridge fun ctx => ctx.serve entry).run.run l.world =
        (.error (.bridge error), w)) :
      Step l ⟨w, l.values, l.owned⟩
  /-- A host value is copied. -/
  | clone {l : Ledger} {w : World} {v : Value} (hv : v ∈ l.values)
      (h : (cloneHandles v.handles).run.run l.world = (.ok (), w)) :
      Step l ⟨w, v :: l.values, l.owned⟩
  /-- A host value is dropped before its runtime was shut down. -/
  | drop {l : Ledger} {w : World} {v : Value} {rest : List Value}
      (hv : l.values.Perm (v :: rest)) (hopen : ∀ h ∈ v.handles, ¬ l.world.IsShut h)
      (h : (dropValue v).run.run l.world = (.ok (), w)) : Step l ⟨w, rest, l.owned⟩
  /-- The host puts its values together otherwise, with the same handles. -/
  | arrange {l : Ledger} {values : List Value}
      (h : (Value.handlesAll l.values).Perm (Value.handlesAll values)) :
      Step l ⟨l.world, values, l.owned⟩

/-- What a run leads to. -/
inductive Reachable : Ledger → Prop where
  | fresh {w : World} {depth : Nat} (hruntimes : w.runtimes = #[.simulated ⟨.fresh, [], depth⟩])
      (hbindings : w.bindings = .empty) : Reachable ⟨w, [], 0⟩
  | step {l l' : Ledger} (hl : Reachable l) (hstep : Step l l') : Reachable l'

/-!
# Steps keep the books
-/

/-- The runtime is sound with all that is held of it. -/
def Kept (l : Ledger) : Prop := l.world.Sound ((Value.refsAll l.values : Multiset Ref) + l.owned)

theorem kept_fresh {w : World} {depth : Nat}
    (hruntimes : w.runtimes = #[.simulated ⟨.fresh, [], depth⟩]) : Kept ⟨w, [], 0⟩ := by
  refine ⟨⟨.fresh, [], depth⟩, hruntimes, rfl, ?_⟩
  show Simulation.fresh.Sound (0 + 0)
  rw [zero_add]
  exact Simulation.sound_fresh

/-- What is done past the bridges takes references from the owner there, and hands over others. -/
theorem kept_of_yields {l : Ledger} {w : World} {attempt : Attempt Simulation α} {a : α}
    {before rest : Multiset Ref} {after : α → Multiset Ref}
    (hkeeps : Simulation.Keeps before attempt after) (hkept : Kept l)
    (howned : l.owned = before + rest) (h : l.world.Yields attempt a w) :
    Kept ⟨w, l.values, after a + rest⟩ := by
  rcases hkept with ⟨rig, hruntimes, hfaults, hs⟩
  rcases h with ⟨rig', s, hruntimes', houtcome, hw⟩
  rw [hruntimes] at hruntimes'
  cases hruntimes'
  rw [howned, add_left_comm] at hs
  have hs' := Attempt.returns_of_outcome (hkeeps rig.simulation _ hs) houtcome
  rw [add_left_comm] at hs'
  rw [hw]
  exact ⟨{ rig with simulation := s }, rfl, hfaults, hs'⟩

/-- What leaves the references with their owner. -/
theorem kept_of_quiet {l : Ledger} {w : World} {attempt : Attempt Simulation α} {a : α}
    (hkeeps : Simulation.Keeps 0 attempt fun _ => 0) (hkept : Kept l)
    (h : l.world.Yields attempt a w) : Kept ⟨w, l.values, l.owned⟩ := by
  have hafter := kept_of_yields hkeeps hkept (zero_add l.owned).symm h
  rw [zero_add] at hafter
  exact hafter

theorem sound_of_ok {act : Act α} {held : Multiset Ref} {after : α → Multiset Ref}
    {w w' : World} {a : α} (hkeeps : Keeps 0 act after) (hw : w.Sound held)
    (h : act.run.run w = (.ok a, w')) : w'.Sound (after a + held) := by
  rw [← zero_add held] at hw
  have hends := hkeeps w held hw
  unfold Ends at hends
  rw [h] at hends
  exact hends

theorem sound_of_bridge {act : Act α} {held : Multiset Ref} {after : α → Multiset Ref}
    {w w' : World} {error : BridgeError} (hkeeps : Keeps 0 act after) (hw : w.Sound held)
    (h : act.run.run w = (.error (.bridge error), w')) : w'.Sound held := by
  rw [← zero_add held] at hw
  have hends := hkeeps w held hw
  unfold Ends at hends
  rw [h] at hends
  exact hends

theorem keeps_serve (bridge : Nat) (entry : Entry) :
    Keeps 0 (cross bridge fun ctx => ctx.serve entry) fun reply => (reply.refs : Multiset Ref) :=
  keeps_cross bridge fun ctx => (ctx.tidy_serve entry).owns

theorem kept_served {l : Ledger} {w : World} {bridge : Nat} {entry : Entry} {reply : Reply}
    (hkept : Kept l)
    (h : (cross bridge fun ctx => ctx.serve entry).run.run l.world = (.ok reply, w)) :
    Kept ⟨w, reply.values ++ l.values, l.owned⟩ := by
  have hafter := sound_of_ok (keeps_serve bridge entry) hkept h
  rw [Reply.refs_eq, ← add_assoc, Multiset.coe_add, ← Value.refsAll_append] at hafter
  exact hafter

theorem kept_clone {l : Ledger} {w : World} {v : Value} (hkept : Kept l)
    (h : (cloneHandles v.handles).run.run l.world = (.ok (), w)) :
    Kept ⟨w, v :: l.values, l.owned⟩ := by
  have hends := ends_cloneHandles v.handles hkept
  unfold Ends at hends
  rw [h, ← add_assoc] at hends
  unfold Kept
  rw [Value.refsAll_cons, ← Multiset.coe_add]
  exact hends

theorem kept_drop {l : Ledger} {w : World} {v : Value} {rest : List Value} (hkept : Kept l)
    (hv : l.values.Perm (v :: rest)) (hopen : ∀ h ∈ v.handles, ¬ l.world.IsShut h)
    (h : (dropValue v).run.run l.world = (.ok (), w)) : Kept ⟨w, rest, l.owned⟩ := by
  have hrefs : (Value.refsAll l.values : Multiset Ref) =
      (v.refs : Multiset Ref) + Value.refsAll rest := by
    rw [Multiset.coe_add, ← Value.refsAll_cons]
    exact Multiset.coe_eq_coe.2 (Value.refsAll_perm hv)
  unfold Kept at hkept
  rw [hrefs, add_assoc] at hkept
  have hends := ends_dropHandles hkept hopen
  unfold Ends at hends
  rw [show (dropHandles v.handles).run.run l.world = (.ok (), w) from h] at hends
  exact hends

/-- One step, whatever it is. -/
theorem kept_step {l l' : Ledger} (hkept : Kept l) (hstep : Step l l') : Kept l' := by
  cases hstep with
  | operate depth hnames howned h =>
      have hkeeps := Simulation.keeps_perform (Simulation.runsHonestly_run depth) hnames
      have hafter := kept_of_yields hkeeps hkept (add_tsub_cancel_of_le howned).symm h
      exact hafter
  | define hbody h =>
      exact kept_of_yields (Simulation.keeps_newFunction _ hbody) hkept (zero_add l.owned).symm h
  | start h => exact kept_of_quiet (Simulation.keeps_start _) hkept h
  | stop h => exact kept_of_quiet Simulation.keeps_stop hkept h
  | refuseStart refuses h => exact kept_of_quiet (Simulation.keeps_refuseStart refuses) hkept h
  | @enter w bridge connection h =>
      have hafter := sound_of_ok (keeps_enter bridge) hkept h
      rw [zero_add] at hafter
      exact hafter
  | @refused w bridge error h => exact sound_of_bridge (keeps_enter bridge) hkept h
  | @leave w bridge h =>
      have hafter := sound_of_ok (keeps_leave bridge) hkept h
      rw [zero_add] at hafter
      exact hafter
  | served h => exact kept_served hkept h
  | @failed w bridge entry error h => exact sound_of_bridge (keeps_serve bridge entry) hkept h
  | clone hv h => exact kept_clone hkept h
  | drop hv hopen h => exact kept_drop hkept hv hopen h
  | @arrange values h =>
      have hrefs : (Value.refsAll l.values : Multiset Ref) = Value.refsAll values :=
        Multiset.coe_eq_coe.2 (h.map Handle.ref)
      unfold Kept at hkept
      rw [hrefs] at hkept
      exact hkept

theorem kept_of_reachable {l : Ledger} (h : Reachable l) : Kept l := by
  induction h with
  | fresh hruntimes _ => exact kept_fresh hruntimes
  | step _ hstep ih => exact kept_step ih hstep

/-- After every run, each object counts exactly the references on it, and all of them are to live
objects. -/
theorem owners_of_reachable {l : Ledger} (h : Reachable l) :
    ∃ rig, l.world.runtimes = #[.simulated rig] ∧ ∀ ref,
      rig.simulation.heap.owners ref =
        (if ref = Simulation.nullRef then 1 else 0) + rig.simulation.modules.values.count ref +
          rig.simulation.heap.references.count ref + (Value.refsAll l.values).count ref +
          l.owned.count ref ∧
      (ref = Simulation.nullRef ∨ ref ∈ rig.simulation.modules.values ∨
        ref ∈ rig.simulation.heap.references ∨ ref ∈ Value.refsAll l.values ∨ ref ∈ l.owned →
        rig.simulation.heap.isLive ref = true) := by
  rcases kept_of_reachable h with ⟨rig, hruntimes, -, hs⟩
  refine ⟨rig, hruntimes, fun ref => ?_⟩
  have hcount := hs.balanced ref
  unfold Simulation.roots at hcount
  simp only [Multiset.count_add, Multiset.count_singleton, Multiset.coe_count] at hcount
  have howners : rig.simulation.heap.owners ref =
      (if ref = Simulation.nullRef then 1 else 0) + rig.simulation.modules.values.count ref +
        rig.simulation.heap.references.count ref + (Value.refsAll l.values).count ref +
        l.owned.count ref := by
    rw [hcount]
    ring
  refine ⟨howners, fun hcounted => ?_⟩
  have hmem : ref ∈ rig.simulation.heap.references + (rig.simulation.roots +
      ((Value.refsAll l.values : Multiset Ref) + l.owned)) := by
    unfold Simulation.roots
    simp only [Multiset.mem_add, Multiset.mem_singleton, Multiset.mem_coe]
    tauto
  rcases hs.balanced.live hmem with ⟨slot, hslot⟩
  unfold Heap.isLive
  rw [hslot]
  rfl

/-!
The books of a run in which a function is written and put into a module, a bridge calls it, and the
host keeps a handle of it.
-/

/-- A function that answers with a new number. -/
def sampleBody (_ : Nat) (_ : List Ref) : Simulation.Script :=
  .perform (.newInt 7) fun ref => .done (some ref)

theorem honest_sampleBody : Simulation.HonestBody sampleBody := by
  intro depth calls arguments s
  exact ⟨Multiset.zero_le 0, trivial, rfl⟩

/-- The runtime after the function was written. -/
def sampleFunction : Simulation :=
  ((Simulation.allocate (.function "f" sampleBody)).outcome .fresh).2

/-- The runtime after the function was put into a module. -/
def sampleModule : Simulation :=
  ((Simulation.perform (Simulation.run 1) (.registerModule "m" [("f", ⟨2⟩)])).outcome
    sampleFunction).2

/-- A world with one bridge over a runtime. -/
def sampleWorld (s : Simulation) : World where
  runtimes := #[.simulated ⟨s, [], 1⟩]
  phases := []
  bridges := #[⟨some ⟨0, .process, true⟩, {}⟩]
  bindings := .empty
  events := []
  nesting := 1

/-- The bridge calls the function. -/
def sampleCall : Act Reply := cross 0 fun ctx => ctx.serve (.invoke (.name "m") "f" [])

/-- The bridge reads the function. -/
def sampleRead : Act Reply := cross 0 fun ctx => ctx.serve (.getField (.name "m") "f")

theorem step_sampleFunction :
    Step ⟨sampleWorld .fresh, [], 0⟩ ⟨sampleWorld sampleFunction, [], {⟨2⟩} + 0⟩ := by
  have hdefine : (sampleWorld .fresh).Yields (Simulation.allocate (.function "f" sampleBody)) ⟨2⟩
      (sampleWorld sampleFunction) :=
    ⟨⟨.fresh, [], 1⟩, _, rfl, Prod.ext rfl rfl, rfl⟩
  exact Step.define honest_sampleBody hdefine

theorem step_sampleModule :
    ∃ owned, Step ⟨sampleWorld sampleFunction, [], {⟨2⟩} + 0⟩ ⟨sampleWorld sampleModule, [], owned⟩ := by
  have hregister : (sampleWorld sampleFunction).Yields
      (Simulation.perform (Simulation.run 1) (.registerModule "m" [("f", ⟨2⟩)])) (⟨3⟩ : Ref)
      (sampleWorld sampleModule) :=
    ⟨⟨sampleFunction, [], 1⟩, _, rfl, Prod.ext (by cbv) rfl, rfl⟩
  have hnames : (Simulation.Op.registerModule "m" [("f", ⟨2⟩)]).WellNamed :=
    List.nodup_singleton "f"
  have howned : ((Simulation.Op.registerModule "m" [("f", ⟨2⟩)]).consumed : Multiset Ref) ≤
      {⟨2⟩} + 0 := le_of_eq rfl
  exact ⟨_, Step.operate 1 hnames howned hregister⟩

theorem reachable_sampleModule : ∃ owned, Reachable ⟨sampleWorld sampleModule, [], owned⟩ := by
  have hfresh : Reachable ⟨sampleWorld .fresh, [], 0⟩ := Reachable.fresh rfl rfl
  rcases step_sampleModule with ⟨owned, hregister⟩
  exact ⟨owned, (hfresh.step step_sampleFunction).step hregister⟩

theorem owners_of_sample :
    ∃ l, Reachable l ∧ Value.refsAll l.values = [⟨2⟩] ∧
      ∃ rig, l.world.runtimes = #[.simulated rig] ∧ rig.simulation.heap.owners ⟨2⟩ =
        (if (⟨2⟩ : Ref) = Simulation.nullRef then 1 else 0) +
          rig.simulation.modules.values.count ⟨2⟩ + rig.simulation.heap.references.count ⟨2⟩ +
          (Value.refsAll l.values).count ⟨2⟩ + l.owned.count ⟨2⟩ := by
  have hcall : sampleCall.run.run (sampleWorld sampleModule) =
      (.ok (.value (.scalar (.int ⟨.int64, 7, by decide⟩))),
        (sampleCall.run.run (sampleWorld sampleModule)).2) :=
    Prod.ext (by cbv) rfl
  have hread : sampleRead.run.run (sampleCall.run.run (sampleWorld sampleModule)).2 =
      (.ok (.value (.foreign ⟨0, ⟨2⟩, "f"⟩)),
        (sampleRead.run.run (sampleCall.run.run (sampleWorld sampleModule)).2).2) :=
    Prod.ext (by cbv) rfl
  rcases reachable_sampleModule with ⟨owned, hregistered⟩
  have hread := (hregistered.step (Step.served hcall)).step (Step.served hread)
  rcases owners_of_reachable hread with ⟨rig, hruntimes, hcounts⟩
  exact ⟨_, hread, rfl, rig, hruntimes, (hcounts ⟨2⟩).1⟩

end Ledger
end Session
end ForeignBridge
