import ForeignBridge.Proofs.Reading.Requests
import ForeignBridge.Proofs.Reading.Settled
import ForeignBridge.Proofs.Session.Classification
import ForeignBridge.Proofs.Session.RoundTrip

/-!
# Values that stay as they are

A value that the host was given by a bridge may be taken to the runtime and read back as often as the
host likes.  It comes back each time, with the same parts and with handles of the same objects.
-/

namespace ForeignBridge

namespace Value

mutual

theorem matrices_anonymous (v : Value) : v.anonymous.matrices = v.matrices := by
  cases v with
  | cell items =>
      rw [anonymous, matrices, matrices, matricesAll_anonymousAll items]
  | _ => rfl

theorem matricesAll_anonymousAll (values : List Value) :
    matricesAll (anonymousAll values) = matricesAll values := by
  cases values with
  | nil => rfl
  | cons v rest =>
      rw [anonymousAll, matricesAll, matricesAll, matrices_anonymous v,
        matricesAll_anonymousAll rest]

end

mutual

theorem handles_anonymous (v : Value) :
    v.anonymous.handles = v.handles.map fun h => { h with className := "" } := by
  cases v with
  | cell items =>
      rw [anonymous, handles, handles, handlesAll_anonymousAll items]
  | _ => rfl

theorem handlesAll_anonymousAll (values : List Value) :
    handlesAll (anonymousAll values) =
      (handlesAll values).map fun h => { h with className := "" } := by
  cases values with
  | nil => rfl
  | cons v rest =>
      rw [anonymousAll, handlesAll, handlesAll, List.map_append, handles_anonymous v,
        handlesAll_anonymousAll rest]

end

/-- Values with the same parts have handles of the same objects. -/
theorem exists_handle {v w : Value} (h : w.anonymous = v.anonymous) {handle : Handle}
    (hhandle : handle ∈ w.handles) :
    ∃ other ∈ v.handles, other.context = handle.context ∧ other.ref = handle.ref := by
  have hmem := List.mem_map_of_mem (f := fun h : Handle => { h with className := "" }) hhandle
  rw [← handles_anonymous, h, handles_anonymous] at hmem
  rcases List.mem_map.1 hmem with ⟨other, hother, hsame⟩
  rw [Handle.mk.injEq] at hsame
  exact ⟨other, hother, hsame.1, hsame.2.1⟩

end Value

namespace Context

open Crossing Simulation

variable (ctx : Context)

/-- A value is taken to the runtime and read back a number of times. -/
def trips : Nat → Value → Crossing Value
  | 0, v => return v
  | n + 1, v => do trips n (← ctx.toHost (← ctx.toForeign v))

theorem Suits.of_anonymous {ctx : Context} {h : Heap Object} {held : Multiset Ref} {v w : Value}
    (hs : ctx.Suits h held v.handles) (hw : w.anonymous = v.anonymous) :
    ctx.Suits h held w.handles := by
  refine ⟨hs.null, hs.root, fun handle hhandle => ?_, fun handle hhandle => ?_,
    fun handle hhandle => ?_⟩
  · rcases Value.exists_handle hw hhandle with ⟨other, hother, hcontext, -⟩
    rw [← hcontext]
    exact hs.own other hother
  · rcases Value.exists_handle hw hhandle with ⟨other, hother, -, href⟩
    rw [← href]
    exact hs.kept other hother
  · rcases Value.exists_handle hw hhandle with ⟨other, hother, -, href⟩
    rw [← href]
    exact hs.opaques other hother

/-- A value that is its own normal form comes back as it was, however often it is taken there. -/
theorem reaches_trips {depth : Nat} {base : Simulation} (hready : base.Ready) {v : Value}
    (hnormal : v.normal ctx.settings.matrixAutoconversion = v)
    (hshapes : ∀ m ∈ v.matrices, m.shape?.isSome) (n : Nat) {u : Value}
    (hu : u.anonymous = v.anonymous) {h : Heap Object} {held : Multiset Ref} (hb : h.Balanced held)
    (hs : ctx.Suits h held u.handles) :
    Reaches (answer (run depth)) (ctx.trips n u) (base.withHeap h)
      fun w _ => w.anonymous = v.anonymous := by
  induction n generalizing u h held with
  | zero => exact Reaches.pure hu
  | succ n ih =>
      have hback : (u.normal ctx.settings.matrixAutoconversion).anonymous = u.anonymous := by
        rw [Value.anonymous_normal hu, hnormal, hu]
      have hmatrices : ∀ m ∈ u.matrices, m.shape?.isSome := by
        rw [← Value.matrices_anonymous, hu, Value.matrices_anonymous]
        exact hshapes
      unfold trips
      rw [← bind_assoc]
      apply Reaches.bind
      apply ctx.reaches_trip hready u hmatrices hb hs
      intro w h' hw hb' hold
      rw [hback] at hw
      exact ih (hw.trans hu) hb' ((hs.lasts hb' hold).of_anonymous hw)

end Context

namespace Session
namespace Ledger

open World Simulation

/-- Whatever a live object was read as, the host may take it to the runtime and read it back as often
as it likes: it comes back with the same parts, and with handles of the same objects. -/
theorem settled_of_reachable {l : Ledger} (hl : Reachable l) {rig : Rig}
    (hruntimes : l.world.runtimes = #[.simulated rig]) (hready : rig.simulation.Ready) {ref : Ref}
    (hlive : rig.simulation.heap.isLive ref = true) (ctx : Context) (lifecycle : LifecycleId)
    {v : Value} {world : World}
    (hread : (Program.run (answer ⟨0, lifecycle, true⟩) record
        (Crossing.ask (.retain ref) >>= fun _ => ctx.toHost ref).run).outcome l.world =
      (.ok (.ok v), world)) (n : Nat) :
    ∃ w world', (Program.run (answer ⟨0, lifecycle, true⟩) record (ctx.trips n v).run).outcome
        world = (.ok (.ok w), world') ∧ w.anonymous = v.anonymous := by
  have hkept := kept_of_reachable hl
  rcases hosting_of_reachable hl with ⟨rig', hruntimes', hgenuine⟩
  rw [hruntimes] at hruntimes'
  cases hruntimes'
  rcases id hkept with ⟨rig', hruntimes', hfaults, hs⟩
  rw [hruntimes] at hruntimes'
  cases hruntimes'
  rcases rig with ⟨s, faults, depth⟩
  cases hfaults
  -- The value is what the object is by the contents of the heap, and only references were lent.
  have hreadable := readable_of_sound hs hready hgenuine
  have hcomes : s.Lends depth (Crossing.ask (.retain ref) >>= fun _ => ctx.toHost ref) 0
      (hostValue s.heap ctx.id ctx.settings.matrixAutoconversion ref) _ :=
    Crossing.Comes.bind (lends_retain hreadable hlive) (lends_toHost hreadable ctx hlive)
  have hhosts : l.world.Hosts depth (s.lending 0) := by
    rw [lending_zero]
    exact hruntimes
  rcases hcomes.run (hosts_answer depth lifecycle) hosts_record hhosts with
    ⟨world', hrun, hhosts'⟩
  rw [hread, Prod.mk.injEq, Except.ok.injEq] at hrun
  rcases hrun with ⟨hvalue, hworld⟩
  rw [← hvalue, ← hworld] at hhosts'
  have hsettled := settledIn_hostValue hvalue.symm
  -- The host holds a reference for each handle of the value.
  have howns : (Crossing.ask (.retain ref) >>= fun _ => ctx.toHost ref).Owns 0
      fun v => (v.refs : Multiset Ref) := by
    have htidy : Crossing.Tidy ctx false [] 0
        (Crossing.ask (.retain ref) >>= fun _ => ctx.toHost ref)
        fun v => (v.refs : Multiset Ref) := Crossing.Tidy.bind .retain fun _ => ctx.tidy_toHost ref
    exact htidy.owns
  have hsound := returns_crossing ⟨0, lifecycle, true⟩ howns hkept
  unfold Attempt.Returns at hsound
  rw [hread] at hsound
  rcases hsound with ⟨rig', hruntimes', -, hs'⟩
  rw [show world.runtimes = _ from hhosts'] at hruntimes'
  cases hruntimes'
  have hsealed : ∀ handle ∈ v.handles, ∃ object,
      (s.lending (lentBy Value.refs 0 (.ok v))).heap.get? handle.ref = some object ∧
        object.IsOpaque := by
    intro handle hhandle
    rw [show (s.lending _).heap = s.heap.lent _ from rfl, Heap.get?_lent]
    exact (hsettled.sealedIn handle hhandle).2
  have hown : ∀ handle ∈ v.handles, handle.context = ctx.id := fun handle hhandle =>
    (hsettled.sealedIn handle hhandle).1
  have htrips : Crossing.Reaches (Simulation.answer (Simulation.run depth)) (ctx.trips n v)
      (s.lending (lentBy Value.refs 0 (.ok v))) fun w _ => w.anonymous = v.anonymous :=
    ctx.reaches_trips hready hsettled.normal hsettled.shapes n rfl hs'.balanced
      (suits_of_sound hs' hown hsealed)
  rcases htrips with ⟨w, s', hrun, hw⟩
  rcases hrun.run (hosts_answer depth lifecycle) hosts_record hhosts' with
    ⟨world', houtcome, -⟩
  exact ⟨w, world', houtcome, hw⟩

/-- A number and a list that contains itself, taken back and read again twice. -/
theorem settled_of_sample :
    ∃ l world w world', Reachable l ∧
      (Program.run (answer ⟨0, .process, true⟩) record (Crossing.ask (.retain ⟨4⟩) >>= fun _ =>
        Context.toHost ⟨0, "sim", {}, 1⟩ ⟨4⟩).run).outcome l.world =
      (.ok (.ok (.cell [.cell [.undefined, .undefined],
        .scalar (.int ⟨.int64, 7, by decide⟩)])), world) ∧
      (Program.run (answer ⟨0, .process, true⟩) record (Context.trips ⟨0, "sim", {}, 1⟩ 2
        (.cell [.cell [.undefined, .undefined],
          .scalar (.int ⟨.int64, 7, by decide⟩)])).run).outcome world = (.ok (.ok w), world') ∧
      w.anonymous =
        .cell [.cell [.undefined, .undefined], .scalar (.int ⟨.int64, 7, by decide⟩)] := by
  rcases reachable_sampleLoop with ⟨owned, hl⟩
  have hready : sampleLoop.Ready := ⟨by cbv, by cbv⟩
  have hlive : sampleLoop.heap.isLive ⟨4⟩ = true := by cbv
  have hread : ((Program.run (answer ⟨0, .process, true⟩) record
      (Crossing.ask (.retain ⟨4⟩) >>= fun _ =>
        Context.toHost ⟨0, "sim", {}, 1⟩ ⟨4⟩).run).outcome (sampleWorld sampleLoop)).1 =
      .ok (.ok (.cell [.cell [.undefined, .undefined],
        .scalar (.int ⟨.int64, 7, by decide⟩)])) := by cbv
  rcases settled_of_reachable hl rfl hready hlive ⟨0, "sim", {}, 1⟩ .process (Prod.ext hread rfl) 2
    with ⟨w, world', hrun, hw⟩
  exact ⟨_, _, w, world', hl, Prod.ext hread rfl, hrun, hw⟩

end Ledger
end Session
end ForeignBridge
