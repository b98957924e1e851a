import ForeignBridge.Proofs.Reading.Requests
import ForeignBridge.Proofs.Session.Undoing

/-!
# Classification in a run

Whatever happened in a run before, every live object of a running runtime is read as the value that
it has by the contents of the heap.  No number of a run carries a kind that it is not of, and no
reference inside the runtime is dead, so there is nothing else that a conversion could come to.
-/

namespace ForeignBridge
namespace Simulation

/-!
# Numbers of their kinds
-/

/-- All numbers in a runtime are of the kinds that they carry. -/
def Genuine (s : Simulation) : Prop := s.heap.Every fun _ object => object.Tagged

theorem lasting_genuine : Lasting Genuine fun _ => True where
  misuse _ _ := trivial
  gate _ _ _ _ := ⟨trivial, trivial⟩
  retain _ _ _ hs hretain := hs.retain hretain
  allocate _ _ hs htagged _ := hs.allocate htagged
  report _ _ hs := hs
  build _ _ hs htagged := hs.allocate htagged
  release _ ref hs := hs.releaseAll [ref]
  store _ _ _ _ hs _ _ htagged := hs.setContent htagged
  register _ _ hs := hs
  count _ _ hs := hs
  clear _ hs := hs

theorem Genuine.of_agrees {first s : Simulation} (hfirst : first.Genuine) (h : first.Agrees s) :
    s.Genuine := by
  unfold Genuine
  rw [h.heap]
  exact hfirst

/-- A sound and genuine runtime that runs can be read. -/
theorem readable_of_sound {s : Simulation} {held : Multiset Ref} (hs : s.Sound held)
    (hready : s.Ready) (hgenuine : s.Genuine) : s.Readable where
  ready := hready
  closed ref child hchild := by
    unfold contentOf at hchild
    cases hget : s.heap.get? ref with
    | none =>
        rw [hget] at hchild
        cases hchild
    | some object =>
        rw [hget] at hchild
        rcases exists_child hs.balanced hget hchild with ⟨found, hfound⟩
        exact Heap.isLive_of_get? hfound
  tagged ref := by
    unfold contentOf
    cases hget : s.heap.get? ref with
    | none => trivial
    | some object => exact hgenuine ref object hget

end Simulation

namespace Session

variable {α : Type}

namespace World

variable {I : Simulation → Prop} {w w' : World}

/-!
# What stays in the runtime of a world
-/

/-- What is computed on the runtime, past all bridges. -/
theorem Hosting.yields {attempt : Attempt Simulation α} {a : α} {fine : Panic → Prop}
    (hw : w.Hosting I) (hattempt : attempt.Upholds I fine) (h : w.Yields attempt a w') :
    w'.Hosting I := by
  rcases hw with ⟨rig, hruntimes, hrig⟩
  rcases h with ⟨rig', s, hruntimes', houtcome, hw'⟩
  rw [hruntimes] at hruntimes'
  cases hruntimes'
  have hmeets := hattempt rig.simulation hrig
  unfold Attempt.Meets at hmeets
  rw [houtcome] at hmeets
  rw [hw']
  exact ⟨{ rig with simulation := s }, rfl, hmeets⟩

/-- What is done without passing a gate. -/
theorem Hosting.abides {act : Act α} {fine : Panic → Prop} (hw : w.Hosting I)
    (hact : Abides (w.Stays I) fine act) :
    Meets act w (fun _ w' => w'.Hosting I) fun _ w' => w'.Hosting I :=
  meets_mono (fun _ _ h => h.1) (fun _ _ h => h.2.1) (hact w ⟨hw, SameGates.refl w⟩)

theorem Hosting.genuine {s : Simulation} (h : w.Hosting (Simulation.Agrees s)) (hs : s.Genuine) :
    w.Hosting Simulation.Genuine :=
  h.mono fun _ hagrees => hs.of_agrees hagrees

/-- To leave a bridge changes nothing that is in the runtime. -/
theorem abides_leave (s : Simulation) (index : Nat) :
    Abides (fun w => w.Hosting (Simulation.Agrees s)) (fun _ => True) (leave index) := by
  refine abides_leave_of_stop (fun _ _ hw => hw) (fun _ _ hw => hw) (fun runtime w hw => ?_) index
  have hstays : (inRuntime runtime Runtime.stop).Upholds (w.Stays (Simulation.Agrees s))
      fun _ => True :=
    upholds_inRuntime w runtime (fun _ _ => trivial)
      (upholds_inSimulation (Simulation.upholds_stop s))
  exact Attempt.meets_mono (fun _ _ h => h.1) (fun _ _ h => ⟨h.1, h.2.1⟩)
    (hstays w ⟨hw, SameGates.refl w⟩)

/-- What a bridge serves keeps the numbers of the runtime genuine. -/
theorem meets_serve (index : Nat) (entry : Entry) (hw : w.Hosting Simulation.Genuine) :
    Meets (cross index fun ctx => ctx.serve entry) w
      (fun _ w' => w'.Hosting Simulation.Genuine) fun _ w' => w'.Hosting Simulation.Genuine := by
  rcases hw with ⟨rig, hruntimes, hrig⟩
  have hconfined : ∀ ctx : Context, (ctx.serve entry).Confined true fun _ => True := fun ctx =>
    Crossing.Confined.may ((ctx.tidy_serve entry).confined trivial)
  rw [cross_eq, meets_bind]
  refine meets_mono (fun connection w' hentered => ?_) (fun _ w' h => h.genuine hrig)
    (meets_enter index ⟨rig, hruntimes, Simulation.Agrees.refl _⟩)
  exact (hentered.hosting.genuine hrig).abides
    (abides_crossEntered Simulation.lasting_genuine hconfined connection)

theorem hosting_of_meets {act : Act α} {outcome : Except Failure α}
    (h : Meets act w (fun _ w' => w'.Hosting I) fun _ w' => w'.Hosting I)
    (hrun : act.run.run w = (outcome, w')) : w'.Hosting I := by
  unfold Meets at h
  rw [hrun] at h
  cases outcome with
  | ok a => exact h
  | error failure => exact h

end World

namespace Ledger

open World

/-- Whatever happens next, no number comes about that is not of its kind. -/
theorem hosting_step {l l' : Ledger} (hl : l.world.Hosting Simulation.Genuine)
    (hstep : Step l l') : l'.world.Hosting Simulation.Genuine := by
  have hgenuine := hl
  rcases hgenuine with ⟨rig, hruntimes, hrig⟩
  have hagrees : l.world.Hosting (Simulation.Agrees rig.simulation) :=
    ⟨rig, hruntimes, Simulation.Agrees.refl _⟩
  cases hstep with
  | @operate w op answer depth hnames howned h =>
      exact hl.yields (Simulation.upholds_perform Simulation.lasting_genuine
        (Simulation.upholds_run Simulation.lasting_genuine depth) op) h
  | @define w name body ref hbody h =>
      have htagged : (Simulation.Object.function name body).Tagged := trivial
      exact hl.yields (Simulation.upholds_build Simulation.lasting_genuine.toSteady htagged) h
  | @start w paths running h =>
      exact (hagrees.yields (Simulation.upholds_start paths) h).genuine hrig
  | stop h => exact (hagrees.yields (Simulation.upholds_stop _) h).genuine hrig
  | refuseStart refuses h =>
      have hrefuse : Attempt.Upholds (Simulation.Agrees rig.simulation) (fun _ => True)
          (modify fun s : Simulation => { s with refusesStart := refuses }) :=
        Attempt.Upholds.modify fun s hs => ⟨hs.heap, hs.modules, hs.pending, hs.called⟩
      exact (hagrees.yields hrefuse h).genuine hrig
  | @enter w bridge connection h =>
      have hentered := meets_enter bridge hagrees
      unfold Meets at hentered
      rw [h] at hentered
      exact hentered.hosting.genuine hrig
  | @refused w bridge error h =>
      have hentered := meets_enter bridge hagrees
      unfold Meets at hentered
      rw [h] at hentered
      exact hentered.genuine hrig
  | @leave w bridge h =>
      have hleft := abides_leave rig.simulation bridge l.world hagrees
      have hafter := hosting_of_meets (meets_mono (fun _ _ h => h) (fun _ _ h => h.2) hleft) h
      exact hafter.genuine hrig
  | @served w bridge entry reply h => exact hosting_of_meets (meets_serve bridge entry hl) h
  | @failed w bridge entry error h => exact hosting_of_meets (meets_serve bridge entry hl) h
  | @clone w v hv h =>
      have htends := tends_stays l.world Simulation.lasting_genuine
      have hcloned := hl.abides (abides_cloneHandles htends v.handles)
      exact hosting_of_meets hcloned h
  | @drop w v rest hv hopen h =>
      have htends := tends_stays l.world Simulation.lasting_genuine
      have hdropped := hl.abides (abides_dropHandles htends v.handles)
      exact hosting_of_meets hdropped h
  | arrange h => exact hl

theorem hosting_of_reachable {l : Ledger} (hl : Reachable l) :
    l.world.Hosting Simulation.Genuine := by
  induction hl with
  | @fresh w depth hruntimes _ =>
      have hnull : Simulation.fresh.Genuine := Heap.Every.singleton trivial
      exact ⟨⟨.fresh, [], depth⟩, hruntimes, hnull⟩
  | step _ hstep ih => exact hosting_step ih hstep

/-- A new reference to a live object is converted to the value of the object, or to the error that
the value has instead. -/
theorem classified_of_reachable {l : Ledger} (hl : Reachable l) {rig : Rig}
    (hruntimes : l.world.runtimes = #[.simulated rig]) (hready : rig.simulation.Ready) {ref : Ref}
    (hlive : rig.simulation.heap.isLive ref = true) (ctx : Context) (lifecycle : LifecycleId) :
    ∃ world, (Program.run (answer ⟨0, lifecycle, true⟩) record
        (Crossing.ask (.retain ref) >>= fun _ => ctx.toHost ref).run).outcome l.world =
      (.ok (Simulation.hostValue rig.simulation.heap ctx.id ctx.settings.matrixAutoconversion ref),
        world) := by
  rcases kept_of_reachable hl with ⟨rig', hruntimes', hfaults, hs⟩
  rw [hruntimes] at hruntimes'
  cases hruntimes'
  rcases hosting_of_reachable hl with ⟨rig', hruntimes', hgenuine⟩
  rw [hruntimes] at hruntimes'
  cases hruntimes'
  rcases rig with ⟨s, faults, depth⟩
  cases hfaults
  have hreadable := Simulation.readable_of_sound hs hready hgenuine
  have hcomes : s.Lends depth (Crossing.ask (.retain ref) >>= fun _ => ctx.toHost ref) 0
      (Simulation.hostValue s.heap ctx.id ctx.settings.matrixAutoconversion ref) _ :=
    Crossing.Comes.bind (Simulation.lends_retain hreadable hlive) (Simulation.lends_toHost hreadable ctx hlive)
  have hhosts : l.world.Hosts depth (s.lending 0) := by
    rw [Simulation.lending_zero]
    exact hruntimes
  rcases hcomes.run (hosts_answer depth lifecycle) hosts_record hhosts with ⟨world, hrun, -⟩
  exact ⟨world, hrun⟩

/-!
A list that contains itself, in a run in which it is built past all bridges.
-/

/-- The runtime after an operation past the bridges. -/
def samplePerformed (s : Simulation) (op : Simulation.Op) : Simulation :=
  ((Simulation.perform (Simulation.run 1) op).outcome s).2

/-- The runtime after it was started and two numbers were made. -/
def sampleNumbers : Simulation :=
  samplePerformed (samplePerformed ((Simulation.start []).outcome .fresh).2 (.newInt 7)) (.newInt 0)

/-- The runtime after a list of the numbers was made. -/
def sampleList : Simulation := samplePerformed sampleNumbers (.newList [⟨3⟩, ⟨2⟩])

/-- The runtime after the list took the place of its own first item. -/
def sampleLoop : Simulation := samplePerformed sampleList (.request (.setItem ⟨4⟩ ⟨3⟩ ⟨4⟩))

theorem Reachable.performed {s : Simulation} {owned : Multiset Ref}
    (h : Reachable ⟨sampleWorld s, [], owned⟩) (op : Simulation.Op) (answer : op.Answer)
    (hnames : op.WellNamed) (howned : (op.consumed : Multiset Ref) ≤ owned)
    (houtcome : ((Simulation.perform (Simulation.run 1) op).outcome s).1 = .ok answer) :
    Reachable
      ⟨sampleWorld (samplePerformed s op), [], op.acquired answer + (owned - op.consumed)⟩ :=
  h.step (Step.operate 1 hnames howned ⟨⟨s, [], 1⟩, _, rfl, Prod.ext houtcome rfl, rfl⟩)

theorem reachable_sampleLoop : ∃ owned, Reachable ⟨sampleWorld sampleLoop, [], owned⟩ := by
  have hstart : (sampleWorld .fresh).Yields (Simulation.start []) true
      (sampleWorld ((Simulation.start []).outcome .fresh).2) :=
    ⟨⟨.fresh, [], 1⟩, _, rfl, Prod.ext (by cbv) rfl, rfl⟩
  have hfresh : Reachable ⟨sampleWorld .fresh, [], 0⟩ := Reachable.fresh rfl rfl
  have hrunning : Reachable ⟨sampleWorld ((Simulation.start []).outcome .fresh).2, [], 0⟩ :=
    hfresh.step (Step.start hstart)
  have hseven := hrunning.performed (.newInt 7) ⟨2⟩ trivial (Multiset.zero_le _) (by cbv)
  have hzero := hseven.performed (.newInt 0) ⟨3⟩ trivial (Multiset.zero_le _) (by cbv)
  have hlist := hzero.performed (.newList [⟨3⟩, ⟨2⟩]) ⟨4⟩ trivial (by decide) (by cbv)
  exact ⟨_, hlist.performed (.request (.setItem ⟨4⟩ ⟨3⟩ ⟨4⟩)) true trivial (Multiset.zero_le _)
    (by cbv)⟩

/-- The list is read as the cell of a cell of placeholders, in which it stands itself, and a
number. -/
theorem classified_of_sample :
    ∃ l world, Reachable l ∧
      (Program.run (answer ⟨0, .process, true⟩) record (Crossing.ask (.retain ⟨4⟩) >>= fun _ =>
        Context.toHost ⟨0, "sim", {}, 1⟩ ⟨4⟩).run).outcome l.world =
      (.ok (.ok (.cell [.cell [.undefined, .undefined],
        .scalar (.int ⟨.int64, 7, by decide⟩)])), world) := by
  rcases reachable_sampleLoop with ⟨owned, hl⟩
  have hready : sampleLoop.Ready := ⟨by cbv, by cbv⟩
  have hlive : sampleLoop.heap.isLive ⟨4⟩ = true := by cbv
  have hvalue : Simulation.hostValue sampleLoop.heap 0 true ⟨4⟩ =
      .ok (.cell [.cell [.undefined, .undefined], .scalar (.int ⟨.int64, 7, by decide⟩)]) := by
    cbv
  rcases classified_of_reachable hl rfl hready hlive ⟨0, "sim", {}, 1⟩ .process with ⟨world, hrun⟩
  refine ⟨_, world, hl, ?_⟩
  rw [← hvalue]
  exact hrun

end Ledger
end Session
end ForeignBridge
