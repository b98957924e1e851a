import ForeignBridge.Proofs.Crossing.Origin
import ForeignBridge.Proofs.Session.Gates
import ForeignBridge.Proofs.Simulation.Undoing

/-!
# Undoing over runs

After every run, a request of the host that fails leaves all objects and modules of the runtime as
they were, and so does one that only reads, once its result is dropped.  Neither leaves an error
behind.  This holds as long as no function is called for the request, since that may do anything.
-/

namespace ForeignBridge

/-- The requests of the host for something that is read, without a call of its own. -/
def Entry.reads : Entry → Bool
  | .importModule _ | .getField _ _ | .read _ _ | .members _ => true
  | _ => false

theorem writes_eq_false_of_reads {entry : Entry} (h : entry.reads = true) :
    entry.writes = false := by
  cases entry with
  | setField _ _ _ | assign _ _ _ => cases h
  | _ => rfl

namespace Simulation

variable {first s : Simulation} {base : Multiset Ref}

/-- Two states differ at most in what starting and stopping change. -/
structure Agrees (first s : Simulation) : Prop where
  heap : s.heap = first.heap
  modules : s.modules = first.modules
  pending : s.pending = first.pending
  called : s.called = first.called

theorem Agrees.refl (s : Simulation) : Agrees s s := ⟨rfl, rfl, rfl, rfl⟩

theorem Agrees.undone (h : Agrees first s) (hcalm : first.pending = none) : Undone first s := by
  constructor
  · intro ref
    rw [h.heap]
  · exact h.modules
  · rw [h.pending]
    exact hcalm

/-- What is undone from a state is undone from one that agrees with it. -/
theorem Agrees.undone_of {middle : Simulation} (h : Agrees first middle) (hundone : Undone middle s) :
    Undone first s := by
  constructor
  · intro ref
    rw [hundone.objects, h.heap]
  · rw [hundone.modules, h.modules]
  · exact hundone.calm

theorem upholds_start (paths : List String) :
    (start paths).Upholds (Agrees first) fun _ => True := by
  unfold start
  apply Attempt.Upholds.get_bind
  intro s hs
  split
  · exact ⟨trivial, hs⟩
  · dsimp only
    split
    · exact ⟨hs.heap, hs.modules, hs.pending, hs.called⟩
    · exact ⟨hs.heap, hs.modules, hs.pending, hs.called⟩

theorem upholds_stop (first : Simulation) : stop.Upholds (Agrees first) fun _ => True := by
  have hrequire : (requireRunning "finalize").Upholds (Agrees first) fun _ => True := by
    unfold requireRunning
    apply Attempt.Upholds.get_bind
    intro s hs
    cases s.phase with
    | running => exact hs
    | fresh | stopped => exact ⟨trivial, hs⟩
  unfold stop
  apply Attempt.Upholds.bind hrequire
  intro _
  exact Attempt.Upholds.modify fun s hs => ⟨hs.heap, hs.modules, hs.pending, hs.called⟩

end Simulation

namespace Session

variable {α γ : Type}

namespace World

variable {first w : World} {connection : Connection} {depth : Nat} {s : Simulation}
  {base : Multiset Ref}

/-!
# Starting
-/

/-- Whatever comes of an act, something holds that holds of all that may come of it. -/
theorem meets_of_forall {act : Act α} {ok : α → World → Prop} {failed : Failure → World → Prop}
    (hok : ∀ a w', ok a w') (hfailed : ∀ failure w', failed failure w') : Meets act w ok failed := by
  unfold Meets
  rcases act.run.run w with ⟨outcome, w'⟩
  cases outcome with
  | ok a => exact hok a w'
  | error failure => exact hfailed failure w'

/-- A bridge that was entered has a lifecycle that is started. -/
theorem meets_ensure (lifecycle : LifecycleId) (runtime : Nat) (paths : List String) :
    Meets (ensure lifecycle runtime paths) w (fun _ w' => w'.phaseOf lifecycle = .started)
      fun _ _ => True := by
  unfold ensure
  rw [meets_bind, meets_get]
  cases hphase : w.phaseOf lifecycle with
  | started => exact hphase
  | finished => trivial
  | idle =>
      dsimp only
      rw [meets_bind]
      refine meets_of_forall (fun answer w' => ?_) fun _ _ => trivial
      rcases answer with ⟨running, refused⟩
      dsimp only
      rw [meets_bind]
      refine meets_of_forall (fun _ w'' => ?_) fun _ _ => trivial
      cases running with
      | true => exact phaseOf_setPhase _
      | false => trivial

/-- To start a runtime changes neither the bridges nor what is in the runtime. -/
theorem abides_ensure (first : World) (lifecycle : LifecycleId) (runtime : Nat) (paths : List String) :
    Abides (fun w => w.Hosting (Simulation.Agrees s) ∧ w.bridges = first.bridges) (fun _ => True)
      (ensure lifecycle runtime paths) := by
  refine abides_ensure_of_start (fun _ _ hw => hw) (fun _ _ hw => hw) (fun _ => trivial)
    (fun paths w hw => ?_) lifecycle paths
  have hstart : ((·, ([] : List String)) <$> Rig.inSimulation (Simulation.start paths)).Upholds
      (fun rig => Simulation.Agrees s rig.simulation) fun _ => True := by
    rw [map_eq_pure_bind]
    exact Attempt.Upholds.bind (upholds_inSimulation (Simulation.upholds_start paths))
      fun _ => Attempt.Upholds.pure
  have hstarted : (inRuntime runtime (Runtime.start paths)).Upholds
      (w.Stays (Simulation.Agrees s)) fun _ => True :=
    upholds_inRuntime w runtime (fun _ _ => trivial) hstart
  exact Attempt.meets_mono (fun _ _ h => ⟨h.1, h.2.1.trans hw.2⟩)
    (fun _ _ h => ⟨h.1, h.2.1, h.2.2.1.trans hw.2⟩) (hstarted w ⟨hw.1, SameGates.refl w⟩)

/-- What is known of a world in which a bridge was entered. -/
structure Entered (index : Nat) (s : Simulation) (connection : Connection) (w : World) : Prop where
  hosting : w.Hosting (Simulation.Agrees s)
  started : w.phaseOf connection.lifecycle = .started
  connected : ∃ bridge, w.Connected index bridge connection

/-- A bridge is entered, or refuses to be, and leaves what is in the runtime as it was. -/
theorem meets_enter (index : Nat) (hw : w.Hosting (Simulation.Agrees s)) :
    Meets (enter index) w (fun connection w' => Entered index s connection w')
      fun _ w' => w'.Hosting (Simulation.Agrees s) := by
  by_cases hconnected : ∃ bridge connection, w.Connected index bridge connection
  · rcases hconnected with ⟨bridge, connection, hconnected⟩
    have habides := abides_ensure w connection.lifecycle connection.runtime
      bridge.settings.searchPaths w ⟨hw, rfl⟩
    have hstarted := meets_ensure (w := w) connection.lifecycle connection.runtime
      bridge.settings.searchPaths
    unfold Meets at habides hstarted ⊢
    rw [run_enter hconnected]
    rcases hrun : (ensure connection.lifecycle connection.runtime
      bridge.settings.searchPaths).run.run w with ⟨outcome, w'⟩
    rw [hrun] at habides hstarted
    cases outcome with
    | error failure => exact habides.2.1
    | ok _ =>
        refine ⟨habides.1, hstarted, bridge, ?_, hconnected.2⟩
        rw [habides.2]
        exact hconnected.1
  · rcases run_enter_of_unconnected fun bridge connection h => hconnected ⟨bridge, connection, h⟩
      with ⟨failure, hrun, -⟩
    unfold Meets
    rw [hrun]
    exact hw

/-!
# Crossings
-/

/-- What is known of a world at a moment of a conversation with its runtime: the gates are those of
another world.  A runtime that is not there was not asked anything yet. -/
structure Converses (first : World) (connection : Connection) (start : γ)
    (inv : γ → Simulation → Prop) (depth : Nat) (g : γ) (w : World) : Prop where
  hosts : ∃ s, w.Hosts depth s ∧ inv g s
  gates : first.SameGates w
  silent : connection.runtime ≠ 0 → g = start

section Conversations

variable {P : Protocol γ} {inv : γ → Simulation → Prop} {start : γ}

/-- A world keeps to a conversation if its runtime does. -/
theorem keptBy_converses
    (hP : P.KeptBy (Simulation.answer (Simulation.run depth)) inv fun _ => True)
    (hbreaks : ∀ panic, P.breaksOff panic)
    (huntyped : ∀ g object, P.next g (.numericKind object) none g) (connection : Connection) :
    P.KeptBy (answer connection) (Converses first connection start inv depth) fun _ => True := by
  constructor
  · intro g w r hw hallowed
    rcases hw.hosts with ⟨s, hhosts, hinv⟩
    have hasked : (inRuntime connection.runtime (Runtime.answer r)).Returns w fun given w' =>
        ∃ g', P.next g r given g' ∧ Converses first connection start inv depth g' w' := by
      have hanswer := hP.answers g s r hinv hallowed
      unfold Hosts at hhosts
      unfold Attempt.Returns
      cases hruntime : connection.runtime with
      | succ index =>
          have hnone : w.runtimes[index + 1]? = none := by
            rw [hhosts]
            rfl
          rw [outcome_inRuntime_none hnone]
          trivial
      | zero =>
          have hsome : w.runtimes[0]? = some (.simulated ⟨s, [], depth⟩) := by
            rw [hhosts]
            rfl
          have hordinary : (Runtime.answer r).outcome (.simulated ⟨s, [], depth⟩) =
              (((Simulation.answer (Simulation.run depth) r).outcome s).1, .simulated
                ⟨((Simulation.answer (Simulation.run depth) r).outcome s).2, [], depth⟩) := rfl
          rw [outcome_inRuntime hsome, hordinary, hhosts]
          rcases houtcome : (Simulation.answer (Simulation.run depth) r).outcome s with
            ⟨outcome, s'⟩
          rw [houtcome] at hanswer
          cases outcome with
          | error panic => trivial
          | ok given =>
              rcases hanswer with ⟨g', hnext, hinv'⟩
              exact ⟨g', hnext, ⟨s', rfl, hinv'⟩, hw.gates, fun h => absurd hruntime h⟩
    have hanswered : (answer connection r).Returns w fun given w' =>
        ∃ g', P.next g r given g' ∧ Converses first connection start inv depth g' w' := by
      cases r with
      | numericKind object =>
          show (if connection.typed then _ else _ : Attempt World _).Returns w _
          split
          · exact hasked
          · exact ⟨g, huntyped g object, hw⟩
      | _ => exact hasked
    unfold Attempt.Returns at hanswered
    rcases houtcome : (answer connection r).outcome w with ⟨outcome, w'⟩
    rw [houtcome] at hanswered
    cases outcome with
    | ok given => exact hanswered
    | error panic => exact ⟨hbreaks panic, trivial⟩
  · exact fun _ _ _ => trivial
  · exact fun _ _ _ => trivial

/-- A crossing of a bridge that was entered ends as it is meant to. -/
theorem meets_crossEntered (index : Nat) {crossing : Context → Crossing α} {ok : α → γ → Prop}
    {failed : BridgeError → γ → Prop}
    (hP : P.KeptBy (answer connection) (Converses first connection start inv depth) fun _ => True)
    (h : ∀ ctx, (crossing ctx).Follows P ok failed start)
    (hw : Converses first connection start inv depth start w) :
    Meets (crossEntered index crossing connection) w
      (fun a w' => ∃ g, ok a g ∧ Converses first connection start inv depth g w')
      fun failure w' => ∀ error, failure = .bridge error →
        ∃ g, failed error g ∧ Converses first connection start inv depth g w' := by
  unfold Meets
  cases hbridge : w.bridges[index]? with
  | none =>
      rw [run_crossEntered_of_none hbridge]
      exact fun _ h => by cases h
  | some bridge =>
      have hrecord : ∀ event g w, Converses first connection start inv depth g w →
          Converses first connection start inv depth g ((record event).run w).2 :=
        fun _ _ _ hw => ⟨hw.hosts, hw.gates, hw.silent⟩
      have hend := Program.run_follows hP hrecord (h (w.contextOf index bridge connection)) hw
      rw [run_crossEntered hbridge]
      rcases houtcome : (Program.run (answer connection) record
        (crossing (w.contextOf index bridge connection)).run).outcome w with ⟨outcome, w'⟩
      rw [houtcome] at hend
      cases outcome with
      | error panic => exact fun _ h => by cases h
      | ok result =>
          cases result with
          | ok a => exact hend
          | error error =>
              intro other hother
              cases hother
              exact hend

end Conversations

/-!
# Dropping
-/

/-- A handle of a started runtime is dropped without a panic. -/
theorem run_dropHandle {h : Handle} {bridge : Bridge} {held : Multiset Ref}
    (hconnected : w.Connected h.context bridge connection)
    (hstarted : w.phaseOf connection.lifecycle = .started) (hruntime : connection.runtime = 0)
    (hhosts : w.Hosts depth s) (hrunning : s.phase = .running) (hs : s.Sound ({h.ref} + held)) :
    (dropHandle h).run.run w =
      (.ok (), w.withRig ⟨{ s with heap := (s.heap.release h.ref).heap }, [], depth⟩) := by
  have hreleased : (Runtime.answer (.release h.ref)).outcome (.simulated ⟨s, [], depth⟩) =
      (.ok (), .simulated ⟨{ s with heap := (s.heap.release h.ref).heap }, [], depth⟩) := by
    have hordinary : (Runtime.answer (.release h.ref)).outcome (.simulated ⟨s, [], depth⟩) =
        (((Simulation.answer (Simulation.run depth) (.release h.ref)).outcome s).1, .simulated
          ⟨((Simulation.answer (Simulation.run depth) (.release h.ref)).outcome s).2, [], depth⟩) :=
      rfl
    have hanswer : (Simulation.answer (Simulation.run depth) (.release h.ref)).outcome s =
        (.ok (), { s with heap := (s.heap.release h.ref).heap }) := by
      rw [Simulation.outcome_answer_of_running hrunning]
      exact Simulation.outcome_release hs
    rw [hordinary, hanswer]
  have hasked : answer connection (.release h.ref) =
      inRuntime connection.runtime (Runtime.answer (.release h.ref)) := rfl
  have hopen : w.phaseOf connection.lifecycle ≠ .finished := by
    rw [hstarted]
    exact Phase.noConfusion
  unfold dropHandle
  rw [run_bind, run_connectionOf hconnected]
  dsimp only
  rw [run_get_bind]
  rw [if_neg hopen, hasked, hruntime]
  exact run_inRuntime hhosts hreleased

/-- Handles that are held beyond what was held at first are dropped one by one, and the runtime goes
on from its first state all the while. -/
theorem exists_dropHandles {start : Simulation} (hfirst : start.Sound base)
    {handles : List Handle} (hruntime : handles ≠ [] → connection.runtime = 0)
    (hconnected : ∀ h ∈ handles, ∃ bridge, w.Connected h.context bridge connection)
    (hstarted : w.phaseOf connection.lifecycle = .started) (hhosts : w.Hosts depth s)
    (hrunning : handles ≠ [] → s.phase = .running)
    (hs : s.Sound ((handles.map Handle.ref : List Ref) + base)) (hintact : start.Intact s)
    (hcalm : s.pending = none) :
    ∃ w', (dropHandles handles).run.run w = (.ok (), w') ∧ w'.Hosting start.Undone := by
  induction handles generalizing w s with
  | nil =>
      have hsound : s.Sound base := by
        rw [← zero_add base]
        exact hs
      exact ⟨w, rfl, ⟨s, [], depth⟩, hhosts, hintact.undone hfirst hsound hcalm⟩
  | cons h rest ih =>
      have hhead : s.Sound ({h.ref} + ((rest.map Handle.ref : List Ref) + base)) := by
        rw [← add_assoc, Multiset.singleton_add, Multiset.cons_coe]
        exact hs
      rcases hconnected h List.mem_cons_self with ⟨bridge, hbridge⟩
      have hzero := hruntime (List.cons_ne_nil h rest)
      have hphase := hrunning (List.cons_ne_nil h rest)
      have hdrop := run_dropHandle hbridge hstarted hzero hhosts hphase hhead
      have hreleased : (Simulation.release h.ref).Returns s fun _ s' =>
          s'.Sound (0 + ((rest.map Handle.ref : List Ref) + base)) :=
        Simulation.keeps_release h.ref s _ hhead
      have hafter := Attempt.returns_of_outcome hreleased (Simulation.outcome_release hhead)
      rw [zero_add] at hafter
      rcases ih (w := w.withRig ⟨{ s with heap := (s.heap.release h.ref).heap }, [], depth⟩)
        (s := { s with heap := (s.heap.release h.ref).heap }) (fun _ => hzero)
        (fun other hother => hconnected other (List.mem_cons_of_mem h hother)) hstarted rfl
        (fun _ => hphase) hafter (hintact.release hfirst hhead) hcalm with ⟨w', hrest, hw'⟩
      refine ⟨w', ?_, hw'⟩
      rw [run_dropHandles_cons, hdrop, hrest]
      rfl

end World

namespace Ledger

open World

/-!
# Requests of the host
-/

/-- The end of a request of the host, in a conversation of which the thread was not lost. -/
def Served (entry : Entry) (reply : Reply) :
    Option (Multiset Ref × Conduct × Bool) → Prop
  | some (owned, g, written) =>
    owned = (reply.refs : Multiset Ref) ∧ g.pending = false ∧ (entry.writes = false → written = false)
  | none => True

/-- The end of a request of the host that fails. -/
def Failed : Option (Multiset Ref × Conduct × Bool) → Prop
  | some (owned, g, written) => owned = 0 ∧ g.pending = false ∧ written = false
  | none => True

theorem follows_serve (ctx : Context) (entry : Entry) :
    (ctx.serve entry).Follows (Simulation.undoing entry.longerPrefixes)
      (fun reply moment => Served entry reply moment) (fun _ moment => Failed moment)
      (some (0, .calm, false)) := by
  have howns := (ctx.tidy_serve entry).owns 0
  have hends : (ctx.serve entry).Follows (discretion entry.longerPrefixes)
      (fun _ d => d.1.pending = false ∧ (entry.writes = false → d.2 = false))
      (fun _ d => d.1.pending = false ∧ d.2 = false) (.calm, false) := by
    cases hwrites : entry.writes with
    | true =>
        refine Crossing.follows_mono (fun _ d hd => ?_) (fun _ _ hd => hd) (ctx.discreet_serve entry)
        rw [hd]
        exact ⟨rfl, nofun⟩
    | false =>
        refine Crossing.follows_mono (fun _ d hd => ?_) (fun _ _ hd => hd) (ctx.reads_serve hwrites)
        rw [hd]
        exact ⟨rfl, fun _ => rfl⟩
  rw [zero_add] at howns
  refine Program.follows_mono (fun outcome moment h => ?_)
    (Program.follows_orLost (Program.follows_beside howns hends))
  cases moment with
  | none =>
      cases outcome with
      | ok reply => trivial
      | error error => trivial
  | some moment =>
      have hmoment := h moment rfl
      cases outcome with
      | ok reply =>
          have howned : moment.1 = (reply.refs : Multiset Ref) + 0 := hmoment.1
          rw [add_zero] at howned
          exact ⟨howned, hmoment.2⟩
      | error error => exact hmoment

/-- The runtime of a world in a run, in the state in which a bridge that was entered finds it. -/
theorem converses_of_entered {l : Ledger} (hkept : Kept l) {first : Simulation} {bridge : Nat}
    {connection : Connection} {w : World} (hcalm : first.pending = none)
    (hrun : (enter bridge).run.run l.world = (.ok connection, w))
    (hw : w.Hosting (Simulation.Agrees first)) :
    ∃ s depth, first.Agrees s ∧ s.Sound ((Value.refsAll l.values : Multiset Ref) + l.owned) ∧
      Converses w connection (some (0, .calm, false))
        (Simulation.Tracks s ((Value.refsAll l.values : Multiset Ref) + l.owned)) depth
        (some (0, .calm, false)) w := by
  rcases hw with ⟨rig, hruntimes, hagrees⟩
  have hsound := sound_of_ok (keeps_enter bridge) hkept hrun
  rw [zero_add] at hsound
  rcases hsound with ⟨rig', hruntimes', hfaults, hs⟩
  rw [hruntimes] at hruntimes'
  cases hruntimes'
  rcases rig with ⟨s, faults, depth⟩
  cases hfaults
  refine ⟨s, depth, hagrees, hs, ⟨s, hruntimes, ?_⟩, SameGates.refl w, fun _ => rfl⟩
  exact Simulation.tracks_first hs (hagrees.pending.trans hcalm)

section Ends

variable {first start : Simulation} {base : Multiset Ref} {connection : Connection} {depth : Nat}
  {w w' : World} {moment : Option (Multiset Ref × Conduct × Bool)} {bridge : Nat} {entry : Entry}

/-- If no function was called, the thread of the conversation was not lost. -/
theorem exists_attends (hagrees : first.Agrees start) {s : Simulation}
    (htracks : Simulation.Tracks start base moment s) (hcalled : s.called = first.called) :
    ∃ owned g written, moment = some (owned, g, written) ∧
      Simulation.Attends start base (owned, g, written) s := by
  cases moment with
  | none => exact absurd (hcalled.trans hagrees.called.symm) htracks.2
  | some moment => exact ⟨moment.1, moment.2.1, moment.2.2, rfl, htracks⟩

theorem undone_of_failed (hagrees : first.Agrees start) (hs : start.Sound base)
    (hend : Failed moment)
    (hw : Converses w connection (some (0, .calm, false)) (Simulation.Tracks start base) depth
      moment w') :
    w'.Hosting fun s => s.called = first.called → first.Undone s := by
  rcases hw.hosts with ⟨s, hhosts, htracks⟩
  refine ⟨⟨s, [], depth⟩, hhosts, fun hcalled => ?_⟩
  rcases exists_attends hagrees htracks hcalled with ⟨owned, g, written, hmoment, hattends⟩
  rw [hmoment] at hend
  rcases hend with ⟨rfl, hpending, hwritten⟩
  have hsound := hattends.sound
  rw [zero_add] at hsound
  exact hagrees.undone_of ((hattends.intact hwritten).undone hs hsound (hattends.calm hpending))

theorem undone_of_served (hagrees : first.Agrees start) (hs : start.Sound base) {reply : Reply}
    (hreads : entry.reads = true) (hend : Served entry reply moment)
    (hentered : w.Entered bridge first connection)
    (hown : ∀ h ∈ reply.handles, h.context = bridge)
    (hw : Converses w connection (some (0, .calm, false)) (Simulation.Tracks start base) depth
      moment w') :
    w'.Hosting fun s => s.called = first.called →
      ∃ w'', (dropHandles reply.handles).run.run w' = (.ok (), w'') ∧
        w''.Hosting first.Undone := by
  rcases hw.hosts with ⟨s, hhosts, htracks⟩
  refine ⟨⟨s, [], depth⟩, hhosts, fun hcalled => ?_⟩
  rcases exists_attends hagrees htracks hcalled with ⟨owned, g, written, hmoment, hattends⟩
  rw [hmoment] at hend
  rcases hend with ⟨howned, hpending, hwritten⟩
  have hrefs : owned = (reply.handles.map Handle.ref : List Ref) := by
    rw [howned, reply.refs_eq_map]
  have hheld : reply.handles ≠ [] → owned ≠ 0 := by
    intro hsome hnone
    rw [hrefs, Multiset.coe_eq_zero, List.map_eq_nil_iff] at hnone
    exact hsome hnone
  have hruntime : reply.handles ≠ [] → connection.runtime = 0 := by
    intro hsome
    by_contra hother
    have hsilent := hw.silent hother
    rw [hmoment] at hsilent
    cases hsilent
    exact hheld hsome rfl
  have hconnected : ∀ h ∈ reply.handles, ∃ bridge, w'.Connected h.context bridge connection := by
    intro h hh
    rcases hentered.connected with ⟨found, hfound, hconnection⟩
    refine ⟨found, ?_, hconnection⟩
    rw [hw.gates.1, hown h hh]
    exact hfound
  have hsound := hattends.sound
  rw [hrefs] at hsound
  have hintact := hattends.intact (hwritten (writes_eq_false_of_reads hreads))
  rcases exists_dropHandles hs hruntime hconnected
    ((hw.gates.phaseOf connection.lifecycle).trans hentered.started) hhosts
    (fun hsome => hattends.running (hheld hsome)) hsound hintact (hattends.calm hpending) with
    ⟨w'', hdrop, hw''⟩
  exact ⟨w'', hdrop, hw''.mono fun _ hundone => hagrees.undone_of hundone⟩

end Ends

/-- After a request of the host that fails, and after one that reads and whose result is dropped, all
objects and modules are as they were and no error is pending, unless a function was called. -/
theorem undone_of_reachable {l : Ledger} (hl : Reachable l) {rig : Rig}
    (hruntimes : l.world.runtimes = #[.simulated rig]) (hcalm : rig.simulation.pending = none)
    (bridge : Nat) (entry : Entry) :
    match (cross bridge fun ctx => ctx.serve entry).run.run l.world with
    | (.error (.bridge _), w) => w.Hosting fun s =>
      s.called = rig.simulation.called → rig.simulation.Undone s
    | (.ok reply, w) => entry.reads = true → w.Hosting fun s =>
      s.called = rig.simulation.called →
        ∃ w', (dropHandles reply.handles).run.run w = (.ok (), w') ∧
          w'.Hosting rig.simulation.Undone
    | _ => True := by
  have hkept := kept_of_reachable hl
  have henter := meets_enter bridge ⟨rig, hruntimes, Simulation.Agrees.refl rig.simulation⟩
  unfold Meets at henter
  rw [cross_eq, run_bind]
  rcases hrun : (enter bridge).run.run l.world with ⟨outcome, w⟩
  rw [hrun] at henter
  cases outcome with
  | error failure =>
      cases failure with
      | bridge error => exact henter.mono fun s hagrees _ => hagrees.undone hcalm
      | _ => trivial
  | ok connection =>
      rcases converses_of_entered hkept hcalm hrun henter.hosting with
        ⟨start, depth, hagrees, hs, hw⟩
      have hkeeps : (Simulation.undoing entry.longerPrefixes).KeptBy (answer connection)
          (Converses w connection (some (0, .calm, false)) (Simulation.Tracks start
            ((Value.refsAll l.values : Multiset Ref) + l.owned)) depth) fun _ => True :=
        keptBy_converses (Simulation.keptBy_undoing hs depth) (fun _ => trivial)
          Simulation.next_numericKind connection
      have hend := meets_crossEntered bridge hkeeps (fun ctx => follows_serve ctx entry) hw
      unfold Meets at hend
      dsimp only
      rcases hserved : (crossEntered bridge (fun ctx => ctx.serve entry) connection).run.run w with
        ⟨outcome, w'⟩
      rw [hserved] at hend
      cases outcome with
      | error failure =>
          cases failure with
          | bridge error =>
              rcases hend error rfl with ⟨moment, hfailed, hw'⟩
              exact undone_of_failed hagrees hs hfailed hw'
          | _ => trivial
      | ok reply =>
          rcases hend with ⟨moment, hreply, hw'⟩
          intro hreads
          have hyields : ∀ ctx : Context, ctx.id = bridge →
              (ctx.serve entry).Yields fun reply => ∀ h ∈ reply.handles, h.context = bridge :=
            fun ctx hid => hid ▸ ctx.yields_serve entry
          have hown := result_of_crossEntered hyields hserved
          exact undone_of_served hagrees hs hreads hreply henter hown hw'

/-!
A function is read from its module, and the handle of it is dropped.
-/

/-- No function was called in the runtime of a world. -/
def silentSample (w : World) : Bool :=
  match w.runtimes[0]? with
  | some (Runtime.simulated rig) => rig.simulation.called.isEmpty
  | _ => false

theorem undone_of_sample :
    ∃ l rig, Reachable l ∧ l.world.runtimes = #[.simulated rig] ∧ rig.simulation.pending = none ∧
      ∃ w w', sampleRead.run.run l.world = (.ok (.value (.foreign ⟨0, ⟨2⟩, "f"⟩)), w) ∧
        (dropHandles [⟨0, ⟨2⟩, "f"⟩]).run.run w = (.ok (), w') ∧
        w'.Hosting rig.simulation.Undone := by
  have hread : (cross 0 fun ctx => ctx.serve (.getField (.name "m") "f")).run.run
      (sampleWorld sampleModule) = (.ok (.value (.foreign ⟨0, ⟨2⟩, "f"⟩)), sampleStarted) :=
    Prod.ext (by cbv) rfl
  have hsilent : silentSample sampleStarted = true := by cbv
  rcases reachable_sampleModule with ⟨owned, hl⟩
  have hruns : (sampleWorld sampleModule).runtimes = #[.simulated ⟨sampleModule, [], 1⟩] := rfl
  have hundone := undone_of_reachable hl hruns rfl 0 (.getField (.name "m") "f")
  rw [hread] at hundone
  rcases hundone rfl with ⟨rig, hruntimes, hdrop⟩
  have hsome : sampleStarted.runtimes[0]? = some (.simulated rig) := by
    rw [hruntimes]
    rfl
  unfold silentSample at hsilent
  rw [hsome] at hsilent
  rcases hdrop (List.isEmpty_iff.1 hsilent) with ⟨w', hdropped, hw'⟩
  exact ⟨_, ⟨sampleModule, [], 1⟩, hl, rfl, rfl, sampleStarted, w', hread, hdropped, hw'⟩

end Ledger
end Session
end ForeignBridge
