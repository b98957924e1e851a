import ForeignBridge.Proofs.Session.Isolation
import ForeignBridge.Proofs.Session.Standing
import ForeignBridge.Proofs.Simulation.Moments

/-!
# Moments of a session

What a session asks of a simulated runtime, through bridges or past them, takes the runtime through
moments, and so does what it builds there.  From one moment to the next the objects endure but for
what the operation that begins then writes.
-/

namespace ForeignBridge

open Attempt

/-!
# Computations that lead on

What holds after a number of moments holds after a computation too, with the moments of the
computation added.
-/

section Leading

variable {ε σ α β μ : Type} {J : List μ → σ → Prop}

/-- However it ends, a computation leads on by what is noted of it. -/
def Leads (J : List μ → σ → Prop) (act : ExceptT ε (StateM σ) α) (note : σ → List μ) : Prop :=
  ∀ ms s, J ms s → J (ms ++ note s) (act.run.run s).2

namespace Leads

theorem outcome {attempt : Attempt σ α} {note : σ → List μ} {ms : List μ} {s : σ}
    (h : Leads J attempt note) (hs : J ms s) : J (ms ++ note s) (attempt.outcome s).2 := h ms s hs

theorem quiet {act : ExceptT ε (StateM σ) α} (h : ∀ ms s, J ms s → J ms (act.run.run s).2) :
    Leads J act fun _ => [] := by
  intro ms s hs
  rw [List.append_nil]
  exact h ms s hs

theorem bind {act : ExceptT ε (StateM σ) α} {f : α → ExceptT ε (StateM σ) β} {note : σ → List μ}
    {rest : α → σ → List μ} (hact : Leads J act note) (hf : ∀ a, Leads J (f a) (rest a)) :
    Leads J (act >>= f) fun s => note s ++ thereafter act rest s := by
  intro ms s hs
  have hfirst := hact ms s hs
  dsimp only
  rw [ExceptT.run_bind, StateT.run_bind]
  rcases houtcome : act.run.run s with ⟨outcome, s'⟩
  rw [houtcome] at hfirst
  cases outcome with
  | ok a =>
      rw [thereafter_of_ok houtcome, ← List.append_assoc]
      exact hf a _ s' hfirst
  | error e =>
      rw [thereafter_of_error houtcome, List.append_nil]
      exact hfirst

/-- What goes on without anything to note. -/
theorem bind_of_none {act : ExceptT ε (StateM σ) α} {f : α → ExceptT ε (StateM σ) β}
    {note : σ → List μ} (hact : Leads J act note) (hf : ∀ a, Leads J (f a) fun _ => []) :
    Leads J (act >>= f) note := by
  intro ms s hs
  have hboth := bind hact hf ms s hs
  dsimp only at hboth
  rw [thereafter_nil, List.append_nil] at hboth
  exact hboth

end Leads

end Leading

namespace Program

variable {σ α μ : Type}

/-- What is noted of the requests of a program, each in the state in which it is asked. -/
def noted (noteRequest : Request → σ → List μ) (answer : (r : Request) → Attempt σ r.Answer)
    (record : Event → StateM σ Unit) : Program α → σ → List μ
  | done _, _ | abort _, _ => []
  | ask r next, s =>
    noteRequest r s ++
      thereafter (answer r) (fun given s' => noted noteRequest answer record (next given) s') s
  | note event next, s => noted noteRequest answer record next ((record event).run s).2

section Runs

variable {answer : (r : Request) → Attempt σ r.Answer} {record : Event → StateM σ Unit}
  {noteRequest : Request → σ → List μ} {J : List μ → σ → Prop}

theorem leads_runHolding (hanswer : ∀ r, Leads J (answer r) (noteRequest r))
    (hrecord : ∀ ms event s, J ms s → J ms ((record event).run s).2) (p : Program α) (held : List Ref)
    {ms : List μ} {s : σ} (hs : J ms s) :
    J (ms ++ p.noted noteRequest answer record s) ((p.runHolding answer record held).run s).2 := by
  -- What was noted so far is in the list, so that it grows along the branch that the answers take.
  induction p generalizing held ms s with
  | done result | abort panic =>
      unfold noted
      rw [List.append_nil]
      exact hs
  | ask r next ih =>
      have hasked := (hanswer r).outcome hs
      unfold noted
      rw [runHolding_ask, ← List.append_assoc]
      rcases houtcome : (answer r).outcome s with ⟨outcome, s'⟩
      rw [houtcome] at hasked
      cases outcome with
      | ok given =>
          rw [thereafter_of_ok houtcome]
          exact ih given _ hasked
      | error panic =>
          rw [thereafter_of_error houtcome, List.append_nil]
          exact hasked
  | note event next ih => exact ih held (hrecord ms event s hs)

theorem leads_unwind (hrelease : ∀ ref, Leads J (answer (.release ref)) fun _ => [])
    (held : List Ref) {ms : List μ} {s : σ} (hs : J ms s) : J ms ((unwind answer held).run s).2 := by
  induction held generalizing s with
  | nil => exact hs
  | cons ref rest ih =>
      have hreleased := (hrelease ref).outcome hs
      rw [List.append_nil] at hreleased
      rw [unwind_cons]
      rcases houtcome : (answer (.release ref)).outcome s with ⟨outcome, s'⟩
      rw [houtcome] at hreleased
      cases outcome with
      | ok _ => exact ih hreleased
      | error _ => exact hreleased

/-- A program leads on by what is noted of its requests.  What it gives back in the end is not
noted. -/
theorem leads_run (hanswer : ∀ r, Leads J (answer r) (noteRequest r))
    (hrelease : ∀ ref, Leads J (answer (.release ref)) fun _ => [])
    (hrecord : ∀ ms event s, J ms s → J ms ((record event).run s).2) (p : Program α) :
    Leads J (p.run answer record) (p.noted noteRequest answer record) := by
  intro ms s hs
  have hheld := leads_runHolding hanswer hrecord p [] hs
  show J _ ((p.run answer record).outcome s).2
  rw [outcome_run]
  rcases hrun : (p.runHolding answer record []).run s with ⟨⟨outcome, held⟩, s'⟩
  rw [hrun] at hheld
  cases outcome with
  | ok a => exact hheld
  | error panic => exact leads_unwind hrelease held hheld

end Runs

end Program

/-!
# Operations past the bridges
-/

namespace Simulation

open Session

variable {s : Simulation}

/-- What is kept by all that does not write comes through no moment. -/
theorem passes_of_upholds {α : Type} {attempt : Attempt Simulation α}
    (h : attempt.Upholds (fun s' => Endures .nothing s.heap s'.heap) fun _ => True) :
    Passes attempt s [] := meets_iff_state.1 (h s (Endures.refl s.heap))

/-- The moments of an operation past the bridges. -/
def stepMoments : DirectStep → Simulation → List Moment
  | .ask form =>
    thereafter (form.request locate) fun r => opMoments (scriptMoments callDepth) (.request r)
  | .build form => scriptMoments callDepth form.script
  | .registerModule name entries => scriptMoments callDepth (moduleScript name entries)
  | _ => fun _ => []

theorem passes_performStep (step : DirectStep) :
    Passes (performStep step) s (stepMoments step s) := by
  by_cases hstep : still step = true
  · have hnone : stepMoments step s = [] := by
      cases step with
      | ask _ | build _ | registerModule _ _ => cases hstep
      | _ => rfl
    have hsteady := steady_unfolds .nothing s.heap []
    rw [hnone]
    exact passes_of_upholds (upholds_performStep_of_still hsteady hstep)
  · cases step with
    | ask form =>
        exact passes_bind (passes_of_upholds (upholds_request form)) fun r s =>
          passes_bind_of_none (passes_perform (passes_run callDepth) (.request r)) fun _ s =>
            Endures.refl s.heap
    | build form =>
        exact passes_bind_of_none (passes_run callDepth form.script s) fun _ s => Endures.refl s.heap
    | registerModule name entries =>
        exact passes_bind_of_none (passes_run callDepth (moduleScript name entries) s) fun _ s =>
          Endures.refl s.heap
    | _ => exact absurd rfl hstep

theorem passes_direct (into : Option String) (step : DirectStep) :
    Passes (direct into step) s (stepMoments step s) :=
  passes_bind_of_none (passes_performStep step) fun _ s => Endures.refl s.heap

end Simulation

namespace Session

open Simulation (Moment Object)

variable {α : Type} {index place : Nat} {first : Heap Object} {ms : List Moment} {rig : Rig}
  {w : World}

/-- The moments of a request to a runtime that may be faulty.  There are none unless the request is
served. -/
def Rig.moments (r : Request) (rig : Rig) : List Moment :=
  if rig.serves r then
    Simulation.opMoments (Simulation.scriptMoments rig.callDepth) (.request r) rig.simulation
  else []

theorem unfolds_rigAnswer (r : Request)
    (hrig : Simulation.Unfolds .nothing first ms rig.simulation.heap) :
    Simulation.Unfolds .nothing first (ms ++ rig.moments r)
      ((Rig.answer r).outcome rig).2.simulation.heap := by
  have hreport : ∀ (rig' : Rig) pending,
      Simulation.Unfolds .nothing first (ms ++ rig.moments r) rig'.simulation.heap →
      Simulation.Unfolds .nothing first (ms ++ rig.moments r)
        { rig' with simulation := { rig'.simulation with pending } }.simulation.heap :=
    fun _ _ h => h
  refine meets_iff_state.1 (meets_rigAnswer hreport (fun faults hserved => ?_) fun faults hnot => ?_)
  · have hpasses : Simulation.Passes (Simulation.answer (Simulation.run rig.callDepth) r)
        rig.simulation (rig.moments r) := by
      unfold Rig.moments
      rw [if_pos hserved]
      exact Simulation.passes_perform (Simulation.passes_run rig.callDepth) (.request r)
    exact meets_iff_state.2 (hrig.append hpasses)
  · unfold Rig.moments
    rw [if_neg (Bool.eq_false_iff.1 hnot), List.append_nil]
    exact hrig

namespace World

/-!
# Requests to bridges
-/

/-- The moments of what is done in the runtime at a place of a world, if that is a simulated one. -/
def within (index : Nat) (moments : Rig → List Moment) (w : World) : List Moment :=
  match w.runtimes[index]? with
  | some (.simulated rig) => moments rig
  | _ => []

theorem within_of_simulated (h : w.runtimes[index]? = some (.simulated rig))
    (moments : Rig → List Moment) : w.within index moments = moments rig := by
  unfold within
  rw [h]

/-- The moments in a runtime of what is done in one that may be another. -/
def placed (index place : Nat) (moments : Rig → List Moment) (w : World) : List Moment :=
  if place = index then w.within index moments else []

/-- The objects of the runtime at a place come from others through moments. -/
def Unfolds (index : Nat) (first : Heap Object) (ms : List Moment) (w : World) : Prop :=
  w.Houses index (Simulation.Unfolds .nothing first ms)

/-- What an act keeps holds after it, however it ends. -/
theorem Abides.holds {J : World → Prop} {fine : Panic → Prop} {act : Act α} (h : Abides J fine act)
    (hw : J w) : J (act.run.run w).2 := by
  have hmeets := h w hw
  unfold Meets at hmeets
  rcases houtcome : act.run.run w with ⟨outcome, w'⟩
  rw [houtcome] at hmeets
  cases outcome with
  | ok a => exact hmeets
  | error failure => exact hmeets.2

theorem leads_of_abides {J : List Moment → World → Prop} {act : Act α}
    (h : ∀ ms, Abides (J ms) (fun _ => True) act) : Leads J act fun _ => [] :=
  Leads.quiet fun ms _ hw => (h ms).holds hw

theorem leads_inRuntime {onRig : Attempt Rig α} {onInterpreter : StateM Interpreter α}
    {moments : Rig → List Moment}
    (h : ∀ rig ms, Simulation.Unfolds .nothing first ms rig.simulation.heap →
      Simulation.Unfolds .nothing first (ms ++ moments rig) (onRig.outcome rig).2.simulation.heap) :
    Leads (Unfolds index first) (inRuntime place (Runtime.perform onRig onInterpreter))
      (placed index place moments) := by
  intro ms w hw
  refine houses_inRuntime hw (fun heq rig hrig hheap => ?_) fun hne h hheap => ?_
  · unfold placed
    rw [if_pos heq, within_of_simulated hrig]
    exact h rig ms hheap
  · unfold placed
    rw [if_neg hne, List.append_nil]
    exact hheap

/-- Whether a request is passed on to the runtime. -/
def asks (connection : Connection) : Request → Bool
  | .numericKind _ => connection.typed
  | _ => true

/-- The moments of a request through a connection. -/
def requestMoments (index : Nat) (connection : Connection) (r : Request) (w : World) : List Moment :=
  if asks connection r then w.placed index connection.runtime (Rig.moments r) else []

theorem leads_answer (connection : Connection) (r : Request) :
    Leads (Unfolds index first) (answer connection r) (requestMoments index connection r) := by
  have hasked : Leads (Unfolds index first) (inRuntime connection.runtime (Runtime.answer r))
      (placed index connection.runtime (Rig.moments r)) :=
    leads_inRuntime fun _ _ hrig => unfolds_rigAnswer r hrig
  cases r with
  | numericKind object =>
      unfold requestMoments asks answer
      cases connection.typed with
      | true => exact hasked
      | false => exact Leads.quiet fun _ _ hw => hw
  | _ => exact hasked

theorem leads_release (connection : Connection) (ref : Ref) :
    Leads (Unfolds index first) (answer connection (.release ref)) fun _ => [] :=
  Leads.quiet fun ms w hw => meets_iff_state.1
    (upholds_answer_of_steady (Simulation.steady_unfolds .nothing first ms) connection rfl w hw)

/-- The moments of a crossing of a bridge that was entered. -/
def enteredMoments (index bridge : Nat) (crossing : Context → Crossing α) (connection : Connection)
    (w : World) : List Moment :=
  match w.bridges[bridge]? with
  | some found =>
    (crossing (w.contextOf bridge found connection)).run.noted (requestMoments index connection)
      (answer connection) record w
  | none => []

theorem leads_crossEntered (bridge : Nat) (crossing : Context → Crossing α)
    (connection : Connection) : Leads (Unfolds index first) (crossEntered bridge crossing connection)
      (enteredMoments index bridge crossing connection) := by
  intro ms w hw
  unfold enteredMoments
  cases hbridge : w.bridges[bridge]? with
  | none =>
      rw [run_crossEntered_of_none hbridge, List.append_nil]
      exact hw
  | some found =>
      have hrecord : ∀ ms event w, Unfolds index first ms w →
          Unfolds index first ms ((record event).run w).2 := fun _ _ _ hw => hw
      have hprogram := (Program.leads_run (leads_answer connection) (leads_release connection)
        hrecord (crossing (w.contextOf bridge found connection)).run).outcome hw
      rw [run_crossEntered hbridge]
      rcases houtcome : (Program.run (answer connection) record
        (crossing (w.contextOf bridge found connection)).run).outcome w with ⟨outcome, w'⟩
      rw [houtcome] at hprogram
      rcases outcome with panic | result
      · exact hprogram
      · cases result with
        | ok a => exact hprogram
        | error error => exact hprogram

/-- The moments of a crossing of a bridge, which is entered first. -/
def crossMoments (index bridge : Nat) (crossing : Context → Crossing α) : World → List Moment :=
  thereafter (enter bridge) (enteredMoments index bridge crossing)

theorem leads_cross (bridge : Nat) (crossing : Context → Crossing α) :
    Leads (Unfolds index first) (cross bridge crossing) (crossMoments index bridge crossing) := by
  have henter : Leads (Unfolds index first) (enter bridge) fun _ => [] :=
    leads_of_abides fun _ => abides_enter bridge
  rw [cross_eq]
  exact henter.bind (leads_crossEntered bridge crossing)

/-!
# Steps
-/

theorem leads_direct (into : Option String) (step : DirectStep) :
    Leads (Unfolds index first) (direct place into step)
      (placed index place fun rig => Simulation.stepMoments step rig.simulation) := by
  intro ms w hw
  unfold direct
  rw [ExceptT.run_mk, run_mk]
  have hother : place ≠ index → ∀ h, Simulation.Unfolds .nothing first ms h →
      Simulation.Unfolds .nothing first
        (ms ++ placed index place (fun rig => Simulation.stepMoments step rig.simulation) w) h := by
    intro hne h hheap
    unfold placed
    rw [if_neg hne, List.append_nil]
    exact hheap
  cases hplace : w.runtimes[place]? with
  | none => exact hw.mono (hother (hw.ne fun rig hrig => by cases hplace.symm.trans hrig))
  | some runtime =>
      cases runtime with
      | interpreted interpreter =>
          have hne : place ≠ index := hw.ne fun rig hrig => by cases hplace.symm.trans hrig
          exact houses_set hw (fun heq => absurd heq hne) hother
      | simulated rig =>
          refine houses_set hw (fun heq => ?_) hother
          rcases hw with ⟨rig', hrig, hheap⟩
          rw [heq, hrig] at hplace
          cases hplace
          refine ⟨_, rfl, ?_⟩
          unfold placed
          rw [if_pos heq, within_of_simulated hrig]
          exact hheap.append (Simulation.passes_direct into step)

theorem leads_guarding {handles : List Handle} {act : Act α} {note : World → List Moment}
    (h : Leads (Unfolds index first) act note) :
    Leads (Unfolds index first) (guarding handles act) note := by
  intro ms w hw
  have hact := h ms w hw
  rw [run_guarding]
  rcases houtcome : act.run.run w with ⟨outcome, w'⟩
  rw [houtcome] at hact
  cases outcome with
  | ok a => exact hact
  | error failure =>
      have htends : Tends (Unfolds index first (ms ++ note w)) fun _ => True :=
        tends_houses (Simulation.steady_unfolds .nothing first _)
      exact (abides_dropHandles htends handles).holds hact

/-- The moments of a step in the runtime at a place. -/
def stepMoments (index : Nat) : Step → World → List Moment
  | .enter bridge form _ =>
    thereafter (evaluateEntry form) fun found => crossMoments index bridge fun ctx => ctx.serve found.1
  | .handleMembers name =>
    thereafter (handleOf name) fun h => crossMoments index h.context fun ctx => ctx.memberNames h
  | .direct place step _ => placed index place fun rig => Simulation.stepMoments step rig.simulation
  | _ => fun _ => []

theorem leads_enterStep (bridge : Nat) (form : EntryForm) (into : Option String) :
    Leads (Unfolds index first) (enterStep bridge form into)
      (stepMoments index (.enter bridge form into)) := by
  have htends : ∀ ms, Tends (Unfolds index first ms) fun _ => True :=
    fun ms => tends_houses (Simulation.steady_unfolds .nothing first ms)
  have hbind : ∀ ms (w : World) bindings, Unfolds index first ms w →
      Unfolds index first ms { w with bindings } := fun _ _ _ hw => hw
  have hevaluate : Leads (Unfolds index first) (evaluateEntry form) fun _ => [] :=
    leads_of_abides fun ms => abides_evaluateEntry (htends ms) form
  unfold enterStep
  refine hevaluate.bind fun found => ?_
  refine (leads_guarding (leads_cross bridge _)).bind_of_none fun reply =>
    leads_of_abides fun ms => ?_
  cases reply with
  | value value =>
      exact Abides.bind (abides_answerValue (htends ms) (hbind ms) value into) fun _ =>
        Abides.bind (abides_dropHandles (htends ms) found.2) fun _ => Abides.pure
  | names _ | nothing =>
      exact Abides.bind (abides_dropHandles (htends ms) found.2) fun _ => Abides.pure

theorem leads_take (step : Step) :
    Leads (Unfolds index first) (take step) (stepMoments index step) := by
  -- A step that is still keeps what held, whatever it was, and there is nothing to note of it.
  by_cases hstep : still step = true
  · have hnone : stepMoments index step = fun _ => [] := by
      cases step with
      | enter _ _ _ | handleMembers _ | direct _ _ _ => cases hstep
      | _ => rfl
    rw [hnone]
    exact leads_of_abides fun ms =>
      abides_take_of_still (Simulation.steady_unfolds .nothing first ms) hstep
  · cases step with
    | enter bridge form into => exact leads_enterStep bridge form into
    | handleMembers name =>
        have hhandle : Leads (Unfolds index first) (handleOf name) fun _ => [] :=
          leads_of_abides fun _ => abides_handleOf name
        exact hhandle.bind fun h => (leads_cross h.context _).bind_of_none fun _ =>
          Leads.quiet fun _ _ hw => hw
    | direct place step into => exact leads_direct into step
    | _ => exact absurd rfl hstep

/-!
# Sessions
-/

/-- What may be done next: a step, a script of someone who builds objects past the bridges, with any
functions, or the end of a session, at which all variables are dropped. -/
inductive Turn where
  | step (step : Step)
  | script (depth : Nat) (script : Simulation.Script)
  | finish

namespace Turn

/-- What is done in a turn.  Scripts are run in the runtime at a place. -/
def act (index : Nat) : Turn → Act Answer
  | .step next => take next
  | .script depth body => do
    return .object (← ofAttempt (inRuntime index
      (Runtime.perform (Rig.inSimulation (Simulation.run depth body)) (return none))))
  | .finish => World.finish

/-- The world after a turn, when what was logged was read. -/
def after (index : Nat) (turn : Turn) (w : World) : World :=
  { ((turn.act index).run.run w).2 with events := [] }

/-- The moments of a turn in the runtime at a place. -/
def moments (index : Nat) : Turn → World → List Moment
  | .step next => stepMoments index next
  | .script depth body =>
    placed index index fun rig => Simulation.scriptMoments depth body rig.simulation
  | .finish => fun _ => []

end Turn

theorem leads_ofAttempt {attempt : Attempt World α} {note : World → List Moment}
    (h : Leads (Unfolds index first) attempt note) :
    Leads (Unfolds index first) (ofAttempt attempt) note := by
  intro ms w hw
  have hattempt := h.outcome hw
  rw [run_ofAttempt]
  rcases houtcome : attempt.outcome w with ⟨outcome, w'⟩
  rw [houtcome] at hattempt
  cases outcome with
  | ok a => exact hattempt
  | error panic => exact hattempt

theorem leads_act (turn : Turn) :
    Leads (Unfolds index first) (turn.act index) (turn.moments index) := by
  cases turn with
  | step next => exact leads_take next
  | script depth body =>
      refine (leads_ofAttempt (leads_inRuntime fun rig ms hrig => ?_)).bind_of_none fun _ =>
        Leads.quiet fun _ _ hw => hw
      exact hrig.append (Simulation.passes_run depth body rig.simulation)
  | finish =>
      exact leads_of_abides fun ms =>
        abides_finish (tends_houses (Simulation.steady_unfolds .nothing first ms)) fun _ _ hw => hw

/-- The moment before the next turn. -/
def pause (index : Nat) : World → List Moment := within index fun rig => [⟨rig.simulation, none⟩]

/-- The moments of a session in the runtime at a place, with those before and after all turns. -/
def moments (index : Nat) : List Turn → World → List Moment
  | [], w => w.pause index
  | turn :: turns, w =>
    w.pause index ++ (turn.moments index w ++ moments index turns (turn.after index w))

theorem unfolds_pause (hw : Unfolds index first ms w) :
    Unfolds index first (ms ++ w.pause index) w := by
  rcases hw with ⟨rig, hrig, hheap⟩
  refine ⟨rig, hrig, ?_⟩
  unfold pause
  rw [within_of_simulated hrig]
  exact hheap.append ⟨Simulation.Endures.refl _, Simulation.Endures.refl _⟩

/-- A session takes the runtime at a place through its moments, by induction on the turns. -/
theorem exists_unfolds (turns : List Turn) (hw : Unfolds index first ms w) :
    ∃ last, Unfolds index first (ms ++ w.moments index turns) last := by
  induction turns generalizing w ms with
  | nil => exact ⟨w, unfolds_pause hw⟩
  | cons turn turns ih =>
      have hturn : Unfolds index first (ms ++ w.pause index ++ turn.moments index w)
          (turn.after index w) := leads_act turn _ w (unfolds_pause hw)
      rcases ih hturn with ⟨last, hlast⟩
      rw [List.append_assoc, List.append_assoc] at hlast
      exact ⟨last, hlast⟩

/-- In every session, from one moment to a later one the objects of a simulated runtime endure but for
what is written in the moments from the first one up to the other. -/
theorem endures_of_moments (hrig : w.runtimes[index]? = some (.simulated rig)) (turns : List Turn)
    {before between after : List Moment} {m m' : Moment}
    (h : w.moments index turns = before ++ m :: (between ++ m' :: after)) :
    Simulation.Endures (fun ref place new => ∃ n ∈ m :: between, n.Writes ref place new) m.state.heap
      m'.state.heap := by
  have hfirst : Unfolds index rig.simulation.heap [] w :=
    ⟨rig, hrig, Simulation.Endures.refl rig.simulation.heap⟩
  rcases exists_unfolds turns hfirst with ⟨last, rig', -, hunfolds⟩
  rw [List.nil_append, h] at hunfolds
  exact hunfolds.endures

/-!
An empty bag is made in a runtime, and an attribute of it is set past the bridges.
-/

def sampleTurns : List Turn :=
  [.step (.direct 0 (.start []) none), .script 1 (.perform (.newBag []) fun ref => .done (some ref)),
    .step (.direct 0 (.ask (.setAttr (.number 2) "a" (.number 2))) none)]

/-- The runtime after the bag was made. -/
def sampleMade : Simulation :=
  ((Simulation.perform (Simulation.run 0) (.newBag [])).outcome
    ((Simulation.start []).outcome .fresh).2).2

/-- The runtime after the attribute was set. -/
def sampleSet : Simulation :=
  ((Simulation.answer (Simulation.run 0) (.setAttr ⟨2⟩ "a" ⟨2⟩)).outcome sampleMade).2

theorem endures_of_sample :
    ∃ before between after,
      (Ledger.sampleWorld .fresh).moments 0 sampleTurns =
        before ++ ⟨sampleMade, none⟩ :: (between ++ ⟨sampleSet, none⟩ :: after) ∧
      sampleMade.heap.get? ⟨2⟩ = some (.bag .empty) ∧
      sampleSet.heap.get? ⟨2⟩ = some (.bag (Table.empty.insert "a" ⟨2⟩)) ∧
      Simulation.Endures (fun ref place new =>
        ∃ n ∈ ⟨sampleMade, none⟩ :: between, n.Writes ref place new)
        sampleMade.heap sampleSet.heap := by
  have hmoments : (Ledger.sampleWorld .fresh).moments 0 sampleTurns =
      [⟨.fresh, none⟩, ⟨((Simulation.start []).outcome .fresh).2, none⟩,
        ⟨((Simulation.start []).outcome .fresh).2, some (.newBag [])⟩] ++
      ⟨sampleMade, none⟩ :: ([⟨sampleMade, some (.request (.setAttr ⟨2⟩ "a" ⟨2⟩))⟩] ++
        ⟨sampleSet, none⟩ :: []) := rfl
  exact ⟨_, _, _, hmoments, rfl, rfl, endures_of_moments rfl sampleTurns hmoments⟩

end World
end Session
end ForeignBridge
