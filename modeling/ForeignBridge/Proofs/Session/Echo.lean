import ForeignBridge.Proofs.Crossing.Echo
import ForeignBridge.Proofs.Session.Apart

/-!
# Echoes of requests

What a bridge logs as errors does not depend on where it does its work.  It needs a runtime, which may
behave as it likes as long as it leaves the log of the bridge alone, a gate for it, and the log.  Given
these, each request of the host that fails in the runtime is echoed once, and nothing else is.  The
start of the runtime is not echoed, although its failure is a foreign one too.

Worlds have all this, and so has any runtime with a gate and a log beside it.
-/

namespace ForeignBridge
namespace Session

/-- What the host can ask of a bridge, apart from what can be told without a runtime. -/
inductive Call where
  | init
  | exit
  | serve (entry : Entry)
  /-- A handle is asked for its members. -/
  | members (h : Handle)

/-- Where a bridge does its work: the runtime, the gate and the log that it uses are parts of one
state. -/
structure Site (σ : Type) where
  context : Context
  phase : σ → Phase
  setPhase : Phase → σ → σ
  log : σ → List Event
  record : Event → StateM σ Unit
  start : List String → Attempt σ (Bool × List String)
  stop : Attempt σ Unit
  answer : (r : Request) → Attempt σ r.Answer
  log_setPhase : ∀ phase s, log (setPhase phase s) = log s
  log_record : ∀ event s, log ((record event).run s).2 = event :: log s
  log_start : ∀ paths s, log ((start paths).outcome s).2 = log s
  log_stop : ∀ s, log (stop.outcome s).2 = log s
  log_answer : ∀ r s, log ((answer r).outcome s).2 = log s

namespace Site

variable {σ α β : Type} (site : Site σ)

/-- A panic is a failure of what the host asked for. -/
def attempting (attempt : Attempt σ α) : ExceptT Failure (StateM σ) α := ExceptT.mk do
  match ← attempt.run with
  | .ok result => return .ok result
  | .error panic => return .error (.panic panic)

def note (event : Event) : ExceptT Failure (StateM σ) Unit := ExceptT.lift (site.record event)

/-- Starts the runtime, unless that is done already. -/
def enter : ExceptT Failure (StateM σ) Unit := do
  let s ← get
  let name := site.context.runtime
  let paths := site.context.settings.searchPaths
  match site.phase s with
  | .started => return ()
  | .finished => throw (.panic (.usedAfterShutdown name))
  | .idle =>
    let (running, refused) ← attempting (site.start paths)
    refused.forM fun path => site.note (.pathNotAdded path)
    if running then
      modify (site.setPhase .started)
      site.note (.started name paths)
    else throw (.bridge (.foreignRuntime .start s!"{name} runtime failed to start"))

/-- Stops the runtime if it was started. -/
def leave : ExceptT Failure (StateM σ) Unit := do
  let s ← get
  if site.phase s = .started then
    attempting site.stop
    modify (site.setPhase .finished)
    site.note (.stopped site.context.runtime)

def run (crossing : Crossing α) : ExceptT Failure (StateM σ) α := do
  match ← attempting (Program.run site.answer site.record crossing.run) with
  | .ok result => return result
  | .error error => throw (.bridge error)

def call : Call → ExceptT Failure (StateM σ) Reply
  | .init => do
    site.enter
    return .nothing
  | .exit => do
    site.leave
    return .nothing
  | .serve entry => do
    site.enter
    site.run (site.context.serve entry)
  | .members h => do
    site.enter
    return .names (← site.run (site.context.memberNames h))

end Site

/-!
# What is logged
-/

/-- The errors that were logged are the echo of a failure.  If it is a panic, another failure may have
been on its way. -/
def Echoed {α : Type} (debug : Bool) (runtime : String) (logged : List Event) :
    Except Failure α → Prop
  | .ok _ | .error (.numeric _) | .error (.malformed _) => logged = []
  | .error (.bridge e) => logged = e.echo debug runtime
  | .error (.panic _) => ∃ e : BridgeError, logged = e.echo debug runtime

namespace Site

variable {σ α β : Type} (site : Site σ)

theorem run_attempting (attempt : Attempt σ α) (s : σ) :
    (attempting attempt).run.run s =
      match attempt.outcome s with
      | (.ok a, s') => (.ok a, s')
      | (.error panic, s') => (.error (.panic panic), s') := by
  unfold attempting Attempt.outcome
  rw [ExceptT.run_mk, StateT.run_bind]
  rcases attempt.run.run s with ⟨outcome, s'⟩
  cases outcome with
  | ok a => rfl
  | error panic => rfl

theorem run_run (crossing : Crossing α) (s : σ) :
    (site.run crossing).run.run s =
      match (Program.run site.answer site.record crossing.run).outcome s with
      | (.ok (.ok a), s') => (.ok a, s')
      | (.ok (.error e), s') => (.error (.bridge e), s')
      | (.error panic, s') => (.error (.panic panic), s') := by
  unfold Site.run
  rw [ExceptT.run_bind, StateT.run_bind, run_attempting]
  rcases (Program.run site.answer site.record crossing.run).outcome s with ⟨outcome, s'⟩
  rcases outcome with panic | result
  · rfl
  · cases result with
    | ok a => rfl
    | error e => rfl

/-- An act logs the echo of its failure, and no other errors. -/
def Echoes (act : ExceptT Failure (StateM σ) α) : Prop :=
  ∀ s, ∃ now, site.log (act.run.run s).2 = now ++ site.log s ∧
    Echoed site.context.settings.debug site.context.runtime (alarms now) (act.run.run s).1

namespace Echoes

variable {site}

theorem pure {a : α} : site.Echoes (pure a) := fun _ => ⟨[], rfl, rfl⟩

theorem throw {failure : Failure}
    (h : Echoed site.context.settings.debug site.context.runtime []
      (.error failure : Except Failure α)) :
    site.Echoes (throw failure : ExceptT Failure (StateM σ) α) := fun _ => ⟨[], rfl, h⟩

theorem get_bind {f : σ → ExceptT Failure (StateM σ) α} (h : ∀ s, site.Echoes (f s)) :
    site.Echoes (get >>= f) := fun s => h s s

theorem bind {act : ExceptT Failure (StateM σ) α} {f : α → ExceptT Failure (StateM σ) β}
    (h : site.Echoes act) (hf : ∀ a, site.Echoes (f a)) : site.Echoes (act >>= f) := by
  intro s
  rcases h s with ⟨first, hfirst, hechoed⟩
  rw [ExceptT.run_bind, StateT.run_bind]
  rcases hrun : act.run.run s with ⟨outcome, s'⟩
  rw [hrun] at hfirst hechoed
  cases outcome with
  | error failure =>
      refine ⟨first, hfirst, ?_⟩
      cases failure with
      | bridge _ | numeric _ | panic _ | malformed _ => exact hechoed
  | ok a =>
      rcases hf a s' with ⟨rest, hrest, hrestEchoed⟩
      have hnone : alarms first = [] := hechoed
      refine ⟨rest ++ first, ?_, ?_⟩
      · rw [List.append_assoc, ← hfirst]
        exact hrest
      · rw [alarms_append, hnone, List.append_nil]
        exact hrestEchoed

theorem modify {f : σ → σ} (h : ∀ s, site.log (f s) = site.log s) : site.Echoes (modify f) :=
  fun s => ⟨[], h s, rfl⟩

theorem note {event : Event} (h : (event.severity != .error) = true) :
    site.Echoes (site.note event) := by
  intro s
  have hnone : alarms [event] = [] := by
    unfold alarms
    simpa using h
  exact ⟨[event], site.log_record event s, hnone⟩

theorem attempting {attempt : Attempt σ α} (h : ∀ s, site.log (attempt.outcome s).2 = site.log s) :
    site.Echoes (Site.attempting attempt) := by
  intro s
  have hsame := h s
  rw [run_attempting]
  rcases houtcome : attempt.outcome s with ⟨outcome, s'⟩
  rw [houtcome] at hsame
  cases outcome with
  | ok a => exact ⟨[], hsame, rfl⟩
  | error panic => exact ⟨[], hsame, .notAvailable "", rfl⟩

/-- A crossing that echoes its failure does so where the bridge does its work. -/
theorem run {crossing : Crossing α} (h : site.context.Echoes crossing) :
    site.Echoes (site.run crossing) := by
  intro s
  have hlogs := Program.run_logs site.log_answer site.log_record h s
  rw [run_run]
  rcases houtcome : (Program.run site.answer site.record crossing.run).outcome s with ⟨outcome, s'⟩
  rw [houtcome] at hlogs
  rcases outcome with panic | result
  · exact hlogs
  · cases result with
    | ok a => exact hlogs
    | error e => exact hlogs

end Echoes

theorem echoes_enter : site.Echoes site.enter := by
  unfold enter
  apply Echoes.get_bind
  intro s
  dsimp only
  cases site.phase s with
  | started => exact Echoes.pure
  | finished => exact Echoes.throw ⟨.notAvailable "", rfl⟩
  | idle =>
      apply Echoes.bind (Echoes.attempting (site.log_start _))
      rintro ⟨running, refused⟩
      have hrefused : site.Echoes (refused.forM fun path => site.note (.pathNotAdded path)) := by
        induction refused with
        | nil => exact Echoes.pure
        | cons path rest ih => exact Echoes.bind (Echoes.note rfl) fun _ => ih
      apply Echoes.bind hrefused
      intro _
      cases running with
      | true => exact Echoes.bind (Echoes.modify (site.log_setPhase _)) fun _ => Echoes.note rfl
      | false =>
          -- The failure is a foreign one, but the operation is the start.
          exact Echoes.throw (if_neg fun h => h.2 rfl).symm

theorem echoes_leave : site.Echoes site.leave := by
  unfold leave
  apply Echoes.get_bind
  intro s
  split
  · apply Echoes.bind (Echoes.attempting site.log_stop)
    intro _
    exact Echoes.bind (Echoes.modify (site.log_setPhase _)) fun _ => Echoes.note rfl
  · exact Echoes.pure

theorem echoes_call (call : Call) : site.Echoes (site.call call) := by
  cases call with
  | init => exact Echoes.bind site.echoes_enter fun _ => Echoes.pure
  | exit => exact Echoes.bind site.echoes_leave fun _ => Echoes.pure
  | serve entry =>
      exact Echoes.bind site.echoes_enter fun _ => Echoes.run (site.context.echoes_serve entry)
  | members h =>
      apply Echoes.bind site.echoes_enter
      intro _
      exact Echoes.bind (Echoes.run (site.context.echoes_memberNames h)) fun _ => Echoes.pure

end Site

/-!
# Any runtime
-/

/-- A runtime that behaves as it likes.  When it is started it says whether it runs and which paths it
could not add. -/
structure Driver (σ : Type) where
  name : String
  start : List String → Attempt σ (Bool × List String)
  stop : Attempt σ Unit
  answer : (r : Request) → Attempt σ r.Answer

/-- A runtime with a gate and a log. -/
structure Seat (σ : Type) where
  inner : σ
  phase : Phase
  /-- The last event first. -/
  events : List Event

def Seat.around {σ α : Type} (attempt : Attempt σ α) : Attempt (Seat σ) α :=
  attempt.within Seat.inner fun inner seat => { seat with inner }

/-- A bridge over any runtime. -/
def Driver.site {σ : Type} (driver : Driver σ) (id : Nat) (settings : Settings) (nesting : Nat) :
    Site (Seat σ) where
  context := ⟨id, driver.name, settings, nesting⟩
  phase := Seat.phase
  setPhase phase seat := { seat with phase }
  log := Seat.events
  record event := modify fun seat => { seat with events := event :: seat.events }
  start paths := Seat.around (driver.start paths)
  stop := Seat.around driver.stop
  answer r := Seat.around (driver.answer r)
  log_setPhase _ _ := rfl
  log_record _ _ := rfl
  log_start _ _ := rfl
  log_stop _ := rfl
  log_answer _ _ := rfl

/-!
# Worlds
-/

/-- What the host asks of a bridge of a world. -/
def Call.act (index : Nat) : Call → Act Reply
  | init => do
    let _ ← World.enter index
    return .nothing
  | exit => do
    World.leave index
    return .nothing
  | serve entry => World.cross index fun ctx => ctx.serve entry
  | members h => do return .names (← World.cross index fun ctx => ctx.memberNames h)

namespace World

variable {α : Type} {w : World} {index : Nat} {bridge : Bridge} {connection : Connection}

theorem events_inRuntime (index : Nat) (attempt : Attempt Runtime α) (w : World) :
    ((inRuntime index attempt).outcome w).2.events = w.events := by
  cases hruntime : w.runtimes[index]? with
  | none => rw [outcome_inRuntime_none hruntime]
  | some runtime => rw [outcome_inRuntime hruntime]

theorem events_answer (connection : Connection) (r : Request) (w : World) :
    ((answer connection r).outcome w).2.events = w.events := by
  cases r with
  | numericKind object =>
      unfold answer
      split
      · exact events_inRuntime _ _ w
      · rfl
  | _ => exact events_inRuntime _ _ w

/-- A bridge of a world over its runtime. -/
def site (w : World) (index : Nat) (bridge : Bridge) (connection : Connection) : Site World where
  context := w.contextOf index bridge connection
  phase := phaseOf connection.lifecycle
  setPhase phase w :=
    { w with
      phases := (connection.lifecycle, phase) :: w.phases.filter (·.1 != connection.lifecycle) }
  log := World.events
  record := record
  start paths := inRuntime connection.runtime (Runtime.start paths)
  stop := inRuntime connection.runtime Runtime.stop
  answer := answer connection
  log_setPhase _ _ := rfl
  log_record _ _ := rfl
  log_start _ := events_inRuntime _ _
  log_stop := events_inRuntime _ _
  log_answer := events_answer connection

/-- Whether a bridge sees the same of two worlds, apart from what is in the runtime. -/
def SameSite (w : World) (index : Nat) (connection : Connection) (w' : World) : Prop :=
  w'.bridges = w.bridges ∧
    ∀ bridge, w'.contextOf index bridge connection = w.contextOf index bridge connection

theorem name_outcome_perform (onRig : Attempt Rig α) (onInterpreter : StateM Interpreter α)
    (runtime : Runtime) :
    ((Runtime.perform onRig onInterpreter).outcome runtime).2.name = runtime.name := by
  cases runtime with
  | simulated rig => rfl
  | interpreted interpreter => rfl

theorem sameSite_inRuntime {onRig : Attempt Rig α} {onInterpreter : StateM Interpreter α} :
    (inRuntime connection.runtime (Runtime.perform onRig onInterpreter)).Upholds
      (w.SameSite index connection) fun _ => True := by
  intro now hnow
  have hafter : w.SameSite index connection
      ((inRuntime connection.runtime (Runtime.perform onRig onInterpreter)).outcome now).2 := by
    cases hruntime : now.runtimes[connection.runtime]? with
    | none =>
        rw [outcome_inRuntime_none hruntime]
        exact hnow
    | some runtime =>
        rw [outcome_inRuntime hruntime]
        refine ⟨hnow.1, fun bridge => ?_⟩
        rw [← hnow.2 bridge]
        have hlt := (Array.getElem?_eq_some_iff.1 hruntime).1
        unfold contextOf runtimeName
        rw [Array.getElem?_setIfInBounds_self_of_lt hlt, hruntime, Option.map_some, Option.map_some,
          name_outcome_perform]
  unfold Attempt.Meets
  rcases houtcome : (inRuntime connection.runtime (Runtime.perform onRig onInterpreter)).outcome now
    with ⟨outcome, w'⟩
  rw [houtcome] at hafter
  cases outcome with
  | ok a => exact hafter
  | error panic => exact ⟨trivial, hafter⟩

theorem sameSite_of_ensure {paths : List String} {w' : World}
    (h : (ensure connection.lifecycle connection.runtime paths).run.run w = (.ok (), w')) :
    w.SameSite index connection w' := by
  have habides : Abides (w.SameSite index connection) (fun _ => True)
      (ensure connection.lifecycle connection.runtime paths) :=
    abides_ensure_of_start (fun _ _ h => h) (fun _ _ h => h) (fun _ => trivial)
      (fun _ => sameSite_inRuntime) _ _
  have hmeets := habides w ⟨rfl, fun _ => rfl⟩
  unfold Meets at hmeets
  rw [h] at hmeets
  exact hmeets

/-- The start of a runtime through a lifecycle is the one of the site. -/
theorem run_ensure_site (w : World) (index : Nat) (bridge : Bridge) (connection : Connection) :
    (ensure connection.lifecycle connection.runtime bridge.settings.searchPaths).run.run w =
      (w.site index bridge connection).enter.run.run w := by
  have hphase : (w.site index bridge connection).phase w = w.phaseOf connection.lifecycle := rfl
  have hstart : (w.site index bridge connection).start bridge.settings.searchPaths =
      inRuntime connection.runtime (Runtime.start bridge.settings.searchPaths) := rfl
  have hpaths : (w.site index bridge connection).context.settings.searchPaths =
      bridge.settings.searchPaths := rfl
  unfold ensure Site.enter
  rw [run_get_bind, run_get_bind, hphase]
  cases w.phaseOf connection.lifecycle with
  | started => rfl
  | finished => rfl
  | idle =>
      dsimp only
      rw [run_bind, run_bind, run_ofAttempt, Site.run_attempting, hpaths, hstart]
      rcases (inRuntime connection.runtime (Runtime.start bridge.settings.searchPaths)).outcome w with
        ⟨outcome, w'⟩
      cases outcome with
      | error panic => rfl
      | ok given => rfl

section Connected

variable (hconnected : w.Connected index bridge connection)

include hconnected

theorem run_enter_site : (enter index).run.run w =
    ((w.site index bridge connection).enter >>= fun _ => pure connection).run.run w := by
  rw [run_enter hconnected, run_bind, run_ensure_site w index]
  rcases (w.site index bridge connection).enter.run.run w with ⟨outcome, w'⟩
  cases outcome with
  | ok _ => rfl
  | error failure => rfl

theorem run_leave_site :
    (leave index).run.run w = (w.site index bridge connection).leave.run.run w := by
  rw [run_leave hconnected]
  rfl

/-- A crossing of a connected bridge is one over its runtime. -/
theorem run_cross_site (crossing : Context → Crossing α) :
    (cross index crossing).run.run w =
      ((w.site index bridge connection).enter >>= fun _ =>
        (w.site index bridge connection).run
          (crossing (w.contextOf index bridge connection))).run.run w := by
  rw [run_cross hconnected, run_bind, run_bind, ← run_ensure_site]
  rcases hensured : (ensure connection.lifecycle connection.runtime
    bridge.settings.searchPaths).run.run w with ⟨outcome, w'⟩
  cases outcome with
  | error failure => rfl
  | ok _ =>
      have hsame : w.SameSite index connection w' := sameSite_of_ensure hensured
      have hbridge : w'.bridges[index]? = some bridge := by
        rw [hsame.1]
        exact hconnected.1
      have hprogram : Program.run (w.site index bridge connection).answer
          (w.site index bridge connection).record (crossing (w.contextOf index bridge connection)).run =
          Program.run (answer connection) record
            (crossing (w.contextOf index bridge connection)).run := rfl
      dsimp only
      rw [run_crossEntered hbridge, hsame.2 bridge, Site.run_run, hprogram]
      rcases (Program.run (answer connection) record
        (crossing (w.contextOf index bridge connection)).run).outcome w' with ⟨result, w''⟩
      rcases result with panic | result
      · rfl
      · cases result with
        | ok a => rfl
        | error e => rfl

/-- What the host asks of a connected bridge is asked over its runtime. -/
theorem run_act (call : Call) :
    (call.act index).run.run w = ((w.site index bridge connection).call call).run.run w := by
  cases call with
  | init =>
      unfold Call.act Site.call
      rw [run_bind, run_enter_site hconnected, ← run_bind, bind_assoc]
      rfl
  | exit =>
      unfold Call.act Site.call
      rw [run_bind, run_bind, run_leave_site hconnected]
  | serve entry =>
      unfold Call.act Site.call
      exact run_cross_site hconnected fun ctx => ctx.serve entry
  | members h =>
      unfold Call.act Site.call
      rw [run_bind, run_cross_site hconnected fun ctx => ctx.memberNames h, ← run_bind, bind_assoc]
      rfl

end Connected

/-- What the host asks of a bridge without a runtime is not logged. -/
theorem events_act_of_unconnected (h : ∀ bridge connection, ¬ w.Connected index bridge connection)
    (call : Call) : ((call.act index).run.run w).2.events = w.events := by
  rcases run_enter_of_unconnected h with ⟨failure, henter, -⟩
  have hcross : ∀ {β : Type} (crossing : Context → Crossing β),
      (cross index crossing).run.run w = (.error failure, w) := by
    intro β crossing
    rw [cross_eq, run_bind, henter]
  cases call with
  | init =>
      unfold Call.act
      rw [run_bind, henter]
  | exit =>
      rcases run_leave_of_unconnected h with ⟨outcome, hleave, -⟩
      unfold Call.act
      rw [run_bind, hleave]
      cases outcome with
      | ok _ => rfl
      | error failure => rfl
  | serve entry =>
      unfold Call.act
      rw [hcross]
  | members handle =>
      unfold Call.act
      rw [run_bind, hcross]

end World

/-!
# Echoes
-/

/-- What a call logged, given how it ended. -/
structure EchoedOnce {α : Type} (debug : Bool) (runtime : String) (logged : List Event)
    (outcome : Except Failure α) : Prop where
  /-- A foreign failure of which the host is told, except for that of the start, is the only error in
  the log. -/
  once : ∀ operation message, debug = true → operation.text ≠ "initialize" →
    outcome = .error (.bridge (.foreignRuntime operation message)) →
      alarms logged = [.foreignError runtime operation message]
  /-- If the call came back in another way, there is no error in the log. -/
  none : (∀ panic, outcome ≠ .error (.panic panic)) →
    (∀ operation message, outcome = .error (.bridge (.foreignRuntime operation message)) →
      operation.text = "initialize") → alarms logged = []
  silent : debug = false → alarms logged = []
  /-- A panic can break off a call that has logged an error already. -/
  atMostOnce : (alarms logged).length ≤ 1

theorem Echoed.exists_echo {α : Type} {debug : Bool} {runtime : String} {logged : List Event}
    {outcome : Except Failure α} (h : Echoed debug runtime logged outcome) :
    ∃ e : BridgeError, logged = e.echo debug runtime := by
  cases outcome with
  | ok a => exact ⟨.notAvailable "", h⟩
  | error failure =>
      cases failure with
      | numeric _ | malformed _ => exact ⟨.notAvailable "", h⟩
      | panic panic => exact h
      | bridge e => exact ⟨e, h⟩

theorem Echoed.once {α : Type} {debug : Bool} {runtime : String} {logged : List Event}
    {outcome : Except Failure α} (h : Echoed debug runtime (alarms logged) outcome) :
    EchoedOnce debug runtime logged outcome where
  once := by
    rintro operation message rfl hoperation rfl
    exact h.trans (if_pos ⟨rfl, hoperation⟩)
  none := by
    intro hreturned hother
    cases outcome with
    | ok a => exact h
    | error failure =>
        cases failure with
        | numeric _ | malformed _ => exact h
        | panic panic => exact absurd rfl (hreturned panic)
        | bridge e =>
            cases e with
            | foreignRuntime operation message =>
                exact h.trans (if_neg fun hecho => hecho.2 (hother operation message rfl))
            | typeConversion _ | overflow _ _ | unsupported _ | notAvailable _ => exact h
  silent := by
    rintro rfl
    rcases h.exists_echo with ⟨e, hlogged⟩
    rw [hlogged, e.echo_of_silent]
  atMostOnce := by
    rcases h.exists_echo with ⟨e, hlogged⟩
    rw [hlogged]
    exact e.length_echo_le

/-- What the host asks is echoed wherever the bridge does its work. -/
structure Call.EchoesOnce (call : Call) : Prop where
  /-- Over a runtime that behaves as it likes, at any time. -/
  anyRuntime : ∀ {σ : Type} (driver : Driver σ) (id : Nat) (settings : Settings) (nesting : Nat)
    (seat : Seat σ), ∃ now,
      (((driver.site id settings nesting).call call).run.run seat).2.events = now ++ seat.events ∧
        EchoedOnce settings.debug driver.name now
          (((driver.site id settings nesting).call call).run.run seat).1
  /-- In a world, by any bridge that has a runtime. -/
  connected : ∀ {w : World} {index : Nat} {bridge : Bridge} {connection : Connection},
    w.Connected index bridge connection → ∃ now,
      ((call.act index).run.run w).2.events = now ++ w.events ∧
        EchoedOnce bridge.settings.debug (w.runtimeName connection.runtime) now
          ((call.act index).run.run w).1
  /-- A bridge without a runtime logs nothing. -/
  unconnected : ∀ {w : World} {index : Nat},
    (∀ bridge connection, ¬ w.Connected index bridge connection) →
      ((call.act index).run.run w).2.events = w.events

/-- Whatever the runtime does, a call of the host logs one error if it fails in the runtime, and none
if it does not. -/
theorem Call.echoesOnce (call : Call) : call.EchoesOnce where
  anyRuntime := by
    intro σ driver id settings nesting seat
    rcases (driver.site id settings nesting).echoes_call call seat with ⟨now, hlog, hechoed⟩
    exact ⟨now, hlog, hechoed.once⟩
  connected := by
    intro w index bridge connection hconnected
    rcases (w.site index bridge connection).echoes_call call w with ⟨now, hlog, hechoed⟩
    rw [World.run_act hconnected]
    exact ⟨now, hlog, hechoed.once⟩
  unconnected := fun h => World.events_act_of_unconnected h call

/-!
A name of two segments is tried as a module twice, and only the second failure is told and echoed.
-/

example :
    alarms (((Call.serve (.getField (.name "a.b") "c")).act 0).run.run
      { Ledger.sampleWorld .fresh with
        bridges := #[⟨some ⟨0, .process, true⟩, { debug := true }⟩] }).2.events =
      [.foreignError "sim" .importModule "ModuleNotFoundError: No module named 'a'"] := by
  decide +kernel

end Session
end ForeignBridge
