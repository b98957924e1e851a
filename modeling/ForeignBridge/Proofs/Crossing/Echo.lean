import ForeignBridge.Proofs.Crossing.Service

/-!
# Echoes of failures

If the settings ask for it, a foreign failure is not only told to the host but also logged as an
error.  That is done at the check of an answer, deep inside of loops and conversions, and from there the
failure has to get out of everything around it: were it tried again, replaced or forgotten on the way,
something would be logged that the host is not told, or logged twice.

So for a tidy crossing the errors in the log are given by how it ends.  They are the echo of its
failure, which is a single event for a foreign one and nothing for any other.
-/

namespace ForeignBridge

/-- The errors among logged events. -/
def alarms (events : List Event) : List Event := events.filter (·.severity == .error)

theorem alarms_append (events rest : List Event) :
    alarms (events ++ rest) = alarms events ++ alarms rest :=
  List.filter_append events rest

/-- What is logged of a failure as an error.  A runtime that does not start has no echo. -/
def BridgeError.echo (debug : Bool) (runtime : String) : BridgeError → List Event
  | .foreignRuntime operation message =>
    if debug = true ∧ operation.text ≠ "initialize" then
      [.foreignError runtime operation message]
    else []
  | _ => []

namespace BridgeError

variable {debug : Bool} {runtime : String}

theorem echo_of_not_foreign {e : BridgeError}
    (h : ∀ operation message, e ≠ .foreignRuntime operation message) :
    e.echo debug runtime = [] := by
  cases e with
  | foreignRuntime operation message => exact absurd rfl (h operation message)
  | typeConversion _ | overflow _ _ | unsupported _ | notAvailable _ => rfl

theorem echo_of_silent (e : BridgeError) : e.echo false runtime = [] := by
  cases e with
  | foreignRuntime operation message =>
      unfold echo
      exact if_neg fun h => Bool.false_ne_true h.1
  | typeConversion _ | overflow _ _ | unsupported _ | notAvailable _ => rfl

theorem length_echo_le (e : BridgeError) : (e.echo debug runtime).length ≤ 1 := by
  cases e with
  | foreignRuntime operation message =>
      unfold echo
      dsimp only
      split
      · exact Nat.le_refl 1
      · exact Nat.zero_le 1
  | typeConversion _ | overflow _ _ | unsupported _ | notAvailable _ => exact Nat.zero_le 1

end BridgeError

/-- No check of an answer is named like the start of a runtime. -/
theorem Request.text_ne_of_mem_operations {r : Request} {operation : Operation}
    (h : operation ∈ r.operations) : operation.text ≠ "initialize" := by
  cases r <;> simp only [Request.operations, List.mem_cons, List.not_mem_nil, or_false] at h
  case numericKind object => rcases h with rfl | rfl <;> decide
  all_goals subst h; decide

/-!
# What programs log
-/

namespace Program

variable {α β σ : Type}

/-- Whatever a program is answered, the errors that were logged are as wanted in the end, and also if
the program is broken off on the way.  Those that were logged before are given. -/
def Logs (post : α → List Event → Prop) (broken : List Event → Prop) :
    Program α → List Event → Prop
  | done result, past => post result past
  | abort _, past => broken past
  | ask _ next, past => broken past ∧ ∀ answer, Logs post broken (next answer) past
  | note event next, past => Logs post broken next (alarms [event] ++ past)

variable {post : β → List Event → Prop} {broken : List Event → Prop}

theorem logs_bind {p : Program α} {f : α → Program β} {past : List Event} :
    (p.bind f).Logs post broken past ↔
      p.Logs (fun a now => (f a).Logs post broken now) broken past := by
  induction p generalizing past with
  | done result => exact Iff.rfl
  | abort panic => exact Iff.rfl
  | ask r next ih =>
      constructor
      · intro h
        exact ⟨h.1, fun answer => (ih answer).1 (h.2 answer)⟩
      · intro h
        exact ⟨h.1, fun answer => (ih answer).2 (h.2 answer)⟩
  | note event next ih => exact ih

theorem logs_mono {post post' : α → List Event → Prop} (himp : ∀ a now, post a now → post' a now)
    {p : Program α} {past : List Event} (h : p.Logs post broken past) :
    p.Logs post' broken past := by
  induction p generalizing past with
  | done result => exact himp result past h
  | abort panic => exact h
  | ask r next ih => exact ⟨h.1, fun answer => ih answer (h.2 answer)⟩
  | note event next ih => exact ih h

/-- Nothing is logged when references are given back. -/
theorem logs_releaseAll {post : Unit → List Event → Prop} (refs : List Ref) {past : List Event}
    (hbroken : broken past) (h : post () past) : (releaseAll refs).Logs post broken past := by
  induction refs with
  | nil => exact h
  | cons ref rest ih => exact ⟨hbroken, fun _ => ih⟩

section Runs

variable {answer : (r : Request) → Attempt σ r.Answer} {record : Event → StateM σ Unit}
  {log : σ → List Event} {post : α → List Event → Prop} {before : List Event}

theorem runHolding_logs (hanswer : ∀ r s, log ((answer r).outcome s).2 = log s)
    (hrecord : ∀ event s, log ((record event).run s).2 = event :: log s) {p : Program α}
    {added : List Event} {s : σ} (held : List Ref) (hp : p.Logs post broken (alarms added))
    (hlog : log s = added ++ before) :
    match (p.runHolding answer record held).run s with
    | ((.ok a, _), s') => ∃ now, log s' = now ++ before ∧ post a (alarms now)
    | ((.error _, _), s') => ∃ now, log s' = now ++ before ∧ broken (alarms now) := by
  induction p generalizing added s held with
  | done result => exact ⟨added, hlog, hp⟩
  | abort panic => exact ⟨added, hlog, hp⟩
  | ask r next ih =>
      have hsame := hanswer r s
      rw [runHolding_ask]
      rcases houtcome : (answer r).outcome s with ⟨outcome, s'⟩
      rw [houtcome, hlog] at hsame
      cases outcome with
      | ok given => exact ih given (heldAfter held r given) (hp.2 given) hsame
      | error panic => exact ⟨added, hsame, hp.1⟩
  | note event next ih =>
      have hnoted : log ((record event).run s).2 = ([event] ++ added) ++ before := by
        rw [hrecord, hlog]
        rfl
      refine ih held ?_ hnoted
      rw [alarms_append]
      exact hp

theorem log_unwind (hanswer : ∀ r s, log ((answer r).outcome s).2 = log s) (held : List Ref) (s : σ) :
    log ((unwind answer held).run s).2 = log s := by
  induction held generalizing s with
  | nil => rfl
  | cons ref rest ih =>
      have hsame := hanswer (.release ref) s
      rw [unwind_cons]
      rcases houtcome : (answer (.release ref)).outcome s with ⟨outcome, s'⟩
      rw [houtcome] at hsame
      cases outcome with
      | ok given => exact (ih s').trans hsame
      | error panic => exact hsame

/-- If answers leave a log alone, then what a run adds to it is what the program logs. -/
theorem run_logs (hanswer : ∀ r s, log ((answer r).outcome s).2 = log s)
    (hrecord : ∀ event s, log ((record event).run s).2 = event :: log s) {p : Program α}
    (hp : p.Logs post broken []) (s : σ) :
    match (p.run answer record).outcome s with
    | (.ok a, s') => ∃ now, log s' = now ++ log s ∧ post a (alarms now)
    | (.error _, s') => ∃ now, log s' = now ++ log s ∧ broken (alarms now) := by
  have hstart : log s = [] ++ log s := (List.nil_append (log s)).symm
  have hholding := runHolding_logs hanswer hrecord [] hp hstart
  rw [outcome_run]
  rcases houtcome : (p.runHolding answer record []).run s with ⟨⟨outcome, held⟩, s'⟩
  rw [houtcome] at hholding
  cases outcome with
  | ok a => exact hholding
  | error panic =>
      rcases hholding with ⟨now, hlog, hbroken⟩
      exact ⟨now, (log_unwind hanswer held s').trans hlog, hbroken⟩

end Runs
end Program

/-!
# What crossings log
-/

namespace Context

variable {α β : Type} (ctx : Context)

/-- What is logged as errors of a crossing that ends in some way. -/
def echo : Except BridgeError α → List Event
  | .ok _ => []
  | .error e => e.echo ctx.settings.debug ctx.runtime

/-- What was logged is the echo of some failure, or nothing. -/
def MayEcho (logged : List Event) : Prop :=
  ∃ e : BridgeError, logged = e.echo ctx.settings.debug ctx.runtime

theorem mayEcho_nil : ctx.MayEcho [] := ⟨.notAvailable "", rfl⟩

theorem mayEcho_echo (outcome : Except BridgeError α) : ctx.MayEcho (ctx.echo outcome) := by
  cases outcome with
  | ok a => exact ctx.mayEcho_nil
  | error e => exact ⟨e, rfl⟩

/-- The errors that a crossing logs are the echo of how it ends.  If it is broken off, the failure
may have been on its way. -/
def Echoes (c : Crossing α) : Prop :=
  c.run.Logs (fun outcome logged => logged = ctx.echo outcome) ctx.MayEcho []

namespace Echoes

variable {ctx}

theorem pure {a : α} : ctx.Echoes (pure a) := rfl

theorem throw {e : BridgeError} (h : ∀ operation message, e ≠ .foreignRuntime operation message) :
    ctx.Echoes (throw e : Crossing α) :=
  (BridgeError.echo_of_not_foreign h).symm

theorem abort (panic : Panic) : ctx.Echoes (Crossing.abort panic : Crossing α) := ctx.mayEcho_nil

theorem note {event : Event} (h : (event.severity != .error) = true) :
    ctx.Echoes (Crossing.note event) := by
  have hnone : alarms [event] = [] := by
    unfold alarms
    simpa using h
  show alarms [event] ++ [] = []
  rw [hnone]
  rfl

theorem ask (r : Request) : ctx.Echoes (Crossing.ask r) := ⟨ctx.mayEcho_nil, fun _ => rfl⟩

/-- A failure in the first part is not followed by anything. -/
theorem bind {c : Crossing α} {f : α → Crossing β} (hc : ctx.Echoes c)
    (hf : ∀ a, ctx.Echoes (f a)) : ctx.Echoes (c >>= f) := by
  unfold Echoes
  rw [Crossing.run_bind, Program.logs_bind]
  refine Program.logs_mono (fun outcome logged hlogged => ?_) hc
  cases outcome with
  | ok a =>
      rw [hlogged]
      exact hf a
  | error e => exact hlogged

theorem releaseAll (refs : List Ref) : ctx.Echoes (Crossing.releaseAll refs) :=
  Program.logs_bind.2 (Program.logs_releaseAll refs ctx.mayEcho_nil rfl)

theorem owningAll (refs : List Ref) {body : Crossing α} (h : ctx.Echoes body) :
    ctx.Echoes (Crossing.owningAll refs body) := by
  unfold Echoes
  rw [Crossing.run_owningAll, Program.logs_bind]
  refine Program.logs_mono (fun outcome logged hlogged => ?_) h
  rw [hlogged, Program.logs_bind]
  exact Program.logs_releaseAll refs (ctx.mayEcho_echo outcome) rfl

theorem keeping (refs : List Ref) {body : Crossing α} (h : ctx.Echoes body) :
    ctx.Echoes (Crossing.keeping refs body) := by
  unfold Echoes
  rw [Crossing.run_keeping, Program.logs_bind]
  refine Program.logs_mono (fun outcome logged hlogged => ?_) h
  cases outcome with
  | ok a => exact hlogged
  | error e =>
      rw [hlogged, Program.logs_bind]
      exact Program.logs_releaseAll refs (ctx.mayEcho_echo _) rfl

/-- The one place at which errors are logged. -/
theorem fail {operation : Operation} (h : operation.text ≠ "initialize")
    (diagnostic : Option Diagnostic) : ctx.Echoes (ctx.fail operation diagnostic : Crossing α) := by
  unfold Context.fail
  cases hdebug : ctx.settings.debug with
  | false =>
      show [] = (BridgeError.foreignRuntime operation (failureText diagnostic)).echo _ _
      rw [hdebug, BridgeError.echo_of_silent]
  | true =>
      show [Event.foreignError ctx.runtime operation (failureText diagnostic)] =
        (BridgeError.foreignRuntime operation (failureText diagnostic)).echo _ _
      rw [hdebug]
      exact (if_pos ⟨rfl, h⟩).symm

theorem checkRef {operation : Operation} (h : operation.text ≠ "initialize") (answer : Option Ref) :
    ctx.Echoes (ctx.checkRef operation answer) := by
  unfold Context.checkRef
  apply bind (ask _)
  rintro (_ | _)
  · cases answer with
    | some ref => exact pure
    | none => exact fail h none
  · apply bind (ask _)
    intro diagnostic
    exact bind (releaseAll _) fun _ => fail h diagnostic

theorem checkValue {operation : Operation} (h : operation.text ≠ "initialize") (answer : Option α) :
    ctx.Echoes (ctx.checkValue operation answer) := by
  unfold Context.checkValue
  apply bind (ask _)
  rintro (_ | _)
  · cases answer with
    | some value => exact pure
    | none => exact fail h none
  · exact bind (ask _) fun diagnostic => fail h diagnostic

/-- An error that is fetched without a check is not logged. -/
theorem clearError : ctx.Echoes Context.clearError := by
  unfold Context.clearError
  apply bind (ask _)
  rintro (_ | _)
  · exact pure
  · exact ask _

theorem wrap (object : Ref) : ctx.Echoes (ctx.wrap object) := by
  unfold Context.wrap
  apply bind (ask _)
  intro name
  exact bind clearError fun _ => pure

theorem tryImport (name : String) : ctx.Echoes (Context.tryImport name) := by
  unfold Context.tryImport
  apply bind (ask _)
  intro found
  apply bind clearError
  rintro (_ | diagnostic)
  · exact pure
  · apply bind (releaseAll _)
    intro _
    exact bind (note rfl) fun _ => pure

theorem integerToHost (object : Ref) : ctx.Echoes (ctx.integerToHost object) := by
  unfold Context.integerToHost
  apply bind (ask _)
  intro hint
  apply bind (ask _)
  intro value
  have hfailed : ctx.Echoes (extractionFailed value) := by
    cases value with
    | none => exact ask _
    | some n => exact pure
  apply bind hfailed
  rintro (_ | _)
  · apply bind (checkValue (by decide) value)
    intro n
    cases HostInt.ofInt ((hint.filter NumericKind.isInteger).getD .int64) n with
    | ok i => exact pure
    | error fault => exact throw (ofNumeric_ne_foreignRuntime fault)
  · exact bind (ask _) fun _ => throw nofun

theorem floatToHost (object : Ref) : ctx.Echoes (ctx.floatToHost object) := by
  unfold Context.floatToHost
  apply bind (ask _)
  intro hint
  apply bind (ask _)
  intro x
  apply bind (checkValue (by decide) (some x))
  intro x
  cases HostFloat.ofDouble ((hint.filter NumericKind.isFloat).getD .double) x with
  | ok i => exact pure
  | error fault => exact throw (ofNumeric_ne_foreignRuntime fault)

theorem textToHost (object : Ref) : ctx.Echoes (ctx.textToHost object) := by
  unfold Context.textToHost
  apply bind (ask _)
  rintro (_ | bytes)
  · exact bind clearError fun _ => throw nofun
  · apply bind (checkValue (by decide) (some bytes))
    intro bytes
    cases Utf8.decode bytes with
    | ok text => exact pure
    | error fault => exact throw nofun

end Echoes
end Context

/-- Whatever a tidy crossing is put together from, it echoes its failure. -/
theorem Crossing.Tidy.echoes {ctx : Context} {writes : Bool} {prefixes : List String} {α : Type}
    {before : Multiset Ref} {c : Crossing α} {after : α → Multiset Ref}
    (h : Tidy ctx writes prefixes before c after) : ctx.Echoes c := by
  induction h with
  | pure _ => exact Context.Echoes.pure
  | throw h => exact Context.Echoes.throw h
  | abort => exact Context.Echoes.abort _
  | note h => exact Context.Echoes.note h
  | look _ | null | retain => exact Context.Echoes.ask _
  | checkedRef hoperation _ _ _ =>
      apply Context.Echoes.bind (Context.Echoes.ask _)
      intro answer
      exact Context.Echoes.checkRef (Request.text_ne_of_mem_operations hoperation) _
  | checkedValue _ hoperation _ _ _ =>
      apply Context.Echoes.bind (Context.Echoes.ask _)
      intro answer
      exact Context.Echoes.checkValue (Request.text_ne_of_mem_operations hoperation) _
  | wrap => exact Context.Echoes.wrap _
  | tryImport _ => exact Context.Echoes.tryImport _
  | integerToHost => exact Context.Echoes.integerToHost _
  | floatToHost => exact Context.Echoes.floatToHost _
  | textToHost => exact Context.Echoes.textToHost _
  | bind _ _ ihc ihf => exact Context.Echoes.bind ihc ihf
  | releaseAll => exact Context.Echoes.releaseAll _
  | owningAll refs _ ih => exact Context.Echoes.owningAll refs ih
  | keeping refs _ ih => exact Context.Echoes.keeping refs ih
  | of_eq _ _ _ ih => exact ih

namespace Context

variable (ctx : Context)

theorem echoes_serve (entry : Entry) : ctx.Echoes (ctx.serve entry) := (ctx.tidy_serve entry).echoes

theorem echoes_memberNames (h : Handle) : ctx.Echoes (ctx.memberNames h) := by
  have htidy : Crossing.Tidy ctx false [] 0 (ctx.memberNames h) fun _ => 0 := ctx.tidy_memberNames h
  exact htidy.echoes

end Context
end ForeignBridge
