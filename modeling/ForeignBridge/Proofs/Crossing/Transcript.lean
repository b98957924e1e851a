import ForeignBridge.Proofs.Crossing.Balance

/-!
# Transcripts

All that a runtime is asked while a program runs, also what it panics at.  Writing it down makes no
difference to the run.
-/

namespace ForeignBridge

/-- A request with its answer, which is missing after a panic. -/
structure Asked where
  request : Request
  answer : Option request.Answer

namespace Asked

def exchange? (asked : Asked) : Option Exchange := asked.answer.map fun answer => ⟨asked.request, answer⟩

/-- The references on an object that the bridge owns after all that was asked. -/
def owned (transcript : List Asked) (ref : Ref) : Int := balance (transcript.filterMap exchange?) ref

theorem owned_answered (transcript : List Asked) (r : Request) (answer : r.Answer) (ref : Ref) :
    owned (transcript ++ [⟨r, some answer⟩]) ref =
      owned transcript ref + (Exchange.mk r answer).change ref := by
  unfold owned
  rw [List.filterMap_append]
  exact balance_append _ _ ref

theorem owned_unanswered (transcript : List Asked) (r : Request) (ref : Ref) :
    owned (transcript ++ [⟨r, none⟩]) ref = owned transcript ref := by
  unfold owned
  rw [List.filterMap_append]
  exact congrArg (balance · ref) (List.append_nil _)

end Asked

variable {σ τ α : Type}

/-- A runtime of which all is written down that it is asked. -/
def transcribed (answer : (r : Request) → Attempt σ r.Answer) (r : Request) :
    Attempt (σ × List Asked) r.Answer :=
  ExceptT.mk fun (s, transcript) =>
    match (answer r).outcome s with
    | (.ok given, s') => (.ok given, (s', transcript ++ [⟨r, some given⟩]))
    | (.error panic, s') => (.error panic, (s', transcript ++ [⟨r, none⟩]))

/-- A log beside something else. -/
def beside (record : Event → StateM σ Unit) (event : Event) : StateM (σ × τ) Unit :=
  fun (s, t) => ((), (((record event).run s).2, t))

variable (answer : (r : Request) → Attempt σ r.Answer) (record : Event → StateM σ Unit)

theorem outcome_transcribed (r : Request) (s : σ) (transcript : List Asked) :
    (transcribed answer r).outcome (s, transcript) =
      match (answer r).outcome s with
      | (.ok given, s') => (.ok given, (s', transcript ++ [⟨r, some given⟩]))
      | (.error panic, s') => (.error panic, (s', transcript ++ [⟨r, none⟩])) := rfl

theorem runHolding_transcribed (p : Program α) (held : List Ref) (s : σ) (transcript : List Asked) :
    ∃ transcript', (p.runHolding (transcribed answer) (beside record) held).run (s, transcript) =
      (((p.runHolding answer record held).run s).1,
        (((p.runHolding answer record held).run s).2, transcript')) := by
  induction p generalizing held s transcript with
  | done result => exact ⟨transcript, rfl⟩
  | abort panic => exact ⟨transcript, rfl⟩
  | ask r next ih =>
      rw [Program.runHolding_ask, Program.runHolding_ask, outcome_transcribed]
      rcases (answer r).outcome s with ⟨outcome, s'⟩
      cases outcome with
      | ok given => exact ih given _ s' _
      | error panic => exact ⟨_, rfl⟩
  | note event next ih => exact ih held ((record event).run s).2 transcript

theorem unwind_transcribed (held : List Ref) (s : σ) (transcript : List Asked) :
    ∃ transcript', (Program.unwind (transcribed answer) held).run (s, transcript) =
      ((), (((Program.unwind answer held).run s).2, transcript')) := by
  induction held generalizing s transcript with
  | nil => exact ⟨transcript, rfl⟩
  | cons ref rest ih =>
      rw [Program.unwind_cons, Program.unwind_cons, outcome_transcribed]
      rcases (answer (.release ref)).outcome s with ⟨outcome, s'⟩
      cases outcome with
      | ok given => exact ih s' _
      | error panic => exact ⟨_, rfl⟩

/-- Writing a run down makes no difference to it. -/
theorem run_transcribed (p : Program α) (s : σ) :
    ∃ transcript, (p.run (transcribed answer) (beside record)).outcome (s, []) =
      (((p.run answer record).outcome s).1, (((p.run answer record).outcome s).2, transcript)) := by
  rcases runHolding_transcribed answer record p [] s [] with ⟨transcript, hholding⟩
  rw [Program.outcome_run, Program.outcome_run, hholding]
  rcases (p.runHolding answer record []).run s with ⟨⟨outcome, held⟩, s'⟩
  cases outcome with
  | ok a => exact ⟨transcript, rfl⟩
  | error panic =>
      rcases unwind_transcribed answer held s' transcript with ⟨unwound, hunwind⟩
      refine ⟨unwound, ?_⟩
      dsimp only
      rw [hunwind]

/-- All that is asked in a run. -/
def Program.transcript (p : Program α) (s : σ) : List Asked :=
  ((p.run (transcribed answer) (beside record)).outcome (s, [])).2.2

theorem outcome_run_transcribed (p : Program α) (s : σ) :
    (p.run (transcribed answer) (beside record)).outcome (s, []) =
      (((p.run answer record).outcome s).1,
        (((p.run answer record).outcome s).2, p.transcript answer record s)) := by
  rcases run_transcribed answer record p s with ⟨transcript, hrun⟩
  unfold Program.transcript
  rw [hrun]

end ForeignBridge
