import Mathlib.Data.List.Induction
import ForeignBridge.Proofs.Crossing.Service
import ForeignBridge.Proofs.Crossing.Vigilance

/-!
# Failures are reported

A runtime under watch may answer as it likes and raise an error during any request that allows it.
What it does is written down.  Whatever a request of the host meets, it leaves no error behind, does
nothing more in the runtime after a mishap, succeeds only without one, and tells the host of a
foreign failure only if that is the first mishap, with the diagnostic that the runtime gave for it.
-/

namespace ForeignBridge

variable {σ : Type} {prefixes : List String}

/-- The state of a runtime under watch: whether an error is pending, and what happened so far. -/
structure Watched (σ : Type) where
  inner : σ
  pending : Bool
  journal : List Occurrence

/-- A runtime that behaves as it likes, which says for each request what it answers and whether it
raises an error.  Its error is pending until it is fetched. -/
def watched (behave : (r : Request) → Attempt σ (r.Answer × Bool)) (r : Request) :
    Attempt (Watched σ) r.Answer :=
  ExceptT.mk fun w =>
    match (behave r).outcome w.inner with
    | (.ok (given, raises), s') =>
      let answer := r.reported w.pending given
      let raised := raises && r.mayRaise
      (.ok answer,
        ⟨s', r.pendingAfter (w.pending || raised), w.journal ++ [⟨⟨r, answer⟩, raised⟩]⟩)
    | (.error panic, s') => (.error panic, { w with inner := s' })

/-- A log beside a watch. -/
def besideWatch (record : Event → StateM σ Unit) (event : Event) : StateM (Watched σ) Unit :=
  fun w => ((), { w with inner := ((record event).run w.inner).2 })

/-- Nothing is made or changed in a runtime after a mishap. -/
def Orderly (prefixes : List String) (journal : List Occurrence) : Prop :=
  ∀ before o after, journal = before ++ o :: after → o.mishap prefixes = true →
    ∀ later ∈ after, later.request.active = false

/-- The diagnostics fetched in the course of some occurrences. -/
def diagnostics (journal : List Occurrence) : List (Option Diagnostic) :=
  journal.flatMap fun o => o.request.fetched o.answer

/-- A message is about the first mishap, as a part of an operation.  It gives the diagnostic that
was fetched afterwards, if an error was raised, and none otherwise. -/
def Reports (prefixes : List String) (journal : List Occurrence) (operation : Operation)
    (message : String) : Prop :=
  ∃ before o after, journal = before ++ o :: after ∧
    (∀ earlier ∈ before, earlier.mishap prefixes = false) ∧ o.mishap prefixes = true ∧
    operation ∈ o.request.operations ∧ (diagnostics after).length = o.raised.toNat ∧
    message = Context.failureText (diagnostics after).head?.join

/-!
# The conduct in a journal
-/

/-- The conduct of a conversation that was written down. -/
def conduct (prefixes : List String) (journal : List Occurrence) : Conduct :=
  journal.foldl (Conduct.after prefixes) .calm

theorem conduct_append (journal : List Occurrence) (o : Occurrence) :
    conduct prefixes (journal ++ [o]) = (conduct prefixes journal).after prefixes o := by
  unfold conduct
  rw [List.foldl_append]
  rfl

theorem mishap_conduct (journal : List Occurrence) :
    (conduct prefixes journal).mishap = journal.find? fun o => o.mishap prefixes := by
  induction journal using List.reverseRecOn with
  | nil => rfl
  | append_singleton journal o ih =>
      have hlast : [o].find? (fun o => o.mishap prefixes) =
          if o.mishap prefixes then some o else none := by
        cases h : o.mishap prefixes with
        | true => simp [h]
        | false => simp [h]
      rw [conduct_append, List.find?_append, ← ih, hlast]
      rfl

theorem fetched_foldl (after : List Occurrence) {g : Conduct} (hg : g.mishap.isSome = true) :
    (after.foldl (Conduct.after prefixes) g).fetched = g.fetched ++ diagnostics after := by
  induction after generalizing g with
  | nil => exact (List.append_nil _).symm
  | cons o after ih =>
      have hmishap : (g.after prefixes o).mishap.isSome = true := by
        simp [Conduct.after, hg]
      have hfetched : (g.after prefixes o).fetched = g.fetched ++ o.request.fetched o.answer := by
        simp [Conduct.after, hg]
      rw [List.foldl_cons, ih hmishap, hfetched, List.append_assoc]
      rfl

theorem fetched_conduct_calm {before : List Occurrence}
    (h : ∀ earlier ∈ before, earlier.mishap prefixes = false) :
    conduct prefixes before = ⟨(conduct prefixes before).pending, none, []⟩ := by
  induction before using List.reverseRecOn with
  | nil => rfl
  | append_singleton before o ih =>
      have hbefore := ih fun earlier hearlier => h earlier (List.mem_append_left _ hearlier)
      have ho : o.mishap prefixes = false := h o (by simp)
      rw [conduct_append, hbefore]
      simp [Conduct.after, ho]

theorem reports_of_settled {journal : List Occurrence} {operation : Operation} {message : String}
    (h : Conduct.Settled (.foreignRuntime operation message) (conduct prefixes journal)) :
    Reports prefixes journal operation message := by
  rcases h.reported operation message rfl with ⟨o, hmishap, hoperation, hlength, hmessage⟩
  rw [mishap_conduct, List.find?_eq_some_iff_append] at hmishap
  rcases hmishap with ⟨ho, before, after, hjournal, hbefore⟩
  have hcalm : ∀ earlier ∈ before, earlier.mishap prefixes = false := by
    intro earlier hearlier
    simpa using hbefore earlier hearlier
  have hfetched : (conduct prefixes journal).fetched = diagnostics after := by
    have hstart : ((conduct prefixes before).after prefixes o).mishap.isSome = true := by
      rw [fetched_conduct_calm hcalm]
      simp [Conduct.after, ho]
    have hnone : ((conduct prefixes before).after prefixes o).fetched = [] := by
      rw [fetched_conduct_calm hcalm]
      rfl
    rw [hjournal]
    unfold conduct at hstart hnone ⊢
    rw [List.foldl_append, List.foldl_cons, fetched_foldl after hstart, hnone, List.nil_append]
  rw [hfetched] at hlength hmessage
  exact ⟨before, o, after, hjournal, hcalm, ho, hoperation, hlength, hmessage⟩

/-!
# Keeping watch
-/

theorem orderly_append {journal : List Occurrence} {o : Occurrence} (h : Orderly prefixes journal)
    (ho : o.request.active = true → (conduct prefixes journal).mishap = none) :
    Orderly prefixes (journal ++ [o]) := by
  intro before first after heq hfirst later hlater
  rcases List.eq_nil_or_concat after with hnil | ⟨rest, last, hafter⟩
  · rw [hnil] at hlater
    cases hlater
  · rw [hafter, List.concat_eq_append, ← List.cons_append, ← List.append_assoc] at heq
    have hjournal : journal = before ++ first :: rest := (List.append_inj' heq rfl).1
    have hlast : o = last := by simpa using (List.append_inj' heq rfl).2
    rw [hafter, List.concat_eq_append, List.mem_append, List.mem_singleton] at hlater
    rcases hlater with hrest | hlater
    · exact h before first rest hjournal hfirst later hrest
    · rw [hlater, ← hlast]
      cases hactive : o.request.active with
      | false => rfl
      | true =>
          have hnone := ho hactive
          rw [mishap_conduct, List.find?_eq_none] at hnone
          exact absurd hfirst (hnone first (by rw [hjournal]; simp))

theorem reported_reported (r : Request) (pending : Bool) (answer : r.Answer) :
    r.reported pending (r.reported pending answer) = r.reported pending answer := by
  cases r with
  | _ => rfl

/-- What is known of a runtime under watch at a moment of the conversation. -/
structure Attends (prefixes : List String) (g : Conduct) (w : Watched σ) : Prop where
  conducted : g = conduct prefixes w.journal
  pending : g.pending = w.pending
  orderly : Orderly prefixes w.journal

theorem watched_keeps (behave : (r : Request) → Attempt σ (r.Answer × Bool)) :
    (vigilance prefixes).KeptBy (watched behave) (Attends prefixes)
      fun w => Orderly prefixes w.journal := by
  have houtcome : ∀ (r : Request) (w : Watched σ),
      (watched behave r).outcome w =
        match (behave r).outcome w.inner with
        | (.ok (given, raises), s') =>
          (.ok (r.reported w.pending given),
            ⟨s', r.pendingAfter (w.pending || (raises && r.mayRaise)),
              w.journal ++ [⟨⟨r, r.reported w.pending given⟩, raises && r.mayRaise⟩]⟩)
        | (.error panic, s') => (.error panic, { w with inner := s' }) := fun _ _ => rfl
  constructor
  · intro g w r hinv hallows
    rw [houtcome]
    rcases (behave r).outcome w.inner with ⟨outcome, s'⟩
    cases outcome with
    | error panic => exact ⟨trivial, hinv.orderly⟩
    | ok given =>
        rcases given with ⟨given, raises⟩
        refine ⟨g.after prefixes ⟨⟨r, r.reported w.pending given⟩, raises && r.mayRaise⟩,
          ⟨raises && r.mayRaise, ?_, ?_, rfl⟩, ?_⟩
        · intro hraised
          exact (Bool.and_eq_true_iff.1 hraised).2
        · rw [hinv.pending]
          exact reported_reported r w.pending given
        · constructor
          · rw [conduct_append, ← hinv.conducted]
          · show r.pendingAfter _ = r.pendingAfter _
            rw [hinv.pending]
          · apply orderly_append hinv.orderly
            rw [← hinv.conducted]
            exact hallows
  · intro g w hinv
    exact hinv.orderly
  · intro w ref hbroken
    rw [houtcome]
    rcases (behave (.release ref)).outcome w.inner with ⟨outcome, s'⟩
    cases outcome with
    | error panic => exact hbroken
    | ok given =>
        rcases given with ⟨given, raises⟩
        apply orderly_append hbroken
        intro hactive
        cases hactive

/-- Whatever a runtime does during a request of the host, nothing is made or changed there after
the first mishap.  When the request returns, no error is pending; it succeeds only if there was no
mishap, and a foreign failure that it ends with is the first one. -/
theorem reporting_serve (ctx : Context) (entry : Entry)
    (behave : (r : Request) → Attempt σ (r.Answer × Bool)) (record : Event → StateM σ Unit)
    (s : σ) :
    match ((ctx.serve entry).run.run (watched behave) (besideWatch record)).outcome
      ⟨s, false, []⟩ with
    | (outcome, w) =>
      Orderly entry.longerPrefixes w.journal ∧
      match outcome with
      | .ok (.ok _) =>
        w.pending = false ∧ ∀ o ∈ w.journal, o.mishap entry.longerPrefixes = false
      | .ok (.error error) =>
        w.pending = false ∧ ∀ operation message, error = .foreignRuntime operation message →
          Reports entry.longerPrefixes w.journal operation message
      | .error _ => True := by
  have hfollows := (ctx.tidy_serve entry).vigilant
  have hstart : Attends entry.longerPrefixes .calm (⟨s, false, []⟩ : Watched σ) := by
    constructor
    · rfl
    · rfl
    · intro before o after h
      cases before with
      | nil => cases h
      | cons _ _ => cases h
  have hrun := Program.run_follows (watched_keeps behave)
    (fun event g w (hinv : Attends entry.longerPrefixes g w) =>
      (⟨hinv.conducted, hinv.pending, hinv.orderly⟩ :
        Attends entry.longerPrefixes g ((besideWatch record event).run w).2))
    hfollows hstart
  rcases houtcome : ((ctx.serve entry).run.run (watched behave) (besideWatch record)).outcome
    ⟨s, false, []⟩ with ⟨outcome, w⟩
  rw [houtcome] at hrun
  cases outcome with
  | error panic => exact ⟨hrun.2, trivial⟩
  | ok result =>
      rcases hrun with ⟨g, hpost, hinv⟩
      refine ⟨hinv.orderly, ?_⟩
      cases result with
      | ok reply =>
          have hcalm : g = .calm := hpost
          have hnone : (conduct entry.longerPrefixes w.journal).mishap = none := by
            rw [← hinv.conducted, hcalm]
            rfl
          rw [mishap_conduct, List.find?_eq_none] at hnone
          constructor
          · rw [← hinv.pending, hcalm]
            rfl
          · intro o ho
            simpa using hnone o ho
      | error error =>
          have hsettled : Conduct.Settled error g := hpost
          constructor
          · rw [← hinv.pending]
            exact hsettled.cleared
          · intro operation message herror
            rw [herror, hinv.conducted] at hsettled
            exact reports_of_settled hsettled

end ForeignBridge
