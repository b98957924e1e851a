import Mathlib.Tactic.Ring
import ForeignBridge.Proofs.Crossing.Ownership
import ForeignBridge.Proofs.Crossing.Service

/-!
# The books of a runtime

A runtime that writes down every request with its answer keeps the books of the bridge: each new
reference counts one for its object, each one given back counts one against it.  Whatever the
runtime answers, no object is ever overdrawn, and at the end the books show exactly the references
inside the result.
-/

namespace ForeignBridge

/-- What an exchange adds to the references on an object that the bridge owns. -/
def Exchange.change (e : Exchange) (ref : Ref) : Int :=
  ((e.request.acquired e.answer).count ref : Int) - (e.request.returned.toList.count ref : Int)

/-- The references on an object that the bridge owns after some exchanges. -/
def balance (journal : List Exchange) (ref : Ref) : Int :=
  (journal.map fun e => e.change ref).sum

variable {σ α : Type}

/-- A runtime that writes its exchanges down, the last one at the end. -/
def journaled (answer : (r : Request) → Attempt σ r.Answer) (r : Request) :
    Attempt (σ × List Exchange) r.Answer :=
  ExceptT.mk fun (s, journal) =>
    match (answer r).outcome s with
    | (.ok given, s') => (.ok given, (s', journal ++ [⟨r, given⟩]))
    | (.error panic, s') => (.error panic, (s', journal))

/-- A log beside a journal. -/
def besideJournal (record : Event → StateM σ Unit) (event : Event) :
    StateM (σ × List Exchange) Unit :=
  fun (s, journal) => ((), (((record event).run s).2, journal))

/-!
# Solvency
-/

/-- No object was ever overdrawn, and the books show the references that are held. -/
structure Solvent (held : List Ref) (journal : List Exchange) : Prop where
  covered : ∀ moment ref, 0 ≤ balance (journal.take moment) ref
  booked : ∀ ref, balance journal ref = held.count ref

theorem balance_append (journal : List Exchange) (e : Exchange) (ref : Ref) :
    balance (journal ++ [e]) ref = balance journal ref + e.change ref := by
  unfold balance
  rw [List.map_append, List.sum_append, List.map_singleton, List.sum_singleton]

theorem solvent_nil : Solvent [] [] := by
  constructor
  · intro moment ref
    rw [List.take_nil]
    exact le_refl 0
  · intro ref
    rfl

theorem count_heldAfter {held : List Ref} {r : Request} (answer : r.Answer)
    (hheld : ∀ ref ∈ r.returned, ref ∈ held) (ref : Ref) :
    ((Program.heldAfter held r answer).count ref : Int) =
      (held.count ref : Int) + Exchange.change ⟨r, answer⟩ ref := by
  unfold Program.heldAfter Exchange.change
  cases hreturned : r.returned with
  | none =>
      rw [List.count_append]
      simp only [Option.toList_none, List.count_nil]
      push_cast
      ring
  | some gone =>
      have hgone : gone ∈ held := hheld gone (by rw [hreturned]; rfl)
      have hcount : held.count ref = (gone :: held.erase gone).count ref :=
        (List.perm_cons_erase hgone).count_eq ref
      rw [List.count_append, hcount, List.count_cons]
      simp only [Option.toList_some, List.count_singleton]
      push_cast
      ring

theorem Solvent.exchange {held : List Ref} {journal : List Exchange} (h : Solvent held journal)
    (r : Request) (answer : r.Answer) (hheld : ∀ ref ∈ r.returned, ref ∈ held) :
    Solvent (Program.heldAfter held r answer) (journal ++ [⟨r, answer⟩]) := by
  have hbooked : ∀ ref, balance (journal ++ [⟨r, answer⟩]) ref =
      (Program.heldAfter held r answer).count ref := by
    intro ref
    rw [balance_append, h.booked ref, count_heldAfter answer hheld ref]
  constructor
  · intro moment ref
    rcases Nat.lt_or_ge journal.length moment with hlater | hearlier
    · rw [List.take_of_length_le (by rw [List.length_append]; exact hlater), hbooked ref]
      exact Int.natCast_nonneg _
    · rw [List.take_append_of_le_length hearlier]
      exact h.covered moment ref
  · exact hbooked

/-!
# Runs
-/

variable (answer : (r : Request) → Attempt σ r.Answer) (record : Event → StateM σ Unit)

theorem next_heldAfter {held : List Ref} {r : Request} (given : r.Answer)
    (hheld : ∀ ref ∈ r.returned, ref ∈ held) :
    ownership.next held r given (Program.heldAfter held r given : List Ref) := by
  show (r.returned.toList : Multiset Ref) + (Program.heldAfter held r given : List Ref) =
    (r.acquired given : Multiset Ref) + held
  unfold Program.heldAfter
  cases hreturned : r.returned with
  | none =>
      rw [Option.toList_none, Multiset.coe_nil, zero_add, ← Multiset.coe_add]
  | some gone =>
      have hgone : gone ∈ held := hheld gone (by rw [hreturned]; rfl)
      have hback : (([gone] : List Ref) : Multiset Ref) + (held.erase gone : List Ref) = held :=
        Multiset.coe_eq_coe.2 (List.perm_cons_erase hgone).symm
      rw [Option.toList_some, ← Multiset.coe_add, add_left_comm, hback]

theorem outcome_journaled (r : Request) (s : σ) (journal : List Exchange) :
    (journaled answer r).outcome (s, journal) =
      match (answer r).outcome s with
      | (.ok given, s') => (.ok given, (s', journal ++ [⟨r, given⟩]))
      | (.error panic, s') => (.error panic, (s', journal)) := rfl

theorem runHolding_solvent (s : σ) {post : α → Multiset Ref → Prop} {p : Program α}
    {held : List Ref} {journal : List Exchange} (hp : p.Follows ownership post held)
    (hsolvent : Solvent held journal) :
    match (p.runHolding (journaled answer) (besideJournal record) held).run (s, journal) with
    | ((outcome, held'), (_, journal')) =>
      Solvent held' journal' ∧ ∀ a, outcome = .ok a → post a held' := by
  induction p generalizing held s journal with
  | done result =>
      refine ⟨hsolvent, ?_⟩
      intro a ha
      cases ha
      exact hp
  | abort panic =>
      refine ⟨hsolvent, ?_⟩
      intro a ha
      cases ha
  | ask r next ih =>
      rw [Program.runHolding_ask, outcome_journaled]
      rcases (answer r).outcome s with ⟨outcome, s'⟩
      cases outcome with
      | ok given =>
          have hheld : ∀ ref ∈ r.returned, ref ∈ held := fun ref href => hp.1 ref href
          have hnext := next_heldAfter given hheld
          exact ih given s' (hp.2 given _ hnext) (hsolvent.exchange r given hheld)
      | error panic =>
          refine ⟨hsolvent, ?_⟩
          intro a ha
          cases ha
  | note event next ih => exact ih ((record event).run s).2 hp hsolvent

theorem unwind_solvent (held : List Ref) {s : σ} {journal : List Exchange}
    (hsolvent : Solvent held journal) :
    ∃ held', Solvent held' (((Program.unwind (journaled answer) held).run (s, journal)).2).2 := by
  induction held generalizing s journal with
  | nil => exact ⟨[], hsolvent⟩
  | cons ref rest ih =>
      rw [Program.unwind_cons, outcome_journaled]
      rcases (answer (.release ref)).outcome s with ⟨outcome, s'⟩
      cases outcome with
      | ok given =>
          have hrest : Program.heldAfter (ref :: rest) (.release ref) given = rest := by
            show [] ++ (ref :: rest).erase ref = rest
            rw [List.nil_append, List.erase_cons_head]
          have hafter := hsolvent.exchange (.release ref) given fun other hother => by
            rw [← Option.some.inj hother]
            exact List.mem_cons_self
          rw [hrest] at hafter
          exact ih hafter
      | error panic => exact ⟨ref :: rest, hsolvent⟩

theorem run_solvent (s : σ) {post : α → Multiset Ref → Prop} {p : Program α}
    (hp : p.Follows ownership post 0) :
    match (p.run (journaled answer) (besideJournal record)).outcome (s, []) with
    | (outcome, (_, journal)) =>
      ∃ held : List Ref, Solvent held journal ∧ ∀ a, outcome = .ok a → post a held := by
  have hholding := runHolding_solvent answer record s hp solvent_nil
  rw [Program.outcome_run]
  rcases hrun : (p.runHolding (journaled answer) (besideJournal record) []).run (s, []) with
    ⟨⟨outcome, held⟩, s', journal⟩
  rw [hrun] at hholding
  rcases hholding with ⟨hsolvent, hpost⟩
  cases outcome with
  | ok a => exact ⟨held, hsolvent, hpost⟩
  | error panic =>
      rcases unwind_solvent answer held hsolvent with ⟨held', hunwound⟩
      refine ⟨held', hunwound, ?_⟩
      intro a ha
      cases ha

/-- Whatever a runtime answers to a request of the host, no object is overdrawn at any moment.
When the request returns, the books show the references inside its reply, and none after an
error. -/
theorem balance_serve (ctx : Context) (entry : Entry) (answer : (r : Request) → Attempt σ r.Answer)
    (record : Event → StateM σ Unit) (s : σ) :
    match ((ctx.serve entry).run.run (journaled answer) (besideJournal record)).outcome (s, []) with
    | (outcome, (_, journal)) =>
      (∀ moment ref, 0 ≤ balance (journal.take moment) ref) ∧
      match outcome with
      | .ok (.ok reply) => ∀ ref, balance journal ref = reply.refs.count ref
      | .ok (.error _) => ∀ ref, balance journal ref = 0
      | .error _ => True := by
  have hfollows := (ctx.tidy_serve entry).owns 0
  have hbooks := run_solvent answer record s hfollows
  rcases hrun : ((ctx.serve entry).run.run (journaled answer) (besideJournal record)).outcome (s, [])
    with ⟨outcome, s', journal⟩
  rw [hrun] at hbooks
  rcases hbooks with ⟨held, hsolvent, hpost⟩
  refine ⟨hsolvent.covered, ?_⟩
  cases outcome with
  | error panic => trivial
  | ok result =>
      cases result with
      | ok reply =>
          intro ref
          have hheld : (held : Multiset Ref) = (reply.refs : Multiset Ref) + 0 := hpost _ rfl
          rw [add_zero] at hheld
          rw [hsolvent.booked ref, (Multiset.coe_eq_coe.1 hheld).count_eq ref]
      | error error =>
          intro ref
          have hheld : (held : Multiset Ref) = 0 := hpost _ rfl
          rw [hsolvent.booked ref, (Multiset.coe_eq_zero held).1 hheld]
          rfl

end ForeignBridge
