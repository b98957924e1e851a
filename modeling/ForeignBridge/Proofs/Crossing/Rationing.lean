import ForeignBridge.Proofs.Crossing.Custodian
import ForeignBridge.Proofs.Crossing.Operands
import ForeignBridge.Proofs.Crossing.Transcript

/-!
# Operands that are refused

Calls, writes and lookups take operands that the host gave.  If a handle of another bridge is inside
an operand, however deep, the operand is refused before the request that it is for, and so is all that
was to come after it.
-/

namespace ForeignBridge

/-- A handle of another bridge is among some handles. -/
def strange (bridge : Nat) (handles : List Handle) : Bool := handles.any fun h => h.context != bridge

/-- How many links with operands come before the first one with a handle of another bridge inside. -/
def operandsBefore? (bridge : Nat) : List Accessor → Option Nat
  | [] => none
  | link :: links =>
    if strange bridge link.handles then some 0
    else (operandsBefore? bridge links).map (link.hasOperands.toNat + ·)

/-- How many links with operands come before the first operand with a handle of another bridge
inside. -/
def Entry.strangeAfter? (bridge : Nat) : Entry → Option Nat
  | .construct _ _ arguments | .invoke _ _ arguments =>
    if strange bridge (Value.handlesAll arguments) then some 0 else none
  | .setField _ _ value => if strange bridge value.handles then some 0 else none
  | .read _ chain => operandsBefore? bridge chain
  | .assign _ chain value =>
    (operandsBefore? bridge chain).or
      (if strange bridge value.handles then some (chain.dropLast.countP Accessor.hasOperands)
        else none)
  | .importModule _ | .getField _ _ | .members _ => none

theorem operandsBefore?_concat (bridge : Nat) (links : List Accessor) (last : Accessor) :
    operandsBefore? bridge (links ++ [last]) =
      (operandsBefore? bridge links).or
        (if strange bridge last.handles then some (links.countP Accessor.hasOperands) else none) := by
  induction links with
  | nil =>
      show (if strange bridge last.handles then some 0 else none) = _
      rw [List.countP_nil]
      rfl
  | cons link links ih =>
      rw [List.cons_append, operandsBefore?, operandsBefore?]
      split
      · rfl
      · rw [ih, Option.map_or, List.countP_cons]
        refine congrArg (Option.or _) ?_
        split
        · rw [Option.map_some]
          cases link.hasOperands with
          | true => rw [Nat.add_comm]; rfl
          | false => rw [Nat.add_comm]; rfl
        · rfl

variable {α β : Type}

namespace Crossing

/-- A crossing takes operands at most a number of times, and has no result. -/
def Refused (count : Nat) (c : Crossing α) : Prop :=
  ∀ m, count ≤ m → c.Follows rationing (fun _ _ => False) (fun _ _ => True) m

namespace Refused

variable {count : Nat}

theorem mono {count' : Nat} {c : Crossing α} (h : Refused count c) (hle : count ≤ count') :
    Refused count' c := fun m hm => h m (Nat.le_trans hle hm)

theorem throw {e : BridgeError} : Refused count (throw e : Crossing α) := fun _ _ => trivial

theorem bind {c : Crossing α} {f : α → Crossing β} (hc : Refused count c) :
    Refused count (c >>= f) := by
  intro m hm
  rw [follows_bind]
  exact follows_mono (fun _ _ h => h.elim) (fun _ _ h => h) (hc m hm)

theorem after {count' : Nat} {c : Crossing α} {f : α → Crossing β} (hc : Spends count' c)
    (hf : ∀ a, Refused count (f a)) : Refused (count' + count) (c >>= f) := by
  intro m hm
  rw [follows_bind]
  refine follows_mono (fun a n hn => hf a n hn) (fun _ _ h => h) (hc count m ?_)
  omega

/-- What follows a crossing that takes no operands. -/
theorem next {c : Crossing α} {f : α → Crossing β} (hc : Spends 0 c)
    (hf : ∀ a, Refused count (f a)) : Refused count (c >>= f) :=
  (after hc hf).mono (Nat.le_of_eq (Nat.zero_add count))

theorem owningAll {refs : List Ref} {body : Crossing α} (hbody : Refused count body) :
    Refused count (owningAll refs body) := by
  intro m hm
  rw [follows_owningAll]
  exact follows_mono (fun _ _ h => h.elim) (fun _ _ _ => follows_rationed trivial) (hbody m hm)

theorem keeping {refs : List Ref} {body : Crossing α} (hbody : Refused count body) :
    Refused count (keeping refs body) := by
  intro m hm
  rw [follows_keeping]
  exact follows_mono (fun _ _ h => h) (fun _ _ _ => follows_rationed trivial) (hbody m hm)

end Refused
end Crossing

namespace Context

open Crossing

variable (ctx : Context)

/-!
# Refused operands
-/

theorem strange_append {bridge : Nat} {first rest : List Handle} :
    strange bridge (first ++ rest) = (strange bridge first || strange bridge rest) :=
  List.any_append

mutual

theorem refused_toForeign (v : Value) (hstrange : strange ctx.id v.handles = true) :
    Refused 0 (ctx.toForeign v) := by
  cases v with
  | cell items =>
      unfold toForeign
      cases htexts : allTexts? items with
      | some texts =>
          -- A list of texts has no handle inside.
          have hnone : Value.handlesAll items = [] := by
            rw [eq_of_allTexts? htexts, Value.handlesAll_eq_flatMap, List.flatMap_map]
            exact List.flatMap_eq_nil_iff.2 fun _ _ => rfl
          rw [Value.handles, hnone] at hstrange
          cases hstrange
      | none => exact (refused_toForeignEach items hstrange).bind
  | foreign h =>
      unfold toForeign handleToForeign
      have hforeign : h.context ≠ ctx.id := by
        rw [Value.handles] at hstrange
        unfold strange at hstrange
        rw [List.any_cons, List.any_nil, Bool.or_false, bne_iff_ne] at hstrange
        exact hstrange
      rw [if_neg hforeign]
      exact Refused.throw
  | undefined | scalar _ | text _ | matrix _ => cases hstrange

theorem refused_toForeignEach (values : List Value)
    (hstrange : strange ctx.id (Value.handlesAll values) = true) :
    Refused 0 (ctx.toForeignEach values) := by
  cases values with
  | nil => cases hstrange
  | cons value values =>
      rw [Value.handlesAll, strange_append, Bool.or_eq_true] at hstrange
      unfold toForeignEach
      by_cases hfirst : strange ctx.id value.handles = true
      · exact (refused_toForeign value hfirst).bind
      · apply Refused.next (ctx.spends_toForeign value)
        intro ref
        exact (Refused.keeping (refused_toForeignEach values
          (hstrange.resolve_left hfirst))).bind

end

theorem refused_callWith (target : Ref) {arguments : List Value}
    (hstrange : strange ctx.id (Value.handlesAll arguments) = true) :
    Refused 0 (ctx.callWith target arguments) :=
  Refused.bind (Refused.bind (ctx.refused_toForeignEach arguments hstrange))

/-- A handle is no position. -/
theorem refused_keyToForeign {arguments : List Value}
    (hstrange : strange ctx.id (Value.handlesAll arguments) = true) :
    Refused 0 (ctx.keyToForeign arguments) := by
  have hposition : ∃ fault, positionOf arguments = .error fault := by
    match arguments with
    | [] => exact ⟨_, rfl⟩
    | first :: second :: rest => exact ⟨_, rfl⟩
    | [position] =>
        rw [Value.handlesAll, Value.handlesAll, List.append_nil] at hstrange
        cases position with
        | scalar s => cases hstrange
        | _ => exact ⟨_, rfl⟩
  rcases hposition with ⟨fault, hfault⟩
  unfold keyToForeign
  rw [hfault]
  exact Refused.throw

theorem refused_refuseKind (object : Ref) (fault : ForeignKind → Unsupported) :
    Refused 0 (refuseKind object fault : Crossing α) :=
  Refused.next (Spends.ask rfl) fun _ => Refused.throw

theorem refused_step (target : Ref) {link : Accessor}
    (hstrange : strange ctx.id link.handles = true) : Refused 0 (ctx.step target link) := by
  have hindexed : ∀ (fault : ForeignKind → Unsupported) (arguments : List Value),
      strange ctx.id (Value.handlesAll arguments) = true → Refused 0 (do
        if ← Crossing.ask (.supportsIndexing target) then ctx.getItem target arguments
        else refuseKind target fault) := by
    intro fault arguments harguments
    apply Refused.next (Spends.ask rfl)
    intro indexing
    cases indexing with
    | true => exact (ctx.refused_keyToForeign harguments).bind
    | false => exact refused_refuseKind target _
  cases link with
  | field name => cases hstrange
  | call arguments =>
      apply Refused.next (Spends.ask rfl)
      intro callable
      cases callable with
      | true => exact ctx.refused_callWith target hstrange
      | false => exact hindexed _ arguments hstrange
  | index arguments => exact hindexed _ arguments hstrange

theorem refused_walk (target : Ref) {links : List Accessor} {count : Nat}
    (hstrange : operandsBefore? ctx.id links = some count) :
    Refused count (ctx.walk target links) := by
  induction links generalizing target count with
  | nil => cases hstrange
  | cons link links ih =>
      rw [operandsBefore?] at hstrange
      unfold walk
      split at hstrange
      · rename_i hlink
        cases hstrange
        exact (Refused.owningAll (ctx.refused_step target hlink)).bind
      · rcases Option.map_eq_some_iff.1 hstrange with ⟨rest, hrest, hcount⟩
        rw [← hcount]
        have hspends : Spends link.hasOperands.toNat (owning target (ctx.step target link)) :=
          Spends.owningAll (ctx.spends_step target link)
        exact Refused.after hspends fun next => ih next hrest

theorem refused_assign (target : Ref) {value : Value} {link : Accessor}
    (hstrange : strange ctx.id link.handles = true ∨ strange ctx.id value.handles = true) :
    Refused 0 (ctx.assign target value link) := by
  have hindexed : ∀ arguments : List Value,
      strange ctx.id (Value.handlesAll arguments) = true ∨ strange ctx.id value.handles = true →
      Refused 0 (ctx.assign target value (.index arguments)) := by
    intro arguments hstrange
    apply Refused.next (Spends.ask rfl)
    intro indexing
    cases indexing with
    | true =>
        rcases hstrange with harguments | hvalue
        · apply Refused.next (ctx.spends_toForeign value)
          intro ref
          exact Refused.owningAll (ctx.refused_keyToForeign harguments).bind
        · exact (ctx.refused_toForeign value hvalue).bind
    | false => exact refused_refuseKind target _
  cases link with
  | field name =>
      rcases hstrange with hlink | hvalue
      · cases hlink
      · exact (ctx.refused_toForeign value hvalue).bind
  | call arguments => exact hindexed arguments hstrange
  | index arguments => exact hindexed arguments hstrange

theorem refused_assignChain (root : Handle) {chain : List Accessor} {value : Value} {count : Nat}
    (hstrange : (Entry.assign root chain value).strangeAfter? ctx.id = some count) :
    Refused count (ctx.assignChain root chain value) := by
  unfold assignChain
  cases hlast : chain.getLast? with
  | none => exact Refused.throw
  | some last =>
      have hchain : chain.dropLast ++ [last] = chain := List.dropLast_append_getLast? last hlast
      have hbefore := operandsBefore?_concat ctx.id chain.dropLast last
      rw [hchain] at hbefore
      unfold Entry.strangeAfter? at hstrange
      dsimp only at hstrange ⊢
      rw [hbefore] at hstrange
      apply Refused.next (spends_acquire root)
      intro target
      cases hwalk : operandsBefore? ctx.id chain.dropLast with
      | some index =>
          rw [hwalk] at hstrange
          cases hstrange
          exact (ctx.refused_walk target hwalk).bind
      | none =>
          -- The links before the last one take operands that are not refused.
          have hassign : (strange ctx.id last.handles = true ∨ strange ctx.id value.handles = true) ∧
              count = chain.dropLast.countP Accessor.hasOperands := by
            rw [hwalk, Option.none_or] at hstrange
            by_cases hkey : strange ctx.id last.handles = true
            · rw [if_pos hkey] at hstrange
              cases hstrange
              exact ⟨.inl hkey, rfl⟩
            · rw [if_neg hkey, Option.none_or] at hstrange
              split at hstrange
              · rename_i hvalue
                cases hstrange
                exact ⟨.inr hvalue, rfl⟩
              · cases hstrange
          rw [hassign.2, ← Nat.add_zero (List.countP _ _)]
          apply Refused.after (ctx.spends_walk target chain.dropLast)
          intro target
          exact Refused.owningAll (Refused.bind (ctx.refused_assign target hassign.1))

/-- An operand with a handle of another bridge inside is refused before it is used, and the request of
the host has no result. -/
theorem refused_serve {entry : Entry} {count : Nat}
    (hstrange : entry.strangeAfter? ctx.id = some count) : Refused count (ctx.serve entry) := by
  cases entry with
  | importModule _ | getField _ _ | members _ => cases hstrange
  | construct module className arguments =>
      unfold Entry.strangeAfter? at hstrange
      dsimp only at hstrange
      split at hstrange
      · rename_i harguments
        cases hstrange
        apply Refused.next (ctx.spends_resolve (.handle module))
        intro module
        apply Refused.owningAll
        apply Refused.next (ctx.spends_getAttr module className)
        intro constructor
        exact Refused.owningAll (ctx.refused_callWith constructor harguments).bind
      · cases hstrange
  | invoke on method arguments =>
      unfold Entry.strangeAfter? at hstrange
      dsimp only at hstrange
      split at hstrange
      · rename_i harguments
        cases hstrange
        apply Refused.next (ctx.spends_resolve on)
        intro target
        apply Refused.owningAll
        apply Refused.next (ctx.spends_getAttr target method)
        intro callable
        exact Refused.owningAll (ctx.refused_callWith callable harguments).bind
      · cases hstrange
  | setField on field value =>
      unfold Entry.strangeAfter? at hstrange
      dsimp only at hstrange
      split at hstrange
      · rename_i hvalue
        cases hstrange
        apply Refused.next (ctx.spends_resolve on)
        intro target
        exact Refused.owningAll (ctx.refused_toForeign value hvalue).bind
      · cases hstrange
  | read root chain =>
      apply Refused.next (ctx.spends_requireOwn root)
      intro _
      apply Refused.bind
      unfold readChain
      apply Refused.next (spends_acquire root)
      intro target
      cases chain with
      | nil => cases hstrange
      | cons link links => exact (ctx.refused_walk target hstrange).bind
  | assign root chain value =>
      apply Refused.next (ctx.spends_requireOwn root)
      intro _
      exact (ctx.refused_assignChain root hstrange).bind

end Context

/-!
# Requests that take operands in a run
-/

variable {σ : Type} (answer : (r : Request) → Attempt σ r.Answer)

/-- How often operands were taken. -/
def Asked.operations (transcript : List Asked) : Nat :=
  transcript.countP fun asked => asked.request.operates

theorem Asked.operations_concat (transcript : List Asked) (r : Request) (given : Option r.Answer) :
    operations (transcript ++ [⟨r, given⟩]) = operations transcript + r.operates.toNat := by
  unfold operations
  rw [List.countP_append, List.countP_singleton]
  dsimp only
  cases r.operates with
  | true => rfl
  | false => rfl

theorem keptBy_rationing (count : Nat) :
    rationing.KeptBy (transcribed answer) (fun n moment => Asked.operations moment.2 + n ≤ count)
      (fun moment => Asked.operations moment.2 ≤ count) := by
  constructor
  · intro n moment r hinv hallowed
    have hbound : Asked.operations moment.2 + r.operates.toNat +
        (if r.operates then n - 1 else n) ≤ count := by
      cases hoperates : r.operates with
      | true =>
          have hpositive : 0 < n := hallowed hoperates
          show Asked.operations moment.2 + 1 + (n - 1) ≤ count
          omega
      | false => exact hinv
    rw [outcome_transcribed]
    rcases (answer r).outcome moment.1 with ⟨outcome, s'⟩
    cases outcome with
    | ok given =>
        refine ⟨_, rfl, ?_⟩
        rw [Asked.operations_concat]
        exact hbound
    | error panic =>
        refine ⟨trivial, ?_⟩
        rw [Asked.operations_concat]
        omega
  · exact fun n moment hinv => Nat.le_trans (Nat.le_add_right _ n) hinv
  · intro moment ref hbroken
    rw [outcome_transcribed]
    rcases (answer (.release ref)).outcome moment.1 with ⟨outcome, s'⟩
    cases outcome with
    | ok given =>
        rw [Asked.operations_concat]
        exact hbroken
    | error panic =>
        rw [Asked.operations_concat]
        exact hbroken

/-- Whatever a runtime answers to a request of the host in which an operand has a handle of another
bridge inside: operands are taken no more often than there are links with operands before it, and the
request has no result. -/
theorem withheld_serve (ctx : Context) (record : Event → StateM σ Unit) (s : σ) {entry : Entry}
    {count : Nat} (hstrange : entry.strangeAfter? ctx.id = some count) :
    Asked.operations ((ctx.serve entry).run.transcript answer record s) ≤ count ∧
      ∀ reply, (((ctx.serve entry).run.run answer record).outcome s).1 ≠ .ok (.ok reply) := by
  have hfirst : Asked.operations (s, ([] : List Asked)).2 + count ≤ count :=
    Nat.le_of_eq (Nat.zero_add count)
  have hrecord : ∀ event n (moment : σ × List Asked), Asked.operations moment.2 + n ≤ count →
      Asked.operations ((beside record event).run moment).2.2 + n ≤ count := fun _ _ _ h => h
  have hrun := Program.run_follows (keptBy_rationing answer count) hrecord
    (ctx.refused_serve hstrange count (Nat.le_refl _)) hfirst
  rw [outcome_run_transcribed] at hrun
  rcases houtcome : ((ctx.serve entry).run.run answer record).outcome s with ⟨outcome, s'⟩
  rw [houtcome] at hrun
  rcases outcome with panic | result
  · exact ⟨hrun.2, nofun⟩
  · rcases hrun with ⟨n, hpost, hinv⟩
    refine ⟨Nat.le_trans (Nat.le_add_right _ n) hinv, ?_⟩
    rintro reply hreply
    cases hreply
    exact hpost

end ForeignBridge
