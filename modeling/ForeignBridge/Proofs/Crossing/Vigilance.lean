import ForeignBridge.Proofs.Crossing.Tidy

/-!
# Vigilance

The conduct of a conversation is what matters of its past for what the host is told in the end:
whether an error is pending, the first mishap, and the diagnostics fetched since then.  After a
mishap nothing more may be made or changed in the runtime.

A vigilant crossing begins without a mishap.  If it succeeds there was none, and if it fails the
error is one that the host may be told.  Every answer that the bridge uses is checked first, except
where a failure is tolerated.  A check looks for a pending error, so it also notices one that an
earlier request of the same operation has left, as the request for the kind of a number does.
-/

namespace ForeignBridge

/-- What matters of the past of a conversation. -/
structure Conduct where
  pending : Bool
  mishap : Option Occurrence
  fetched : List (Option Diagnostic)

namespace Conduct

/-- The conduct of a conversation without a mishap. -/
def calm : Conduct := ⟨false, none, []⟩

/-- The conduct after an occurrence. -/
def after (prefixes : List String) (g : Conduct) (o : Occurrence) : Conduct where
  pending := o.request.pendingAfter (g.pending || o.raised)
  mishap := g.mishap.or (if o.mishap prefixes then some o else none)
  fetched := if g.mishap.isSome then g.fetched ++ o.request.fetched o.answer else g.fetched

/-- What neither fails nor fetches an error leaves the conduct as it was. -/
theorem after_eq_self {prefixes : List String} (g : Conduct) (r : Request) (answer : r.Answer)
    (hmishap : Occurrence.mishap prefixes ⟨⟨r, answer⟩, false⟩ = false)
    (hfetched : r.fetched answer = []) (hpending : ∀ b, r.pendingAfter b = b) :
    g.after prefixes ⟨⟨r, answer⟩, false⟩ = g := by
  cases g with
  | mk pending mishap fetched => simp [after, hmishap, hfetched, hpending]

/-- What a host may be told at the end: no error is left behind, and a foreign failure is that of
the first mishap. -/
structure Settled (error : BridgeError) (g : Conduct) : Prop where
  cleared : g.pending = false
  reported : ∀ operation message, error = .foreignRuntime operation message →
    ∃ o, g.mishap = some o ∧ operation ∈ o.request.operations ∧
      g.fetched.length = o.raised.toNat ∧ message = Context.failureText g.fetched.head?.join

end Conduct

/-- The conversation of a program that does nothing more in a runtime after a mishap. -/
def vigilance (prefixes : List String) : Protocol Conduct where
  allows g r := r.active = true → g.mishap = none
  next g r answer g' := ∃ raised : Bool, (raised = true → r.mayRaise = true) ∧
    r.reported g.pending answer = answer ∧ g' = g.after prefixes ⟨⟨r, answer⟩, raised⟩
  breaksOff _ := True

variable {prefixes : List String} {α β : Type}

namespace Crossing

def Vigilant (prefixes : List String) (c : Crossing α) : Prop :=
  c.Follows (vigilance prefixes) (fun _ g => g = .calm) Conduct.Settled .calm

theorem settled_calm {e : BridgeError} (h : ∀ operation message, e ≠ .foreignRuntime operation message) :
    Conduct.Settled e .calm := by
  constructor
  · rfl
  · intro operation message he
    exact absurd he (h operation message)

theorem follows_quiet {r : Request} {g : Conduct} {ok : r.Answer → Conduct → Prop}
    {failed : BridgeError → Conduct → Prop} (hactive : r.active = false)
    (hquiet : r.mayRaise = false)
    (hok : ∀ answer, r.reported g.pending answer = answer →
      ok answer (g.after prefixes ⟨⟨r, answer⟩, false⟩)) :
    (ask r).Follows (vigilance prefixes) ok failed g := by
  rw [follows_ask]
  constructor
  · intro h
    rw [hactive] at h
    cases h
  · rintro answer g' ⟨raised, hraised, hreported, rfl⟩
    cases raised with
    | false => exact hok answer hreported
    | true =>
        rw [hquiet] at hraised
        cases hraised rfl

theorem follows_released {post : Unit → Conduct → Prop} {refs : List Ref} {g : Conduct}
    (h : post () g) : (Program.releaseAll refs).Follows (vigilance prefixes) post g := by
  induction refs with
  | nil => exact h
  | cons ref rest ih =>
      constructor
      · intro hactive
        cases hactive
      · rintro answer g' ⟨raised, hraised, -, rfl⟩
        cases raised with
        | false =>
            rw [g.after_eq_self (.release ref) answer rfl rfl fun _ => rfl]
            exact ih
        | true => cases hraised rfl

namespace Vigilant

theorem pure {a : α} : Vigilant prefixes (pure a : Crossing α) := rfl

theorem throw {e : BridgeError} (h : ∀ operation message, e ≠ .foreignRuntime operation message) :
    Vigilant prefixes (throw e : Crossing α) :=
  settled_calm h

theorem abort {panic : Panic} : Vigilant prefixes (abort panic : Crossing α) := trivial

theorem note {event : Event} : Vigilant prefixes (note event) := rfl

theorem bind {c : Crossing α} {f : α → Crossing β} (hc : Vigilant prefixes c)
    (hf : ∀ a, Vigilant prefixes (f a)) : Vigilant prefixes (c >>= f) := by
  unfold Vigilant
  rw [follows_bind]
  refine follows_mono (fun a g hg => ?_) (fun e g hg => hg) hc
  rw [hg]
  exact hf a

/-- A request that cannot fail. -/
theorem look {r : Request} (hactive : r.active = false) (hquiet : r.mayRaise = false)
    (hcalm : ∀ answer, Conduct.calm.after prefixes ⟨⟨r, answer⟩, false⟩ = .calm) :
    Vigilant prefixes (ask r) :=
  follows_quiet hactive hquiet fun answer _ => hcalm answer

theorem releaseAll {refs : List Ref} : Vigilant prefixes (releaseAll refs) := by
  unfold Vigilant
  rw [Crossing.follows_releaseAll]
  exact follows_released rfl

theorem owningAll {refs : List Ref} {body : Crossing α} (h : Vigilant prefixes body) :
    Vigilant prefixes (owningAll refs body) := by
  unfold Vigilant
  rw [follows_owningAll]
  refine follows_mono (fun a g hg => ?_) (fun e g hg => ?_) h
  · exact follows_released hg
  · exact follows_released hg

theorem keeping {refs : List Ref} {body : Crossing α} (h : Vigilant prefixes body) :
    Vigilant prefixes (keeping refs body) := by
  unfold Vigilant
  rw [follows_keeping]
  refine follows_mono (fun a g hg => hg) (fun e g hg => ?_) h
  exact follows_released hg

end Vigilant
end Crossing

/-!
# Checks
-/

/-- The conduct when an answer is about to be checked: either nothing went wrong, or the operation
that checks it is one that reports the first mishap. -/
structure Conduct.Awaits (operation : Operation) (sound : Bool) (g : Conduct) : Prop where
  fetched : g.fetched = []
  good : g.pending = false → sound = true → g = .calm
  bad : g.pending = true ∨ sound = false →
    ∃ o, g.mishap = some o ∧ operation ∈ o.request.operations ∧ o.raised = g.pending

theorem Conduct.awaits_calm {operation : Operation} : calm.Awaits operation true := by
  constructor
  · rfl
  · intro _ _
    rfl
  · intro h
    cases h with
    | inl h => cases h
    | inr h => cases h

/-- A request of the operation that is checked later leaves a failure to that check. -/
theorem Conduct.Awaits.after (prefixes : List String) {operation : Operation} {g : Conduct}
    (h : g.Awaits operation true) {r : Request} (hoperation : operation ∈ r.operations)
    (answer : r.Answer) (raised : Bool)
    (hstrict : Occurrence.tolerated prefixes ⟨⟨r, answer⟩, raised⟩ = false) :
    (g.after prefixes ⟨⟨r, answer⟩, raised⟩).Awaits operation (!r.refused answer) := by
  have hfetched : r.fetched answer = [] := by
    cases r with
    | takeError => cases hoperation
    | _ => rfl
  have hpending : ∀ b, r.pendingAfter b = b := by
    cases r with
    | takeError => cases hoperation
    | _ => exact fun _ => rfl
  cases hg : g.pending with
  | true =>
      rcases h.bad (.inl hg) with ⟨o, hmishap, ho, hraised⟩
      constructor
      · simp [Conduct.after, hmishap, h.fetched, hfetched]
      · intro hcleared
        simp [Conduct.after, hpending, hg] at hcleared
      · intro _
        refine ⟨o, ?_, ho, ?_⟩
        · simp [Conduct.after, hmishap]
        · simp [Conduct.after, hpending, hg, hraised]
  | false =>
      rw [h.good hg rfl]
      constructor
      · rfl
      · intro hcleared hsound
        have hraised : raised = false := by simpa [Conduct.after, hpending, calm] using hcleared
        have hanswer : r.refused answer = false := by simpa using hsound
        simp [Conduct.after, calm, hpending, Occurrence.mishap, Occurrence.failed, hraised, hanswer]
      · intro hbad
        have hfailed : Occurrence.failed ⟨⟨r, answer⟩, raised⟩ = true := by
          simpa [Conduct.after, hpending, calm, Occurrence.failed] using hbad
        refine ⟨⟨⟨r, answer⟩, raised⟩, ?_, hoperation, ?_⟩
        · simp [Conduct.after, calm, Occurrence.mishap, hfailed, hstrict]
        · simp [Conduct.after, calm, hpending]

namespace Context

open Crossing

variable (ctx : Context) {prefixes : List String} {α β : Type}

section Checks

variable {g : Conduct} {ok : β → Conduct → Prop} {failed : BridgeError → Conduct → Prop}

theorem follows_errorPending {f : Bool → Crossing β}
    (h : ∀ pending, pending = g.pending → (f pending).Follows (vigilance prefixes) ok failed g) :
    (ask .errorPending >>= f).Follows (vigilance prefixes) ok failed g := by
  rw [follows_bind]
  apply follows_quiet rfl rfl
  intro pending hpending
  rw [g.after_eq_self .errorPending pending rfl rfl fun _ => rfl]
  exact h pending hpending.symm

theorem follows_takeError {f : Option Diagnostic → Crossing β}
    (h : ∀ diagnostic, (f diagnostic).Follows (vigilance prefixes) ok failed
      ⟨false, g.mishap, if g.mishap.isSome then g.fetched ++ [diagnostic] else g.fetched⟩) :
    (ask .takeError >>= f).Follows (vigilance prefixes) ok failed g := by
  rw [follows_bind]
  apply follows_quiet rfl rfl
  intro diagnostic _
  have hafter : g.after prefixes ⟨⟨.takeError, diagnostic⟩, false⟩ =
      ⟨false, g.mishap, if g.mishap.isSome then g.fetched ++ [diagnostic] else g.fetched⟩ := by
    simp [Conduct.after, Request.pendingAfter, Occurrence.mishap, Occurrence.failed,
      Request.refused, Request.fetched]
  rw [hafter]
  exact h diagnostic

theorem follows_fail {operation : Operation} {diagnostic : Option Diagnostic}
    (h : failed (.foreignRuntime operation (failureText diagnostic)) g) :
    (ctx.fail operation diagnostic).Follows (vigilance prefixes) ok failed g := by
  unfold fail
  cases ctx.settings.debug with
  | false => exact h
  | true => exact h

/-- A diagnostic that was fetched is reported as that of the mishap. -/
theorem settled_fetched {operation : Operation} {sound : Bool} (h : g.Awaits operation sound)
    (hpending : g.pending = true) (diagnostic : Option Diagnostic) :
    Conduct.Settled (.foreignRuntime operation (failureText diagnostic))
      ⟨false, g.mishap, if g.mishap.isSome then g.fetched ++ [diagnostic] else g.fetched⟩ := by
  rcases h.bad (.inl hpending) with ⟨o, hmishap, ho, hraised⟩
  constructor
  · rfl
  · intro other message herror
    cases herror
    refine ⟨o, hmishap, ho, ?_, ?_⟩
    · simp [hmishap, h.fetched, hraised, hpending]
    · simp [hmishap, h.fetched]

/-- A sentinel without an error is reported without a diagnostic. -/
theorem settled_sentinel {operation : Operation} (h : g.Awaits operation false)
    (hpending : g.pending = false) :
    Conduct.Settled (.foreignRuntime operation (failureText none)) g := by
  rcases h.bad (.inr rfl) with ⟨o, hmishap, ho, hraised⟩
  constructor
  · exact hpending
  · intro other message herror
    cases herror
    refine ⟨o, hmishap, ho, ?_, ?_⟩
    · rw [h.fetched, hraised, hpending]
      rfl
    · rw [h.fetched]
      rfl

theorem follows_checkRef {operation : Operation} {answer : Option Ref}
    (h : g.Awaits operation answer.isSome) :
    (ctx.checkRef operation answer).Follows (vigilance prefixes) (fun _ g' => g' = .calm)
      Conduct.Settled g := by
  unfold checkRef
  apply follows_errorPending
  intro pending hpending
  cases pending with
  | true =>
      apply follows_takeError
      intro diagnostic
      rw [follows_bind, follows_releaseAll]
      apply follows_released
      exact ctx.follows_fail (settled_fetched h hpending.symm diagnostic)
  | false =>
      cases answer with
      | some ref => exact h.good hpending.symm rfl
      | none => exact ctx.follows_fail (settled_sentinel h hpending.symm)

theorem follows_checkValue {operation : Operation} {answer : Option α}
    (h : g.Awaits operation answer.isSome) :
    (ctx.checkValue operation answer).Follows (vigilance prefixes) (fun _ g' => g' = .calm)
      Conduct.Settled g := by
  unfold checkValue
  apply follows_errorPending
  intro pending hpending
  cases pending with
  | true =>
      apply follows_takeError
      intro diagnostic
      exact ctx.follows_fail (settled_fetched h hpending.symm diagnostic)
  | false =>
      cases answer with
      | some value => exact h.good hpending.symm rfl
      | none => exact ctx.follows_fail (settled_sentinel h hpending.symm)

/-- After a failure that nothing was made of, clearing the error leaves nothing behind. -/
theorem follows_clearError :
    clearError.Follows (vigilance prefixes)
      (fun _ g' => g'.pending = false ∧ (g.mishap = none → g.fetched = [] → g' = .calm))
      failed g := by
  unfold clearError
  apply follows_errorPending
  intro pending hpending
  cases pending with
  | true =>
      show (ask .takeError).Follows _ _ _ _
      rw [← bind_pure (ask .takeError)]
      apply follows_takeError
      intro diagnostic
      refine ⟨rfl, ?_⟩
      intro hmishap hfetched
      simp [hmishap, hfetched, Conduct.calm]
  | false =>
      refine ⟨hpending.symm, ?_⟩
      intro hmishap hfetched
      cases g with
      | mk pending mishap fetched =>
          cases hmishap
          cases hfetched
          cases hpending
          rfl

end Checks

/-- A request that may raise, up to the answer. -/
theorem follows_raising {r : Request} {g : Conduct} {ok : r.Answer → Conduct → Prop}
    {failed : BridgeError → Conduct → Prop} (hcalm : r.active = true → g.mishap = none)
    (hok : ∀ answer raised, ok answer (g.after prefixes ⟨⟨r, answer⟩, raised⟩)) :
    (ask r).Follows (vigilance prefixes) ok failed g := by
  rw [follows_ask]
  constructor
  · exact hcalm
  · rintro answer g' ⟨raised, -, -, rfl⟩
    exact hok answer raised

/-- A request whose answer, a new reference or a value, is checked. -/
theorem vigilant_checked {r : Request} {operation : Operation}
    (hoperation : operation ∈ r.operations) {answerOf : r.Answer → Option α}
    (hrefused : ∀ answer, r.refused answer = (answerOf answer).isNone)
    (hstrict : ∀ answer raised, Occurrence.tolerated prefixes ⟨⟨r, answer⟩, raised⟩ = false)
    {check : r.Answer → Crossing β}
    (hcheck : ∀ answer g, g.Awaits operation (answerOf answer).isSome →
      (check answer).Follows (vigilance prefixes) (fun _ g' => g' = .calm) Conduct.Settled g) :
    Vigilant prefixes (ask r >>= check) := by
  unfold Vigilant
  rw [follows_bind]
  apply follows_raising fun _ => rfl
  intro answer raised
  apply hcheck
  have hawaits := Conduct.awaits_calm.after prefixes hoperation answer raised (hstrict answer raised)
  rw [hrefused answer, Option.not_isNone] at hawaits
  exact hawaits

theorem vigilant_refuse {fault : ConversionFault} :
    Vigilant prefixes (refuse fault : Crossing α) := by
  apply Vigilant.throw
  intro operation message h
  cases h

/-!
# From the runtime to the host
-/

/-- A failure to name a class is cleared before anything else happens. -/
theorem vigilant_wrap (object : Ref) : Vigilant prefixes (ctx.wrap object) := by
  unfold wrap Vigilant
  rw [follows_bind]
  apply follows_raising fun _ => rfl
  intro name raised
  rw [follows_bind]
  refine follows_mono (fun d g hg => ?_) (fun e g hg => hg) follows_clearError
  apply hg.2
  · simp [Conduct.after, Conduct.calm, Occurrence.mishap, Occurrence.tolerated]
  · rfl

/-- Asking for the kind of a number leaves an error to the check of the number. -/
theorem awaits_numericKind (prefixes : List String) (object : Ref) {operation : Operation}
    (hoperation : operation ∈ (Request.numericKind object).operations)
    (hint : Option NumericKind) (raised : Bool) :
    (Conduct.calm.after prefixes ⟨⟨.numericKind object, hint⟩, raised⟩).Awaits operation true := by
  cases raised with
  | false =>
      have hcalm : Conduct.calm.after prefixes ⟨⟨.numericKind object, hint⟩, false⟩ = .calm := by
        simp [Conduct.after, Conduct.calm, Occurrence.mishap, Occurrence.tolerated,
          Request.pendingAfter]
      rw [hcalm]
      exact Conduct.awaits_calm
  | true =>
      constructor
      · rfl
      · intro hpending
        cases hpending
      · intro _
        exact ⟨⟨⟨.numericKind object, hint⟩, true⟩, rfl, hoperation, rfl⟩

theorem follows_extractionFailed {value : Option Int} {g : Conduct}
    {f : Bool → Crossing β} {ok : β → Conduct → Prop} {failed : BridgeError → Conduct → Prop}
    (hfailed : value = none → g.pending = true → (f true).Follows (vigilance prefixes) ok failed g)
    (hchecked : (f false).Follows (vigilance prefixes) ok failed g) :
    (extractionFailed value >>= f).Follows (vigilance prefixes) ok failed g := by
  unfold extractionFailed
  cases value with
  | some n => exact hchecked
  | none =>
      apply follows_errorPending
      intro pending hpending
      cases pending with
      | true => exact hfailed rfl hpending.symm
      | false => exact hchecked

theorem vigilant_integerToHost (object : Ref) : Vigilant prefixes (ctx.integerToHost object) := by
  unfold integerToHost Vigilant
  rw [follows_bind]
  apply follows_raising fun _ => rfl
  intro hint raised
  have hhint := awaits_numericKind prefixes object List.mem_cons_self hint raised
  rw [follows_bind]
  refine follows_raising (fun hactive => ?_) fun value raised' => ?_
  · cases hactive
  have hvalue := hhint.after prefixes (r := .intValue object) List.mem_cons_self
    value raised' rfl
  apply follows_extractionFailed
  · intro _ _
    apply follows_takeError
    intro diagnostic
    constructor
    · rfl
    · intro operation message herror
      cases herror
  · rw [if_neg Bool.false_ne_true, follows_bind]
    have hsome : (!(Request.intValue object).refused value) = value.isSome :=
      Option.not_isNone value
    rw [hsome] at hvalue
    refine follows_mono (fun n g hg => ?_) (fun e g hg => hg) (ctx.follows_checkValue hvalue)
    rw [hg]
    cases HostInt.ofInt ((hint.filter NumericKind.isInteger).getD .int64) n with
    | ok i => rfl
    | error fault => exact settled_calm (ofNumeric_ne_foreignRuntime fault)

theorem vigilant_floatToHost (object : Ref) : Vigilant prefixes (ctx.floatToHost object) := by
  unfold floatToHost Vigilant
  rw [follows_bind]
  apply follows_raising fun _ => rfl
  intro hint raised
  have hhint := awaits_numericKind prefixes object
    (List.mem_cons_of_mem _ List.mem_cons_self) hint raised
  rw [follows_bind]
  refine follows_raising (fun hactive => ?_) fun value raised' => ?_
  · cases hactive
  have hvalue := hhint.after prefixes (r := .floatValue object) List.mem_cons_self
    value raised' rfl
  rw [follows_bind]
  refine follows_mono (fun x g hg => ?_) (fun e g hg => hg) (ctx.follows_checkValue hvalue)
  rw [hg]
  cases HostFloat.ofDouble ((hint.filter NumericKind.isFloat).getD .double) x with
  | ok y => rfl
  | error fault => exact settled_calm (ofNumeric_ne_foreignRuntime fault)

/-- Text that cannot be had is a conversion failure, and its error is cleared. -/
theorem vigilant_textToHost (object : Ref) : Vigilant prefixes (ctx.textToHost object) := by
  unfold textToHost Vigilant
  rw [follows_bind]
  apply follows_raising fun _ => rfl
  intro answer raised
  have hawaits := Conduct.awaits_calm.after prefixes (r := .stringBytes object)
    List.mem_cons_self answer raised rfl
  cases answer with
  | none =>
      dsimp only
      rw [follows_bind]
      refine follows_mono (fun d g hg => ?_) (fun e g hg => hg) follows_clearError
      constructor
      · exact hg.1
      · intro operation message herror
        cases herror
  | some bytes =>
      dsimp only
      rw [follows_bind]
      refine follows_mono (fun bytes g hg => ?_) (fun e g hg => hg) (ctx.follows_checkValue hawaits)
      rw [hg]
      cases Utf8.decode bytes with
      | ok text => rfl
      | error fault => exact vigilant_refuse

/-- A request for the name of a module that need not exist. -/
theorem vigilant_tryImport {name : String} (hname : name ∈ prefixes) :
    Vigilant prefixes (tryImport name) := by
  unfold tryImport Vigilant
  rw [follows_bind]
  apply follows_raising fun _ => rfl
  intro found raised
  rw [follows_bind]
  refine follows_mono (fun pending g hg => ?_) (fun e g hg => hg) follows_clearError
  have hcalm : g = .calm := by
    apply hg.2
    · simp [Conduct.after, Conduct.calm, Occurrence.mishap, Occurrence.tolerated, hname]
    · rfl
  rw [hcalm]
  cases pending with
  | some diagnostic =>
      show Vigilant prefixes _
      apply Vigilant.bind Vigilant.releaseAll
      intro _
      apply Vigilant.bind Vigilant.note
      intro _
      exact Vigilant.pure
  | none => exact rfl

end Context

/-- A tidy crossing is vigilant. -/
theorem Crossing.Tidy.vigilant {ctx : Context} {writes : Bool} {before : Multiset Ref}
    {c : Crossing α} {after : α → Multiset Ref} (h : Tidy ctx writes prefixes before c after) :
    Vigilant prefixes c := by
  induction h with
  | pure _ => exact Vigilant.pure
  | throw h => exact Vigilant.throw h
  | abort => exact Vigilant.abort
  | note _ => exact Vigilant.note
  | @look r before hlooks =>
      cases r with
      | kindOf _ | isCallable _ | supportsIndexing _ | boolValue _ =>
          exact Vigilant.look rfl rfl fun _ => rfl
      | _ => cases hlooks
  | null => exact Vigilant.look rfl rfl fun _ => rfl
  | retain => exact Vigilant.look rfl rfl fun _ => rfl
  | checkedRef hoperation _ hrefused hstrict =>
      exact Context.vigilant_checked hoperation hrefused hstrict fun _ _ => ctx.follows_checkRef
  | checkedValue _ hoperation _ hrefused hstrict =>
      exact Context.vigilant_checked hoperation hrefused hstrict fun _ _ => ctx.follows_checkValue
  | wrap => exact ctx.vigilant_wrap _
  | tryImport hname => exact Context.vigilant_tryImport hname
  | integerToHost => exact ctx.vigilant_integerToHost _
  | floatToHost => exact ctx.vigilant_floatToHost _
  | textToHost => exact ctx.vigilant_textToHost _
  | bind _ _ ihc ihf => exact Vigilant.bind ihc ihf
  | releaseAll => exact Vigilant.releaseAll
  | owningAll _ _ ih => exact Vigilant.owningAll ih
  | keeping _ _ ih => exact Vigilant.keeping ih
  | of_eq _ _ _ ih => exact ih

end ForeignBridge
