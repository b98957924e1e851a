import ForeignBridge.Proofs.Crossing.Confinement
import ForeignBridge.Proofs.Crossing.Vigilance

/-!
# Discretion

A discreet crossing writes last: once something was written it does not fail any more.  So whatever
it reports to the host, nothing was written.  A crossing that only reads is discreet, and so is one
that reads, then writes, and after that only does what cannot fail.

It matters here that a runtime which writes does not complain of it: an answer that says that
something was written comes without an error.
-/

namespace ForeignBridge

/-- Whether an answer says that something was written. -/
def Request.wrote (r : Request) (answer : r.Answer) : Bool := r.writes && !r.refused answer

/-- The conversation of a program with a runtime that does not complain of what it wrote, with
whether anything was written so far. -/
def discretion (prefixes : List String) : Protocol (Conduct × Bool) where
  allows g r := r.active = true → g.1.mishap = none
  next g r answer g' := ∃ raised : Bool,
    (raised = true → r.mayRaise = true ∧ r.wrote answer = false) ∧
    r.reported g.1.pending answer = answer ∧
    g' = (g.1.after prefixes ⟨⟨r, answer⟩, raised⟩, g.2 || r.wrote answer)
  breaksOff _ := True

variable {prefixes : List String} {fine : Panic → Prop} {α β : Type}

/-- A program that is vigilant and only reads is discreet. -/
theorem Program.follows_discretion {p : Program α} {post : α → Conduct → Prop}
    {post' : α → Unit → Prop} {g : Conduct} (hvigilant : p.Follows (vigilance prefixes) post g)
    (hconfined : p.Follows (confinement false fine) post' ()) (written : Bool) :
    p.Follows (discretion prefixes) (fun a d => post a d.1 ∧ d.2 = written) (g, written) := by
  induction p generalizing g with
  | done result => exact ⟨hvigilant, rfl⟩
  | abort panic => trivial
  | ask r next ih =>
      refine ⟨hvigilant.1, ?_⟩
      rintro answer d ⟨raised, hraised, hreported, rfl⟩
      have hreads : r.wrote answer = false := by
        unfold Request.wrote
        cases hwrites : r.writes with
        | true => exact absurd (hconfined.1 hwrites) nofun
        | false => rfl
      rw [hreads, Bool.or_false]
      apply ih answer _ (hconfined.2 answer () trivial)
      exact hvigilant.2 answer _ ⟨raised, fun h => (hraised h).1, hreported, rfl⟩
  | note event next ih => exact ih hvigilant hconfined

namespace Crossing

/-- A crossing that only reads, at a moment when something was written or not. -/
theorem follows_discretion {c : Crossing α} {g : Conduct} {ok : α → Conduct → Prop}
    {failed : BridgeError → Conduct → Prop} (hvigilant : c.Follows (vigilance prefixes) ok failed g)
    (hconfined : Confined false fine c) (written : Bool) :
    c.Follows (discretion prefixes) (fun a d => ok a d.1 ∧ d.2 = written)
      (fun e d => failed e d.1 ∧ d.2 = written) (g, written) := by
  refine Program.follows_mono (fun outcome d h => ?_)
    (Program.follows_discretion hvigilant hconfined written)
  cases outcome with
  | ok a => exact h
  | error e => exact h

/-- At the end no error is pending, and after a failure nothing was written. -/
def Discreet (prefixes : List String) (c : Crossing α) : Prop :=
  c.Follows (discretion prefixes) (fun _ d => d.1 = .calm)
    (fun _ d => d.1.pending = false ∧ d.2 = false) (.calm, false)

/-- At the end no error is pending, and nothing was written. -/
def Reads (prefixes : List String) (c : Crossing α) : Prop :=
  c.Follows (discretion prefixes) (fun _ d => d = (.calm, false))
    (fun _ d => d.1.pending = false ∧ d.2 = false) (.calm, false)

theorem Tidy.reads {ctx : Context} {before : Multiset Ref} {c : Crossing α}
    {after : α → Multiset Ref} (h : Tidy ctx false prefixes before c after) :
    Reads prefixes c := by
  have hconfined : Confined false (fun _ => True) c := h.confined trivial
  refine follows_mono (fun a d hd => ?_) (fun e d hd => ?_)
    (follows_discretion h.vigilant hconfined false)
  · exact Prod.ext hd.1 hd.2
  · exact ⟨hd.1.cleared, hd.2⟩

theorem Reads.discreet {c : Crossing α} (h : Reads prefixes c) : Discreet prefixes c :=
  follows_mono (fun _ _ hd => congrArg Prod.fst hd) (fun _ _ hd => hd) h

namespace Discreet

/-- First reading, then more. -/
theorem after {c : Crossing α} {f : α → Crossing β} (hc : Reads prefixes c)
    (hf : ∀ a, Discreet prefixes (f a)) : Discreet prefixes (c >>= f) := by
  unfold Discreet
  rw [follows_bind]
  refine follows_mono (fun a d hd => ?_) (fun _ _ hd => hd) hc
  rw [hd]
  exact hf a

/-- Writing, and then what cannot fail. -/
theorem bind {c : Crossing α} {f : α → Crossing β} (hc : Discreet prefixes c)
    (hf : ∀ a written, (f a).Follows (discretion prefixes) (fun _ d => d.1 = .calm)
      (fun _ _ => False) (.calm, written)) : Discreet prefixes (c >>= f) := by
  unfold Discreet
  rw [follows_bind]
  refine follows_mono (fun a d hd => ?_) (fun _ _ hd => hd) hc
  rcases d with ⟨g, written⟩
  cases hd
  exact follows_mono (fun _ _ h => h) (fun _ _ h => h.elim) (hf a written)

theorem owningAll {refs : List Ref} {body : Crossing α} (h : Discreet prefixes body) :
    Discreet prefixes (owningAll refs body) := by
  have hreleased : ∀ (post : Unit → Conduct × Bool → Prop) (d : Conduct × Bool), post () d →
      (Program.releaseAll refs).Follows (discretion prefixes) post d := by
    intro post d hpost
    rcases d with ⟨g, written⟩
    have hquiet : (Program.releaseAll refs).Follows (vigilance prefixes) (fun _ g' => g' = g) g :=
      follows_released rfl
    have hreads : (Program.releaseAll refs).Follows (confinement false fun _ => True)
        (fun _ _ => True) () := Confined.follows_releaseAll refs trivial
    refine Program.follows_mono (fun _ d hd => ?_)
      (Program.follows_discretion hquiet hreads written)
    have hsame : d = (g, written) := Prod.ext hd.1 hd.2
    rw [hsame]
    exact hpost
  unfold Discreet
  rw [follows_owningAll]
  refine follows_mono (fun a d hd => ?_) (fun e d hd => ?_) h
  · exact hreleased _ d hd
  · exact hreleased _ d hd

theorem owning {ref : Ref} {body : Crossing α} (h : Discreet prefixes body) :
    Discreet prefixes (Crossing.owning ref body) :=
  owningAll h

end Discreet
end Crossing

namespace Context

open Crossing

variable (ctx : Context)

/-- A check of a value when nothing went wrong does not fail. -/
theorem follows_checkValue_of_calm (operation : Operation) (value : α) (written : Bool) :
    (ctx.checkValue operation (some value)).Follows (discretion prefixes)
      (fun _ d => d.1 = .calm) (fun _ _ => False) (.calm, written) := by
  have hcalm : (ctx.checkValue operation (some value)).Follows (vigilance prefixes)
      (fun _ g => g = .calm) (fun _ _ => False) .calm := by
    unfold checkValue
    apply follows_errorPending
    intro pending hpending
    cases hpending
    exact rfl
  have hconfined : Confined false (fun _ => True) (ctx.checkValue operation (some value)) :=
    ctx.confined_checkValue operation (some value)
  exact follows_mono (fun _ _ h => h.1) (fun _ _ h => h.1)
    (follows_discretion hcalm hconfined written)

/-- To write and check the answer is discreet. -/
theorem discreet_written {r : Request} {operation : Operation} {answerOf : r.Answer → Option α}
    (hwrites : r.writes = true) (hoperation : operation ∈ r.operations)
    (hrefused : ∀ answer, r.refused answer = (answerOf answer).isNone)
    (hstrict : ∀ answer raised, Occurrence.tolerated prefixes ⟨⟨r, answer⟩, raised⟩ = false) :
    Discreet prefixes (ask r >>= fun answer => ctx.checkValue operation (answerOf answer)) := by
  unfold Discreet
  rw [follows_bind, follows_ask]
  refine ⟨fun _ => rfl, ?_⟩
  rintro answer d ⟨raised, hraised, -, rfl⟩
  have hawaits := Conduct.awaits_calm.after prefixes hoperation answer raised (hstrict answer raised)
  have hwrote : r.wrote answer = (answerOf answer).isSome := by
    unfold Request.wrote
    rw [hwrites, hrefused answer, Option.not_isNone, Bool.true_and]
  rw [hrefused answer, Option.not_isNone] at hawaits
  rw [hwrote] at hraised ⊢
  cases hanswer : answerOf answer with
  | none =>
      rw [hanswer] at hawaits
      have hconfined : Confined false (fun _ => True) (ctx.checkValue operation (none : Option α)) :=
        ctx.confined_checkValue operation none
      refine follows_mono (fun _ _ h => h.1) (fun _ _ h => ?_)
        (follows_discretion (ctx.follows_checkValue hawaits) hconfined false)
      exact ⟨h.1.cleared, h.2⟩
  | some value =>
      rw [hanswer] at hawaits hraised
      cases raised with
      | true => exact absurd (hraised rfl).2 nofun
      | false =>
          have hquiet : (Conduct.calm.after prefixes ⟨⟨r, answer⟩, false⟩).pending = false := by
            cases r with
            | _ => rfl
          rw [hawaits.good hquiet rfl]
          exact follows_mono (fun _ _ h => h) (fun _ _ h => h.elim)
            (ctx.follows_checkValue_of_calm operation value _)

theorem discreet_setAttr (target : Ref) (name : String) (value : Ref) :
    Discreet prefixes (ctx.setAttr target name value) := by
  unfold setAttr
  have hnote : Tidy ctx false prefixes 0 (note (.settingAttr target name)) fun _ => 0 :=
    Tidy.note rfl
  apply Discreet.after hnote.reads
  intro _
  exact ctx.discreet_written rfl List.mem_cons_self not_eq_isNone fun _ _ => rfl

theorem discreet_setItem (target : Ref) (arguments : List Value) (value : Ref) :
    Discreet prefixes (ctx.setItem target arguments value) := by
  unfold setItem
  have hnote : Tidy ctx false prefixes 0 (note (.settingItem target)) fun _ => 0 := Tidy.note rfl
  apply Discreet.after (ctx.tidy_keyToForeign arguments).reads
  intro key
  apply Discreet.owning
  apply Discreet.after hnote.reads
  intro _
  exact ctx.discreet_written rfl List.mem_cons_self not_eq_isNone fun _ _ => rfl

theorem discreet_assign (target : Ref) (value : Value) (link : Accessor) :
    Discreet prefixes (ctx.assign target value link) := by
  have hindexed : ∀ arguments : List Value,
      Discreet prefixes (ctx.assign target value (.index arguments)) := by
    intro arguments
    have hlook : Tidy ctx false prefixes 0 (ask (.supportsIndexing target)) fun _ => 0 :=
      Tidy.look rfl
    apply Discreet.after hlook.reads
    intro indexing
    cases indexing with
    | true =>
        apply Discreet.after (ctx.tidy_toForeign value).reads
        intro ref
        exact Discreet.owning (ctx.discreet_setItem target arguments ref)
    | false =>
        have hrefused : Tidy ctx false prefixes 0
            (refuseKind target .notAssignable : Crossing Unit) fun _ => 0 :=
          ctx.tidy_refuseKind target _
        exact hrefused.reads.discreet
  cases link with
  | field name =>
      apply Discreet.after (ctx.tidy_toForeign value).reads
      intro ref
      exact Discreet.owning (ctx.discreet_setAttr target name ref)
  | call arguments => exact hindexed arguments
  | index arguments => exact hindexed arguments

/-- To hand the root of a chain back to the host cannot fail. -/
theorem follows_acquire (root : Handle) (written : Bool) :
    (acquire root >>= fun _ => pure root).Follows (discretion prefixes) (fun _ d => d.1 = .calm)
      (fun _ _ => False) (.calm, written) := by
  have hcalm : (acquire root >>= fun _ => pure root).Follows (vigilance prefixes)
      (fun _ g => g = .calm) (fun _ _ => False) .calm := by
    unfold acquire
    rw [bind_assoc, follows_bind]
    exact follows_quiet rfl rfl fun _ _ => rfl
  have hconfined : Confined false (fun _ => True) (acquire root >>= fun _ => pure root) := by
    unfold acquire
    rw [bind_assoc]
    exact Confined.bind (Confined.look rfl) fun _ => Confined.pure
  exact follows_mono (fun _ _ h => h.1) (fun _ _ h => h.1)
    (follows_discretion hcalm hconfined written)

theorem discreet_assignChain (root : Handle) (chain : List Accessor) (value : Value) :
    Discreet prefixes (ctx.assignChain root chain value) := by
  unfold assignChain
  cases chain.getLast? with
  | none =>
      have hthrow : Tidy ctx false prefixes 0
          (throw (.unsupported .noIndex) : Crossing Handle) fun _ => 0 :=
        Tidy.throw fun _ _ h => by cases h
      exact hthrow.reads.discreet
  | some last =>
      apply Discreet.after (ctx.tidy_acquire root).reads
      intro target
      apply Discreet.after (ctx.tidy_walk target chain.dropLast).reads
      intro target
      apply Discreet.owning
      apply Discreet.bind (ctx.discreet_assign target value last)
      intro _ written
      exact follows_acquire root written

/-- A request of the host that fails has written nothing. -/
theorem discreet_serve (entry : Entry) : Discreet entry.longerPrefixes (ctx.serve entry) := by
  cases entry with
  | setField on field value =>
      apply Discreet.after (ctx.tidy_resolve on).reads
      intro target
      apply Discreet.owning
      apply Discreet.after (ctx.tidy_toForeign value).reads
      intro ref
      apply Discreet.bind (Discreet.owning (ctx.discreet_setAttr target field ref))
      intro _ written
      exact rfl
  | assign root chain value =>
      apply Discreet.after (ctx.tidy_requireOwn root).reads
      intro _
      apply Discreet.bind (ctx.discreet_assignChain root chain value)
      intro h written
      exact rfl
  | importModule name => exact (ctx.tidy_serve (.importModule name)).reads.discreet
  | construct module className arguments =>
      exact (ctx.tidy_serve (.construct module className arguments)).reads.discreet
  | invoke on method arguments =>
      exact (ctx.tidy_serve (.invoke on method arguments)).reads.discreet
  | getField on field => exact (ctx.tidy_serve (.getField on field)).reads.discreet
  | read root chain => exact (ctx.tidy_serve (.read root chain)).reads.discreet
  | members h => exact (ctx.tidy_serve (.members h)).reads.discreet

/-- A request of the host for something that is read writes nothing. -/
theorem reads_serve {entry : Entry} (hreads : entry.writes = false) :
    Reads entry.longerPrefixes (ctx.serve entry) := by
  have htidy := ctx.tidy_serve entry
  rw [hreads] at htidy
  exact htidy.reads

end Context
end ForeignBridge
