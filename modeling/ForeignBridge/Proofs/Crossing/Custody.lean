import ForeignBridge.Proofs.Crossing.Ownership

/-!
# Custody

Whatever a program mentions in a request it has in its custody: it holds a reference to the object,
or somebody lends one for the time of the conversation.  What it gives back it holds itself.

A runtime is firm if it calls no object a sequence that it called something else before.  With such a
runtime a conversation is never broken off, because the host converts too deep only if the runtime
contradicts itself.
-/

namespace ForeignBridge

variable {α β : Type}

/-- The references that a request is about. -/
def Request.mentions : Request → List Ref
  | kindOf object | numericKind object | typeName object | memberNames object | isCallable object
  | supportsIndexing object | intValue object | floatValue object | boolValue object
  | stringBytes object | sequenceLength object | sequenceItem object _ | getAttr object _
  | retain object | release object => [object]
  | null | newScalar _ | newString _ | importModule _ | errorPending | takeError => []
  | newTuple items => items
  | setAttr object _ value => [object, value]
  | call callable arguments => [callable, arguments]
  | getItem object key => [object, key]
  | setItem object key value => [object, key, value]

/-- The objects that an answer says to be no sequences. -/
def Request.tells : (r : Request) → r.Answer → Ref → Prop
  | kindOf object, kind, ref => ref = object ∧ kind ≠ .sequence
  | _, _, _ => False

/-- An answer by which an object that was no sequence is one. -/
def Request.contradicts (plain : Ref → Prop) : (r : Request) → r.Answer → Prop
  | kindOf object, kind => kind = .sequence ∧ plain object
  | _, _ => False

/-- What a program holds at a moment, and the objects that it was told to be no sequences. -/
structure Holding where
  held : Multiset Ref
  plain : Ref → Prop

/-- The conversation of a program that mentions what it holds and what is lent to it throughout. -/
def custody (firm : Bool) (own : Ref → Prop) : Protocol Holding where
  allows g r := (∀ ref ∈ r.returned, ref ∈ g.held) ∧ ∀ ref ∈ r.mentions, ref ∈ g.held ∨ own ref
  next g r answer g' := ownership.next g.held r answer g'.held ∧
    (g'.plain = fun ref => g.plain ref ∨ r.tells answer ref) ∧
    (firm = true → ¬ r.contradicts g.plain answer)
  breaksOff _ := firm = false

/-- The references that are lent to a crossing, and the objects known to be no sequences. -/
structure Surroundings where
  lent : Ref → Prop
  plain : Ref → Prop

namespace Surroundings

def lending (env : Surroundings) (refs : List Ref) : Surroundings :=
  ⟨fun ref => ref ∈ refs ∨ env.lent ref, env.plain⟩

def knowing (env : Surroundings) (object : Ref) : Surroundings :=
  ⟨env.lent, fun ref => ref = object ∨ env.plain ref⟩

/-- More is lent and known. -/
structure Within (env env' : Surroundings) : Prop where
  lent : ∀ ref, env.lent ref → env'.lent ref
  plain : ∀ ref, env.plain ref → env'.plain ref

variable (env : Surroundings)

theorem within_lending (refs : List Ref) : env.Within (env.lending refs) :=
  ⟨fun _ h => .inr h, fun _ h => h⟩

theorem within_knowing (object : Ref) : env.Within (env.knowing object) :=
  ⟨fun _ h => h, fun _ h => .inr h⟩

theorem lent_of_mem {refs : List Ref} {ref : Ref} (href : ref ∈ refs) :
    (env.lending refs).lent ref := .inl href

theorem lent_self (ref : Ref) : (env.lending [ref]).lent ref := env.lent_of_mem List.mem_cons_self

end Surroundings

variable {firm : Bool} {own : Ref → Prop} {env env' : Surroundings}

theorem Program.follows_returning {refs : List Ref} {post : Unit → Holding → Prop}
    {frame : Multiset Ref} {plain : Ref → Prop} {g : Holding}
    (hheld : g.held = (refs : Multiset Ref) + frame) (hplain : g.plain = plain)
    (hpost : post () ⟨frame, plain⟩) : (releaseAll refs).Follows (custody firm own) post g := by
  induction refs generalizing g with
  | nil =>
      have hframe : g = ⟨frame, plain⟩ := by
        rw [← hplain, ← zero_add frame, ← Multiset.coe_nil, ← hheld]
      rw [hframe]
      exact hpost
  | cons ref rest ih =>
      have hmem : ref ∈ g.held := by
        rw [hheld]
        simp
      refine ⟨⟨?_, ?_⟩, fun answer g' hnext => ?_⟩
      · intro other hother
        rw [← Option.some.inj hother]
        exact hmem
      · intro other hother
        rw [List.mem_singleton.1 hother]
        exact .inl hmem
      · rcases hnext with ⟨hholds, htold, -⟩
        apply ih
        · have hcons : (([ref] : List Ref) : Multiset Ref) + g'.held =
              ([ref] : List Ref) + ((rest : Multiset Ref) + frame) := by
            rw [← add_assoc, Multiset.coe_add]
            calc (([ref] : List Ref) : Multiset Ref) + g'.held = 0 + g.held := hholds
              _ = _ := by rw [zero_add, hheld]; rfl
          exact add_left_cancel hcons
        · rw [htold, ← hplain]
          exact funext fun other => propext (or_iff_left not_false)

namespace Crossing

/-- A crossing takes over the references `before` and holds those of its result if it succeeds and
none if it fails; what it mentions in between is held or lent. -/
def Custody (firm : Bool) (own : Ref → Prop) (env : Surroundings) (before : Multiset Ref)
    (c : Crossing α) (after : α → Multiset Ref) : Prop :=
  ∀ (frame : Multiset Ref) (plain : Ref → Prop),
    (∀ ref, env.lent ref → ref ∈ frame ∨ own ref) → (∀ ref, env.plain ref → plain ref) →
    c.Follows (custody firm own)
      (fun a g => g.held = after a + frame ∧ ∀ ref, plain ref → g.plain ref)
      (fun _ g => g.held = frame) ⟨before + frame, plain⟩

namespace Custody

variable {before : Multiset Ref} {middle after : α → Multiset Ref}

theorem of_eq {before' : Multiset Ref} {after' : α → Multiset Ref} {c : Crossing α}
    (h : Custody firm own env before c after) (hbefore : before' = before)
    (hafter : ∀ a, after a = after' a) : Custody firm own env before' c after' := by
  intro frame plain hlent hknown
  rw [hbefore]
  refine follows_mono (fun a g hg => ?_) (fun e g hg => hg) (h frame plain hlent hknown)
  rw [← hafter a]
  exact hg

theorem mono {c : Crossing α} (h : Custody firm own env before c after) (hwithin : env.Within env') :
    Custody firm own env' before c after := fun frame plain hlent hknown =>
  h frame plain (fun ref href => hlent ref (hwithin.lent ref href))
    fun ref href => hknown ref (hwithin.plain ref href)

theorem pure {a : α} (h : before = after a) : Custody firm own env before (pure a) after := by
  intro frame plain _ _
  rw [follows_pure, h]
  exact ⟨rfl, fun _ href => href⟩

theorem throw {e : BridgeError} : Custody firm own env 0 (throw e) after := by
  intro frame plain _ _
  rw [follows_throw]
  exact zero_add frame

theorem note {event : Event} : Custody firm own env before (note event) fun _ => before :=
  fun _ _ _ _ => ⟨rfl, fun _ href => href⟩

theorem bind {after : β → Multiset Ref} {c : Crossing α} {f : α → Crossing β}
    (hc : Custody firm own env before c middle)
    (hf : ∀ a, Custody firm own env (middle a) (f a) after) :
    Custody firm own env before (c >>= f) after := by
  intro frame plain hlent hknown
  rw [follows_bind]
  refine follows_mono (fun a g hg => ?_) (fun e g hg => hg) (hc frame plain hlent hknown)
  rcases g with ⟨held, plain'⟩
  rcases hg with ⟨hheld, htold⟩
  rw [show held = _ from hheld]
  refine follows_mono (fun b g hg => ⟨hg.1, fun ref href => hg.2 ref (htold ref href)⟩)
    (fun e g hg => hg)
    (hf a frame plain' hlent fun ref href => htold ref (hknown ref href))

/-- A request about what is held or lent brings what comes with its answer. -/
theorem ask {r : Request} (hreturned : r.returned = none)
    (hmentions : ∀ ref ∈ r.mentions, ref ∈ before ∨ env.lent ref) :
    Custody firm own env before (ask r) fun answer => (r.acquired answer : Multiset Ref) + before := by
  intro frame plain hlent _
  rw [follows_ask]
  refine ⟨⟨?_, ?_⟩, ?_⟩
  · intro ref href
    rw [hreturned] at href
    cases href
  · intro ref href
    rcases hmentions ref href with hheld | hgiven
    · exact .inl (Multiset.mem_add.2 (.inl hheld))
    · rcases hlent ref hgiven with hframe | hown
      · exact .inl (Multiset.mem_add.2 (.inr hframe))
      · exact .inr hown
  · intro answer g hnext
    rcases hnext with ⟨hholds, htold, -⟩
    have hheld : (r.returned.toList : Multiset Ref) + g.held =
        (r.acquired answer : Multiset Ref) + (before + frame) := hholds
    rw [hreturned, Option.toList_none, Multiset.coe_nil, zero_add] at hheld
    refine ⟨by rw [hheld, add_assoc], fun ref href => ?_⟩
    rw [htold]
    exact .inl href

/-- A request for a new reference. -/
theorem obtain {r : Request} (hreturned : r.returned = none)
    (hmentions : ∀ ref ∈ r.mentions, env.lent ref) :
    Custody firm own env 0 (Crossing.ask r) fun answer => (r.acquired answer : Multiset Ref) :=
  (ask hreturned fun ref href => .inr (hmentions ref href)).of_eq rfl fun _ => add_zero _

/-- A request that only looks. -/
theorem look {r : Request} (hreturned : r.returned = none)
    (hacquired : ∀ answer, r.acquired answer = [])
    (hmentions : ∀ ref ∈ r.mentions, ref ∈ before ∨ env.lent ref) :
    Custody firm own env before (Crossing.ask r) fun _ => before := by
  refine (ask hreturned hmentions).of_eq rfl fun answer => ?_
  rw [hacquired answer, Multiset.coe_nil, zero_add]

/-- A question that is about no object. -/
theorem inquire {r : Request} (hreturned : r.returned = none)
    (hacquired : ∀ answer, r.acquired answer = []) (hmentions : r.mentions = []) :
    Custody firm own env before (Crossing.ask r) fun _ => before := by
  apply look hreturned hacquired
  rw [hmentions]
  exact nofun

theorem releaseAll {refs : List Ref} :
    Custody firm own env ((refs : Multiset Ref) + before) (releaseAll refs) fun _ => before := by
  intro frame plain _ _
  rw [Crossing.follows_releaseAll]
  exact Program.follows_returning (add_assoc _ _ _) rfl ⟨rfl, fun _ href => href⟩

/-- What a crossing gives back in the end is lent to its body. -/
theorem lent_frame {refs : List Ref} {frame : Multiset Ref}
    (hlent : ∀ ref, env.lent ref → ref ∈ frame ∨ own ref) (ref : Ref)
    (href : (env.lending refs).lent ref) : ref ∈ (refs : Multiset Ref) + frame ∨ own ref := by
  rcases href with hmem | hgiven
  · exact .inl (Multiset.mem_add.2 (.inl hmem))
  · rcases hlent ref hgiven with hframe | hown
    · exact .inl (Multiset.mem_add.2 (.inr hframe))
    · exact .inr hown

theorem owningAll (refs : List Ref) {body : Crossing α}
    (hbody : Custody firm own (env.lending refs) before body after) :
    Custody firm own env ((refs : Multiset Ref) + before) (owningAll refs body) after := by
  intro frame plain hlent hknown
  have hframe : (refs : Multiset Ref) + before + frame = before + (refs + frame) := by abel
  rw [follows_owningAll, hframe]
  refine follows_mono (fun a g hg => ?_) (fun e g hg => ?_)
    (hbody (refs + frame) plain (lent_frame hlent) hknown)
  · refine Program.follows_returning (hg.1.trans (add_left_comm _ _ _)) rfl ⟨rfl, hg.2⟩
  · exact Program.follows_returning hg rfl rfl

theorem owning {ref : Ref} {body : Crossing α}
    (hbody : Custody firm own (env.lending [ref]) before body after) :
    Custody firm own env ({ref} + before) (Crossing.owning ref body) after :=
  owningAll [ref] hbody

/-- A crossing that gives one reference back and needs no other. -/
theorem owning_only {ref : Ref} {body : Crossing α}
    (hbody : Custody firm own (env.lending [ref]) 0 body after) :
    Custody firm own env {ref} (Crossing.owning ref body) after :=
  of_eq (owning hbody) (add_zero _).symm fun _ => rfl

theorem keeping (refs : List Ref) {body : Crossing α}
    (hbody : Custody firm own (env.lending refs) before body after) :
    Custody firm own env ((refs : Multiset Ref) + before) (keeping refs body)
      fun a => refs + after a := by
  intro frame plain hlent hknown
  have hframe : (refs : Multiset Ref) + before + frame = before + (refs + frame) := by abel
  rw [follows_keeping, hframe]
  refine follows_mono (fun a g hg => ?_) (fun e g hg => ?_)
    (hbody (refs + frame) plain (lent_frame hlent) hknown)
  · refine ⟨?_, hg.2⟩
    rw [hg.1, add_left_comm, add_assoc]
  · exact Program.follows_returning hg rfl rfl

theorem keeping_only (refs : List Ref) {body : Crossing α}
    (hbody : Custody firm own (env.lending refs) 0 body after) :
    Custody firm own env (refs : Multiset Ref) (Crossing.keeping refs body)
      fun a => refs + after a :=
  of_eq (keeping refs hbody) (add_zero _).symm fun _ => rfl

/-- What follows the question for the kind of an object knows the answer. -/
theorem kindOf_bind {object : Ref} {f : ForeignKind → Crossing α}
    (hobject : object ∈ before ∨ env.lent object)
    (hsequence : ¬ (firm = true ∧ env.plain object) →
      Custody firm own env before (f .sequence) after)
    (hplain : ∀ kind, kind ≠ .sequence →
      Custody firm own (env.knowing object) before (f kind) after) :
    Custody firm own env before (Crossing.ask (.kindOf object) >>= f) after := by
  intro frame plain hlent hknown
  have hmention : object ∈ before + frame ∨ own object := by
    rcases hobject with hheld | hgiven
    · exact .inl (Multiset.mem_add.2 (.inl hheld))
    · rcases hlent object hgiven with hframe | hown
      · exact .inl (Multiset.mem_add.2 (.inr hframe))
      · exact .inr hown
  rw [follows_bind, follows_ask]
  refine ⟨⟨nofun, fun ref href => ?_⟩, fun kind g hnext => ?_⟩
  · rw [List.mem_singleton.1 href]
    exact hmention
  · rcases g with ⟨held, plain'⟩
    rcases hnext with ⟨hholds, htold, hfirm⟩
    have hheld : held = before + frame := by
      have hsame : (0 : Multiset Ref) + held = 0 + (before + frame) := hholds
      rw [zero_add, zero_add] at hsame
      exact hsame
    have hgrows : ∀ ref, plain ref → plain' ref := by
      intro ref href
      rw [show plain' = _ from htold]
      exact .inl href
    have hafter : ∀ env' : Surroundings, (∀ ref, env'.lent ref → env.lent ref) →
        (∀ ref, env'.plain ref → plain' ref) → Custody firm own env' before (f kind) after →
        (f kind).Follows (custody firm own)
          (fun a g => g.held = after a + frame ∧ ∀ ref, plain ref → g.plain ref)
          (fun _ g => g.held = frame) ⟨held, plain'⟩ := by
      intro env' hlent' hknown' hf
      rw [hheld]
      exact follows_mono (fun a g hg => ⟨hg.1, fun ref href => hg.2 ref (hgrows ref href)⟩)
        (fun e g hg => hg) (hf frame plain' (fun ref href => hlent ref (hlent' ref href)) hknown')
    by_cases hkind : kind = .sequence
    · apply hafter env (fun _ href => href) fun ref href => hgrows ref (hknown ref href)
      rw [hkind]
      apply hsequence
      rintro ⟨hisFirm, hknows⟩
      exact hfirm hisFirm ⟨hkind, hknown object hknows⟩
    · refine hafter (env.knowing object) (fun _ href => href) (fun ref href => ?_)
        (hplain kind hkind)
      rcases href with hobject | hknows
      · rw [show plain' = _ from htold]
        exact .inr ⟨hobject, hkind⟩
      · exact hgrows ref (hknown ref hknows)

/-- One new reference for each element, all of them or none. -/
theorem acquireEach {acquire : β → Crossing Ref}
    {xs : List β} (hacquire : ∀ x ∈ xs, Custody firm own env 0 (acquire x) fun ref => {ref}) :
    Custody firm own env 0 (acquireEach acquire xs) fun refs => (refs : Multiset Ref) := by
  induction xs with
  | nil => exact pure rfl
  | cons x xs ih =>
      have hrest := ih fun other hother => hacquire other (List.mem_cons_of_mem x hother)
      apply bind (hacquire x List.mem_cons_self)
      intro ref
      apply bind (keeping_only [ref] (hrest.mono (env.within_lending [ref])))
      intro refs
      exact pure rfl

theorem mapM {f : β → Crossing α} {xs : List β}
    (hf : ∀ x ∈ xs, Custody firm own env 0 (f x) fun _ => 0) :
    Custody firm own env 0 (xs.mapM f) fun _ => 0 := by
  induction xs with
  | nil => exact pure rfl
  | cons x xs ih =>
      rw [List.mapM_cons]
      apply bind (hf x List.mem_cons_self)
      intro a
      apply bind (ih fun other hother => hf other (List.mem_cons_of_mem x hother))
      intro rest
      exact pure rfl

end Custody
end Crossing

namespace Context

open Crossing

variable (ctx : Context)

/-!
# Parts
-/

theorem custody_fail (operation : Operation) (diagnostic : Option Diagnostic)
    {after : α → Multiset Ref} : Custody firm own env 0 (ctx.fail operation diagnostic) after := by
  unfold fail
  cases ctx.settings.debug with
  | false => exact Custody.throw
  | true => exact Custody.bind Custody.note fun _ => Custody.throw

theorem custody_checkRef (operation : Operation) (answer : Option Ref) :
    Custody firm own env (answer.toList : Multiset Ref) (ctx.checkRef operation answer)
      fun ref => {ref} := by
  unfold checkRef
  apply Custody.bind (Custody.inquire rfl (fun _ => rfl) rfl)
  intro pending
  cases pending with
  | true =>
      apply Custody.bind (Custody.inquire rfl (fun _ => rfl) rfl)
      intro diagnostic
      apply Custody.bind (Custody.releaseAll.of_eq (add_zero _).symm fun _ => rfl)
      intro _
      exact ctx.custody_fail operation diagnostic
  | false =>
      cases answer with
      | some ref => exact Custody.pure rfl
      | none => exact ctx.custody_fail operation none

theorem custody_checkValue (operation : Operation) (answer : Option α) :
    Custody firm own env 0 (ctx.checkValue operation answer) fun _ => 0 := by
  unfold checkValue
  apply Custody.bind (Custody.inquire rfl (fun _ => rfl) rfl)
  intro pending
  cases pending with
  | true =>
      apply Custody.bind (Custody.inquire rfl (fun _ => rfl) rfl)
      intro diagnostic
      exact ctx.custody_fail operation diagnostic
  | false =>
      cases answer with
      | some value => exact Custody.pure rfl
      | none => exact ctx.custody_fail operation none

/-- A request for a new reference, with the check of its answer. -/
theorem custody_checkedRef {r : Request} {operation : Operation} {answerOf : r.Answer → Option Ref}
    (hreturned : r.returned = none) (hmentions : ∀ ref ∈ r.mentions, env.lent ref)
    (hacquired : ∀ answer, r.acquired answer = (answerOf answer).toList) :
    Custody firm own env 0 (ask r >>= fun answer => ctx.checkRef operation (answerOf answer))
      fun ref => {ref} := by
  apply Custody.bind (Custody.obtain hreturned hmentions)
  intro answer
  rw [hacquired answer]
  exact ctx.custody_checkRef operation (answerOf answer)

theorem custody_clearError {held : Multiset Ref} :
    Custody firm own env held clearError fun _ => held := by
  unfold clearError
  apply Custody.bind (Custody.inquire rfl (fun _ => rfl) rfl)
  intro pending
  cases pending with
  | true => exact Custody.inquire rfl (fun _ => rfl) rfl
  | false => exact Custody.pure rfl

theorem custody_refuse (fault : ConversionFault) {after : α → Multiset Ref} :
    Custody firm own env 0 (refuse fault) after := Custody.throw

theorem custody_wrap (object : Ref) :
    Custody firm own env {object} (ctx.wrap object) fun h => {h.ref} := by
  unfold wrap
  apply Custody.bind (Custody.look rfl (fun _ => rfl) fun ref href => ?_)
  · intro name
    apply Custody.bind custody_clearError
    intro _
    exact Custody.pure rfl
  · rw [List.mem_singleton.1 href]
    exact .inl (Multiset.mem_singleton_self object)

theorem custody_extractionFailed (value : Option Int) :
    Custody firm own env 0 (extractionFailed value) fun _ => 0 := by
  unfold extractionFailed
  cases value with
  | none => exact Custody.inquire rfl (fun _ => rfl) rfl
  | some _ => exact Custody.pure rfl

section Looking

variable {object : Ref} (hobject : env.lent object)

include hobject

/-- A look at an object that is lent. -/
theorem custody_look {held : Multiset Ref} {r : Request} (hreturned : r.returned = none)
    (hacquired : ∀ answer, r.acquired answer = []) (hmentions : r.mentions = [object]) :
    Custody firm own env held (ask r) fun _ => held := by
  apply Custody.look hreturned hacquired
  intro ref href
  rw [hmentions] at href
  rw [List.mem_singleton.1 href]
  exact .inr hobject

theorem custody_integerToHost :
    Custody firm own env 0 (ctx.integerToHost object) fun _ => 0 := by
  unfold integerToHost
  apply Custody.bind (custody_look hobject rfl (fun _ => rfl) rfl)
  intro hint
  apply Custody.bind (custody_look hobject rfl (fun _ => rfl) rfl)
  intro value
  apply Custody.bind (custody_extractionFailed value)
  intro failed
  cases failed with
  | true =>
      apply Custody.bind (Custody.inquire rfl (fun _ => rfl) rfl)
      intro diagnostic
      exact Custody.throw
  | false =>
      apply Custody.bind (ctx.custody_checkValue .packInteger value)
      intro value
      cases HostInt.ofInt ((hint.filter NumericKind.isInteger).getD .int64) value with
      | ok i => exact Custody.pure rfl
      | error fault => exact Custody.throw

theorem custody_floatToHost :
    Custody firm own env 0 (ctx.floatToHost object) fun _ => 0 := by
  unfold floatToHost
  apply Custody.bind (custody_look hobject rfl (fun _ => rfl) rfl)
  intro hint
  apply Custody.bind (custody_look hobject rfl (fun _ => rfl) rfl)
  intro value
  apply Custody.bind (ctx.custody_checkValue .packFloat (some value))
  intro value
  cases HostFloat.ofDouble ((hint.filter NumericKind.isFloat).getD .double) value with
  | ok x => exact Custody.pure rfl
  | error fault => exact Custody.throw

theorem custody_textToHost :
    Custody firm own env 0 (ctx.textToHost object) fun _ => 0 := by
  unfold textToHost
  apply Custody.bind (custody_look hobject rfl (fun _ => rfl) rfl)
  intro answer
  cases answer with
  | none =>
      apply Custody.bind custody_clearError
      intro diagnostic
      exact custody_refuse _
  | some bytes =>
      apply Custody.bind (ctx.custody_checkValue .packString (some bytes))
      intro bytes
      cases Utf8.decode bytes with
      | ok text => exact Custody.pure rfl
      | error fault => exact custody_refuse _

end Looking

theorem custody_tryImport (name : String) :
    Custody firm own env 0 (tryImport name) fun found => (found.toList : Multiset Ref) := by
  unfold tryImport
  apply Custody.bind (Custody.obtain rfl fun ref href => absurd href List.not_mem_nil)
  intro found
  apply Custody.bind custody_clearError
  intro pending
  cases pending with
  | some diagnostic =>
      apply Custody.bind (Custody.releaseAll.of_eq (add_zero _).symm fun _ => rfl)
      intro _
      apply Custody.bind Custody.note
      intro _
      exact Custody.pure rfl
  | none => exact Custody.pure rfl

end Context
end ForeignBridge
