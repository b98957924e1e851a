import ForeignBridge.Proofs.Crossing.Operands

/-!
# Abstinence

A function runs only when something is called.  The host has requests and links for that, and what is
asked of a runtime for any other request is no call: neither to import, to convert, to look up nor to
write.  Functions that do not return can be in the way of a call only.

What a program asks is a property of its tree.  If the program follows a protocol, it therefore follows the
one in which nothing else is in order, too.
-/

namespace ForeignBridge

variable {α β γ : Type}

/-- The requests in which functions run. -/
def Request.calls : Request → Bool
  | call _ _ => true
  | _ => false

/-- The links that call what can be called. -/
def Accessor.calls : Accessor → Bool
  | .call _ => true
  | .field _ | .index _ => false

/-- The requests of the host that may call something.  The last link of a write calls nothing. -/
def Entry.calls : Entry → Bool
  | .construct _ _ _ | .invoke _ _ _ => true
  | .read _ chain => chain.any Accessor.calls
  | .assign _ chain _ => chain.dropLast.any Accessor.calls
  | .importModule _ | .getField _ _ | .setField _ _ _ | .members _ => false

/-- The conversation of a program that asks some requests only. -/
def asking (allowed : Request → Prop) : Protocol Unit where
  allows _ r := allowed r
  next _ _ _ _ := True
  breaksOff _ := True

/-- The conversation of a protocol in which some requests only are in order. -/
def Protocol.restrict (P : Protocol γ) (allowed : Request → Prop) : Protocol γ where
  allows g r := P.allows g r ∧ allowed r
  next := P.next
  breaksOff := P.breaksOff

/-- A program that follows a protocol and asks some requests only does both at once. -/
theorem Program.Follows.restrict {P : Protocol γ} {allowed : Request → Prop} {p : Program α}
    {post : α → γ → Prop} {post' : α → Unit → Prop} {g : γ} (h : p.Follows P post g)
    (hasks : p.Follows (asking allowed) post' ()) : p.Follows (P.restrict allowed) post g := by
  induction p generalizing g with
  | done result => exact h
  | abort panic => exact h
  | ask r next ih =>
      exact ⟨⟨h.1, hasks.1⟩, fun answer g' hnext => ih answer (h.2 answer g' hnext)
        (hasks.2 answer () trivial)⟩
  | note event next ih => exact ih h hasks

namespace Crossing

/-- A crossing asks some requests only. -/
def Asks (allowed : Request → Prop) (c : Crossing α) : Prop :=
  c.Follows (asking allowed) (fun _ _ => True) (fun _ _ => True) ()

theorem Asks.mono {allowed allowed' : Request → Prop} (himp : ∀ r, allowed r → allowed' r)
    {c : Crossing α} (h : c.Asks allowed) : c.Asks allowed' := by
  have hprogram : ∀ (p : Program (Except BridgeError α)) post,
      p.Follows (asking allowed) post () → p.Follows (asking allowed') post () := by
    intro p post hp
    induction p with
    | done result => exact hp
    | abort panic => exact hp
    | ask r next ih => exact ⟨himp r hp.1, fun answer _ _ => ih answer (hp.2 answer () trivial)⟩
    | note event next ih => exact ih hp
  exact hprogram c.run _ h

/-- Where all requests are allowed, nothing has to be known of a crossing. -/
theorem asks_of_forall {allowed : Request → Prop} (hall : ∀ r, allowed r) (c : Crossing α) :
    c.Asks allowed := by
  have hprogram : ∀ (p : Program (Except BridgeError α)) (post : _ → Unit → Prop),
      (∀ a, post a ()) → p.Follows (asking allowed) post () := by
    intro p post hpost
    induction p with
    | done result => exact hpost result
    | abort panic => trivial
    | ask r next ih => exact ⟨hall r, fun answer _ _ => ih answer⟩
    | note event next ih => exact ih
  refine hprogram c.run _ fun outcome => ?_
  cases outcome with
  | ok _ | error _ => trivial

/-- A crossing calls nothing. -/
def Abstains (c : Crossing α) : Prop := c.Asks fun r => r.calls = false

theorem abstains_released {refs : List Ref} {post : Unit → Unit → Prop} (h : post () ()) :
    (Program.releaseAll refs).Follows (asking fun r => r.calls = false) post () := by
  induction refs with
  | nil => exact h
  | cons ref rest ih => exact ⟨rfl, fun _ _ _ => ih⟩

namespace Abstains

theorem pure {a : α} : Abstains (pure a : Crossing α) := trivial

theorem throw {e : BridgeError} : Abstains (throw e : Crossing α) := trivial

theorem note {event : Event} : Abstains (note event) := trivial

theorem ask {r : Request} (h : r.calls = false) : Abstains (ask r) := by
  unfold Abstains Asks
  rw [follows_ask]
  exact ⟨h, fun _ _ _ => trivial⟩

theorem bind {c : Crossing α} {f : α → Crossing β} (hc : Abstains c) (hf : ∀ a, Abstains (f a)) :
    Abstains (c >>= f) := by
  unfold Abstains Asks
  rw [follows_bind]
  exact follows_mono (fun a _ _ => hf a) (fun _ _ h => h) hc

theorem owningAll {refs : List Ref} {body : Crossing α} (hbody : Abstains body) :
    Abstains (owningAll refs body) := by
  unfold Abstains Asks
  rw [follows_owningAll]
  exact follows_mono (fun _ _ _ => abstains_released trivial) (fun _ _ _ => abstains_released trivial)
    hbody

/-- A call takes operands. -/
theorem of_spends {c : Crossing α} (h : Spends 0 c) : Abstains c := by
  refine h.follows (fun _ r hidle => ?_) (fun _ => trivial) ()
  cases r with
  | call _ _ => cases hidle
  | _ => rfl

end Abstains
end Crossing

namespace Context

open Crossing

variable (ctx : Context)

theorem abstains_checkStatus (operation : Operation) (ok : Bool) :
    Abstains (ctx.checkStatus operation ok) := .of_spends (ctx.spends_checkValue operation _)

theorem abstains_setAttr (target : Ref) (name : String) (value : Ref) :
    Abstains (ctx.setAttr target name value) := by
  apply Abstains.bind .note
  intro _
  exact .bind (.ask rfl) fun ok => ctx.abstains_checkStatus .setField ok

theorem abstains_getItem (target : Ref) (arguments : List Value) :
    Abstains (ctx.getItem target arguments) := by
  apply Abstains.bind (.of_spends (ctx.spends_keyToForeign arguments))
  intro key
  apply Abstains.owningAll
  apply Abstains.bind .note
  intro _
  exact .bind (.ask rfl) fun answer => .of_spends (ctx.spends_checkRef .index answer)

theorem abstains_setItem (target : Ref) (arguments : List Value) (value : Ref) :
    Abstains (ctx.setItem target arguments value) := by
  apply Abstains.bind (.of_spends (ctx.spends_keyToForeign arguments))
  intro key
  apply Abstains.owningAll
  apply Abstains.bind .note
  intro _
  exact .bind (.ask rfl) fun ok => ctx.abstains_checkStatus .assignIndex ok

theorem abstains_step (target : Ref) {link : Accessor} (hlink : link.calls = false) :
    Abstains (ctx.step target link) := by
  cases link with
  | field name => exact .of_spends (ctx.spends_getAttr target name)
  | call arguments => cases hlink
  | index arguments =>
      apply Abstains.bind (.ask rfl)
      intro indexing
      cases indexing with
      | true => exact ctx.abstains_getItem target arguments
      | false => exact .of_spends (spends_refuseKind target _)

theorem abstains_walk (target : Ref) {links : List Accessor} (hlinks : links.any Accessor.calls = false) :
    Abstains (ctx.walk target links) := by
  induction links generalizing target with
  | nil => exact .pure
  | cons link links ih =>
      rw [List.any_cons, Bool.or_eq_false_iff] at hlinks
      exact .bind (.owningAll (ctx.abstains_step target hlinks.1)) fun next => ih next hlinks.2

theorem abstains_assign (target : Ref) (value : Value) (link : Accessor) :
    Abstains (ctx.assign target value link) := by
  have hvalue : Abstains (ctx.toForeign value) := .of_spends (ctx.spends_toForeign value)
  have hindexed : ∀ arguments, Abstains (ctx.assign target value (.index arguments)) := by
    intro arguments
    apply Abstains.bind (.ask rfl)
    intro indexing
    cases indexing with
    | true => exact .bind hvalue fun ref => .owningAll (ctx.abstains_setItem target arguments ref)
    | false => exact .of_spends (spends_refuseKind target _)
  cases link with
  | field name => exact .bind hvalue fun ref => .owningAll (ctx.abstains_setAttr target name ref)
  | call arguments => exact hindexed arguments
  | index arguments => exact hindexed arguments

/-- A request of the host that may not call anything asks for no call. -/
theorem abstains_serve {entry : Entry} (hentry : entry.calls = false) : Abstains (ctx.serve entry) := by
  have hresolve : ∀ on, Abstains (ctx.resolve on) := fun on => .of_spends (ctx.spends_resolve on)
  have hown : ∀ h, Abstains (ctx.requireOwn h) := fun h => .of_spends (ctx.spends_requireOwn h)
  have hacquire : ∀ h, Abstains (acquire h) := fun h => .of_spends (spends_acquire h)
  have hresult : ∀ found, Abstains (ctx.toHost found) := fun found => .of_spends (ctx.spends_toHost found)
  cases entry with
  | construct _ _ _ | invoke _ _ _ => cases hentry
  | importModule name =>
      apply Abstains.bind (.of_spends (ctx.spends_importModule name))
      intro module
      exact .bind (.of_spends (ctx.spends_wrap module)) fun _ => .pure
  | getField on field =>
      apply Abstains.bind (hresolve on)
      intro target
      apply Abstains.owningAll
      apply Abstains.bind (.of_spends (ctx.spends_getAttr target field))
      intro found
      exact .bind (hresult found) fun _ => .pure
  | setField on field value =>
      apply Abstains.bind (hresolve on)
      intro target
      apply Abstains.owningAll
      apply Abstains.bind (.of_spends (ctx.spends_toForeign value))
      intro ref
      exact .bind (.owningAll (ctx.abstains_setAttr target field ref)) fun _ => .pure
  | read root chain =>
      apply Abstains.bind (hown root)
      intro _
      refine Abstains.bind (.bind (hacquire root) fun target => ?_) fun _ => .pure
      cases chain with
      | nil => exact .pure
      | cons link links => exact .bind (ctx.abstains_walk target hentry) hresult
  | assign root chain value =>
      apply Abstains.bind (hown root)
      intro _
      refine Abstains.bind ?_ fun _ => .pure
      unfold assignChain
      cases chain.getLast? with
      | none => exact .throw
      | some last =>
          apply Abstains.bind (hacquire root)
          intro target
          apply Abstains.bind (ctx.abstains_walk target hentry)
          intro target
          apply Abstains.owningAll
          apply Abstains.bind (ctx.abstains_assign target value last)
          intro _
          exact .bind (hacquire root) fun _ => .pure
  | members h =>
      apply Abstains.bind (hown h)
      intro _
      refine Abstains.bind (.bind (.ask rfl) fun answer => ?_) fun _ => .pure
      exact .bind (.of_spends (ctx.spends_checkValue .members answer)) fun _ => .pure

end Context
end ForeignBridge
