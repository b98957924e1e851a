import ForeignBridge.Proofs.Chains.Places
import ForeignBridge.Proofs.Crossing.Operands

/-!
# Keys of lookups

A bridge looks an item up only by a key that it made for this lookup.  The key is an integer, and it is
not negative, so it never counts from the end.  Between making the key and using it the bridge only asks
whether an error is pending.

What a runtime does with other keys therefore makes no difference to any request of the host.
-/

namespace ForeignBridge

/-- The keys by which a request looks items up. -/
def Request.keys : Request → List Ref
  | getItem _ key | setItem _ key _ => [key]
  | _ => []

/-- The integer that counts from the beginning and was made last, if nothing else was asked since. -/
def Request.keyAfter (key : Option Ref) : (r : Request) → r.Answer → Option Ref
  | newScalar (.int i), answer => if 0 ≤ i.value then answer else none
  | errorPending, _ => key
  | _, _ => none

/-- The conversation of a program that looks items up only from the beginning. -/
def onward : Protocol (Option Ref) where
  allows known r := ∀ key ∈ r.keys, key ∈ known
  next known r answer known' := known' = r.keyAfter known answer
  breaksOff _ := True

variable {α β : Type}

namespace Crossing

/-- A crossing looks items up only from the beginning, whatever was made before it. -/
def Onward (c : Crossing α) : Prop :=
  ∀ known, c.Follows onward (fun _ _ => True) (fun _ _ => True) known

theorem onward_released {refs : List Ref} {post : Unit → Option Ref → Prop} {known : Option Ref}
    (h : ∀ known', post () known') : (Program.releaseAll refs).Follows onward post known := by
  induction refs generalizing known with
  | nil => exact h known
  | cons ref rest ih => exact ⟨nofun, fun _ _ _ => ih⟩

theorem onward_owned {refs : List Ref} {body : Crossing α} {known : Option Ref}
    (h : body.Follows onward (fun _ _ => True) (fun _ _ => True) known) :
    (owningAll refs body).Follows onward (fun _ _ => True) (fun _ _ => True) known := by
  rw [follows_owningAll]
  exact follows_mono (fun _ _ _ => onward_released fun _ => trivial)
    (fun _ _ _ => onward_released fun _ => trivial) h

namespace Onward

theorem pure {a : α} : Onward (pure a : Crossing α) := fun _ => trivial

theorem throw {e : BridgeError} : Onward (throw e : Crossing α) := fun _ => trivial

theorem note {event : Event} : Onward (note event) := fun _ => trivial

theorem ask {r : Request} (h : r.keys = []) : Onward (ask r) := by
  intro known
  rw [follows_ask]
  refine ⟨fun key hkey => ?_, fun _ _ _ => trivial⟩
  rw [h] at hkey
  cases hkey

theorem bind {c : Crossing α} {f : α → Crossing β} (hc : Onward c) (hf : ∀ a, Onward (f a)) :
    Onward (c >>= f) := by
  intro known
  rw [follows_bind]
  exact follows_mono (fun a known' _ => hf a known') (fun _ _ h => h) (hc known)

theorem owningAll {refs : List Ref} {body : Crossing α} (hbody : Onward body) :
    Onward (owningAll refs body) := fun known => onward_owned (hbody known)

/-- A crossing that takes no operands looks nothing up. -/
theorem of_spends {c : Crossing α} (h : Spends 0 c) : Onward c := by
  refine h.follows (fun known r hidle key hkey => ?_) fun _ => trivial
  cases r with
  | getItem _ _ | setItem _ _ _ => cases hidle
  | _ => cases hkey

end Onward
end Crossing

namespace Context

open Crossing

variable (ctx : Context)

/-!
# Lookups
-/

/-- A crossing that fails reaches anything. -/
theorem onward_fail {ok : α → Option Ref → Prop} (operation : Operation)
    (diagnostic : Option Diagnostic) (known : Option Ref) :
    (ctx.fail operation diagnostic : Crossing α).Follows onward ok (fun _ _ => True) known := by
  unfold fail
  cases ctx.settings.debug with
  | false => trivial
  | true => trivial

/-- A reference that is checked is still the one that was made last. -/
theorem onward_checkRef (operation : Operation) (answer : Option Ref) :
    (ctx.checkRef operation answer).Follows onward (fun key known => key ∈ known) (fun _ _ => True)
      answer := by
  unfold checkRef
  rw [follows_bind, follows_ask]
  refine ⟨nofun, fun pending known hknown => ?_⟩
  cases pending with
  | true =>
      rw [if_pos rfl, follows_bind, follows_ask]
      refine ⟨nofun, fun diagnostic _ _ => ?_⟩
      rw [follows_bind, follows_releaseAll]
      exact onward_released fun _ => ctx.onward_fail operation diagnostic _
  | false =>
      cases answer with
      | some ref => exact hknown
      | none => exact ctx.onward_fail operation none _

/-- The key of a position is an integer that counts from the beginning, and was made last. -/
theorem onward_keyToForeign (arguments : List Value) (known : Option Ref) :
    (ctx.keyToForeign arguments).Follows onward (fun key known' => key ∈ known') (fun _ _ => True)
      known := by
  unfold keyToForeign
  cases hposition : positionOf arguments with
  | error fault => trivial
  | ok position =>
      rcases position_within arguments position hposition with ⟨hfirst, key, hkey, hvalue⟩
      dsimp only
      rw [hkey]
      unfold scalarToForeign
      dsimp only
      rw [follows_bind, follows_note, follows_bind, follows_ask]
      refine ⟨nofun, fun answer made hmade => ?_⟩
      have hanswer : made = answer := by
        rw [← hvalue] at hfirst
        exact hmade.trans (if_pos hfirst)
      rw [hanswer]
      exact ctx.onward_checkRef .unpackScalar answer

/-- An item is looked up by the key that was made for it. -/
theorem onward_lookup (arguments : List Value) (event : Event) {r : Ref → Request}
    (hkeys : ∀ key, (r key).keys = [key]) {rest : (key : Ref) → (r key).Answer → Crossing α}
    (hrest : ∀ key answer, Onward (rest key answer)) :
    Onward (ctx.keyToForeign arguments >>= fun key =>
      owning key (Crossing.note event >>= fun _ => Crossing.ask (r key) >>= rest key)) := by
  intro known
  rw [follows_bind]
  refine follows_mono (fun key made hkey => onward_owned ?_) (fun _ _ h => h)
    (ctx.onward_keyToForeign arguments known)
  rw [follows_bind, follows_note, follows_bind, follows_ask]
  refine ⟨fun other hother => ?_, fun answer later _ => hrest key answer later⟩
  rw [hkeys key, List.mem_singleton] at hother
  rw [hother]
  exact hkey

theorem onward_getItem (target : Ref) (arguments : List Value) :
    Onward (ctx.getItem target arguments) :=
  ctx.onward_lookup arguments (.gettingItem target) (fun _ => rfl)
    fun _ answer => .of_spends (ctx.spends_checkRef .index answer)

theorem onward_checkStatus (operation : Operation) (ok : Bool) :
    Onward (ctx.checkStatus operation ok) :=
  .of_spends (ctx.spends_checkValue operation _)

theorem onward_setItem (target : Ref) (arguments : List Value) (value : Ref) :
    Onward (ctx.setItem target arguments value) :=
  ctx.onward_lookup arguments (.settingItem target) (fun _ => rfl)
    fun _ answer => ctx.onward_checkStatus .assignIndex answer

theorem onward_setAttr (target : Ref) (name : String) (value : Ref) :
    Onward (ctx.setAttr target name value) := by
  apply Onward.bind .note
  intro _
  exact .bind (.ask rfl) fun answer => ctx.onward_checkStatus .setField answer

/-!
# Requests of the host
-/

theorem onward_callWith (target : Ref) (arguments : List Value) :
    Onward (ctx.callWith target arguments) := by
  unfold callWith
  apply Onward.bind (.bind (.of_spends (ctx.spends_toForeignEach arguments))
    fun items => .of_spends (ctx.spends_buildTuple items))
  intro tuple
  apply Onward.owningAll
  apply Onward.bind .note
  intro _
  exact .bind (.ask rfl) fun answer => .of_spends (ctx.spends_checkRef .call answer)

theorem onward_refuseKind (object : Ref) (fault : ForeignKind → Unsupported) :
    Onward (refuseKind object fault : Crossing α) := .bind (.ask rfl) fun _ => .throw

theorem onward_step (target : Ref) (link : Accessor) : Onward (ctx.step target link) := by
  have hindexed : ∀ arguments (fault : ForeignKind → Unsupported), Onward (do
      if ← Crossing.ask (.supportsIndexing target) then ctx.getItem target arguments
      else refuseKind target fault) := by
    intro arguments fault
    apply Onward.bind (.ask rfl)
    intro indexing
    cases indexing with
    | true => exact ctx.onward_getItem target arguments
    | false => exact onward_refuseKind target fault
  cases link with
  | field name => exact .of_spends (ctx.spends_getAttr target name)
  | call arguments =>
      apply Onward.bind (.ask rfl)
      intro callable
      cases callable with
      | true => exact ctx.onward_callWith target arguments
      | false => exact hindexed arguments _
  | index arguments => exact hindexed arguments _

theorem onward_walk (target : Ref) (links : List Accessor) : Onward (ctx.walk target links) := by
  induction links generalizing target with
  | nil => exact .pure
  | cons link links ih => exact .bind (.owningAll (ctx.onward_step target link)) ih

theorem onward_assign (target : Ref) (value : Value) (link : Accessor) :
    Onward (ctx.assign target value link) := by
  have hvalue : Onward (ctx.toForeign value) := .of_spends (ctx.spends_toForeign value)
  have hindexed : ∀ arguments, Onward (ctx.assign target value (.index arguments)) := by
    intro arguments
    apply Onward.bind (.ask rfl)
    intro indexing
    cases indexing with
    | true => exact .bind hvalue fun ref => .owningAll (ctx.onward_setItem target arguments ref)
    | false => exact onward_refuseKind target _
  cases link with
  | field name => exact .bind hvalue fun ref => .owningAll (ctx.onward_setAttr target name ref)
  | call arguments => exact hindexed arguments
  | index arguments => exact hindexed arguments

theorem onward_assignChain (root : Handle) (chain : List Accessor) (value : Value) :
    Onward (ctx.assignChain root chain value) := by
  have hacquire : Onward (acquire root) := .of_spends (spends_acquire root)
  unfold assignChain
  cases chain.getLast? with
  | none => exact .throw
  | some last =>
      apply Onward.bind hacquire
      intro target
      apply Onward.bind (ctx.onward_walk target chain.dropLast)
      intro target
      apply Onward.owningAll
      apply Onward.bind (ctx.onward_assign target value last)
      intro _
      exact .bind hacquire fun _ => .pure

/-- No request of the host looks an item up from the end. -/
theorem onward_serve (entry : Entry) : Onward (ctx.serve entry) := by
  have hresolve : ∀ on, Onward (ctx.resolve on) := fun on => .of_spends (ctx.spends_resolve on)
  have hown : ∀ h, Onward (ctx.requireOwn h) := fun h => .of_spends (ctx.spends_requireOwn h)
  have hfield : ∀ target name, Onward (ctx.getAttr target name) := fun target name =>
    .of_spends (ctx.spends_getAttr target name)
  cases entry with
  | importModule name =>
      apply Onward.bind (.of_spends (ctx.spends_importModule name))
      intro module
      exact .bind (.of_spends (ctx.spends_wrap module)) fun _ => .pure
  | construct module className arguments =>
      apply Onward.bind (hresolve (.handle module))
      intro module
      apply Onward.owningAll
      apply Onward.bind (hfield module className)
      intro constructor
      apply Onward.owningAll
      apply Onward.bind (ctx.onward_callWith constructor arguments)
      intro object
      exact .bind (.of_spends (ctx.spends_wrap object)) fun _ => .pure
  | invoke on method arguments =>
      apply Onward.bind (hresolve on)
      intro target
      apply Onward.owningAll
      apply Onward.bind (hfield target method)
      intro callable
      apply Onward.owningAll
      apply Onward.bind (ctx.onward_callWith callable arguments)
      intro result
      exact .bind (.of_spends (ctx.spends_toHost result)) fun _ => .pure
  | getField on field =>
      apply Onward.bind (hresolve on)
      intro target
      apply Onward.owningAll
      apply Onward.bind (hfield target field)
      intro found
      exact .bind (.of_spends (ctx.spends_toHost found)) fun _ => .pure
  | setField on field value =>
      apply Onward.bind (hresolve on)
      intro target
      apply Onward.owningAll
      apply Onward.bind (.of_spends (ctx.spends_toForeign value))
      intro ref
      exact .bind (.owningAll (ctx.onward_setAttr target field ref)) fun _ => .pure
  | read root chain =>
      apply Onward.bind (hown root)
      intro _
      refine Onward.bind (.bind (.of_spends (spends_acquire root)) fun target => ?_) fun _ => .pure
      cases chain with
      | nil => exact .pure
      | cons link links =>
          exact .bind (ctx.onward_walk target (link :: links)) fun found =>
            .of_spends (ctx.spends_toHost found)
  | assign root chain value =>
      apply Onward.bind (hown root)
      intro _
      exact .bind (ctx.onward_assignChain root chain value) fun _ => .pure
  | members h =>
      apply Onward.bind (hown h)
      intro _
      refine Onward.bind (.bind (.ask rfl) fun answer => ?_) fun _ => .pure
      exact .bind (.of_spends (ctx.spends_checkValue .members answer)) fun _ => .pure

end Context
end ForeignBridge
