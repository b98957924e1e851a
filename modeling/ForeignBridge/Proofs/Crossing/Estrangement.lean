import ForeignBridge.Proofs.Crossing.Custodian

/-!
# Handles of other bridges

A bridge does not look into a handle of another bridge: whatever object it is of, the bridge does the
same.  An operand with such a handle inside, however deep, is refused before the request that it is
an operand of.
-/

namespace ForeignBridge

/-!
# Disguise

In a request of the host nothing is left of the handles of other bridges but that they are foreign.
-/

/-- A handle of another bridge, about which nothing is known. -/
def Handle.disguised (bridge : Nat) (h : Handle) : Handle :=
  if h.context = bridge then h else ⟨bridge + 1, ⟨0⟩, ""⟩

theorem Handle.disguised_own {bridge : Nat} {h : Handle} (hown : h.context = bridge) :
    h.disguised bridge = h := if_pos hown

theorem Handle.context_disguised (bridge : Nat) (h : Handle) :
    (h.disguised bridge).context = bridge ↔ h.context = bridge := by
  unfold disguised
  split
  · exact Iff.rfl
  · rename_i hforeign
    exact ⟨fun hsame => absurd hsame (Nat.succ_ne_self bridge), fun hsame => absurd hsame hforeign⟩

namespace Value

mutual

def disguised (bridge : Nat) : Value → Value
  | cell items => cell (disguisedAll bridge items)
  | foreign h => foreign (h.disguised bridge)
  | v => v

def disguisedAll (bridge : Nat) : List Value → List Value
  | [] => []
  | x :: xs => x.disguised bridge :: disguisedAll bridge xs

end

variable {bridge : Nat}

theorem text?_disguised (v : Value) : (v.disguised bridge).text? = v.text? := by
  cases v <;> rfl

theorem scalar?_disguised (v : Value) : (v.disguised bridge).scalar? = v.scalar? := by
  cases v <;> rfl

theorem typeName_disguised (v : Value) : (v.disguised bridge).typeName = v.typeName := by
  cases v <;> rfl

theorem length_disguisedAll (values : List Value) :
    (disguisedAll bridge values).length = values.length := by
  induction values with
  | nil => rfl
  | cons v rest ih => rw [disguisedAll, List.length_cons, List.length_cons, ih]

theorem mapM_text?_disguisedAll (values : List Value) :
    (disguisedAll bridge values).mapM text? = values.mapM text? := by
  induction values with
  | nil => rfl
  | cons v rest ih => rw [disguisedAll, List.mapM_cons, List.mapM_cons, text?_disguised, ih]

end Value

def Accessor.disguised (bridge : Nat) : Accessor → Accessor
  | .field name => .field name
  | .call arguments => .call (Value.disguisedAll bridge arguments)
  | .index arguments => .index (Value.disguisedAll bridge arguments)

def Receiver.disguised (bridge : Nat) : Receiver → Receiver
  | .handle h => .handle (h.disguised bridge)
  | .name path => .name path

def Entry.disguised (bridge : Nat) : Entry → Entry
  | .importModule name => .importModule name
  | .construct module className arguments =>
    .construct (module.disguised bridge) className (Value.disguisedAll bridge arguments)
  | .invoke on method arguments =>
    .invoke (on.disguised bridge) method (Value.disguisedAll bridge arguments)
  | .getField on field => .getField (on.disguised bridge) field
  | .setField on field value => .setField (on.disguised bridge) field (value.disguised bridge)
  | .read root chain => .read (root.disguised bridge) (chain.map (Accessor.disguised bridge))
  | .assign root chain value =>
    .assign (root.disguised bridge) (chain.map (Accessor.disguised bridge))
      (value.disguised bridge)
  | .members h => .members (h.disguised bridge)

namespace Context

open Crossing

variable {α : Type} (ctx : Context)

theorem allTexts?_disguisedAll (items : List Value) :
    allTexts? (Value.disguisedAll ctx.id items) = allTexts? items := by
  cases items with
  | nil => rfl
  | cons v rest => exact Value.mapM_text?_disguisedAll (v :: rest)

theorem handleToForeign_disguised (h : Handle) :
    ctx.handleToForeign (h.disguised ctx.id) = ctx.handleToForeign h := by
  unfold handleToForeign
  by_cases hown : h.context = ctx.id
  · rw [Handle.disguised_own hown]
  · rw [if_neg hown, if_neg fun hsame => hown ((Handle.context_disguised ctx.id h).1 hsame)]

mutual

theorem toForeign_disguised (v : Value) :
    ctx.toForeign (v.disguised ctx.id) = ctx.toForeign v := by
  cases v with
  | cell items =>
      rw [Value.disguised, toForeign, toForeign, allTexts?_disguisedAll,
        toForeignEach_disguisedAll items]
  | foreign h =>
      rw [Value.disguised, toForeign, toForeign, handleToForeign_disguised]
  | _ => rfl

theorem toForeignEach_disguisedAll (values : List Value) :
    ctx.toForeignEach (Value.disguisedAll ctx.id values) = ctx.toForeignEach values := by
  cases values with
  | nil => rfl
  | cons v rest =>
      rw [Value.disguisedAll, toForeignEach, toForeignEach, toForeign_disguised v,
        toForeignEach_disguisedAll rest]

end

theorem callWith_disguisedAll (target : Ref) (arguments : List Value) :
    ctx.callWith target (Value.disguisedAll ctx.id arguments) = ctx.callWith target arguments := by
  unfold callWith tupleToForeign
  rw [toForeignEach_disguisedAll, Value.length_disguisedAll]

theorem positionOf_disguisedAll (arguments : List Value) :
    positionOf (Value.disguisedAll ctx.id arguments) = positionOf arguments := by
  match arguments with
  | [] => rfl
  | [position] =>
      unfold positionOf
      rw [Value.disguisedAll, Value.disguisedAll]
      dsimp only
      rw [Value.scalar?_disguised, Value.typeName_disguised]
  | first :: second :: rest =>
      have hlength : (Value.disguisedAll ctx.id (first :: second :: rest)).length =
          (first :: second :: rest).length := Value.length_disguisedAll _
      unfold positionOf
      rw [Value.disguisedAll, Value.disguisedAll] at hlength ⊢
      dsimp only
      rw [hlength]

theorem keyToForeign_disguisedAll (arguments : List Value) :
    ctx.keyToForeign (Value.disguisedAll ctx.id arguments) = ctx.keyToForeign arguments := by
  unfold keyToForeign
  rw [positionOf_disguisedAll]

theorem step_disguised (target : Ref) (link : Accessor) :
    ctx.step target (link.disguised ctx.id) = ctx.step target link := by
  have hitem : ∀ arguments, ctx.getItem target (Value.disguisedAll ctx.id arguments) =
      ctx.getItem target arguments := by
    intro arguments
    unfold getItem
    rw [keyToForeign_disguisedAll]
  cases link with
  | field name => rfl
  | call arguments =>
      rw [Accessor.disguised]
      unfold step
      dsimp only
      rw [callWith_disguisedAll, hitem]
  | index arguments =>
      rw [Accessor.disguised]
      unfold step
      dsimp only
      rw [hitem]

theorem walk_disguised (target : Ref) (links : List Accessor) :
    ctx.walk target (links.map (Accessor.disguised ctx.id)) = ctx.walk target links := by
  induction links generalizing target with
  | nil => rfl
  | cons link links ih =>
      rw [List.map_cons]
      unfold walk
      rw [step_disguised]
      exact congrArg _ (funext fun next => ih next)

theorem assign_disguised (target : Ref) (value : Value) (link : Accessor) :
    ctx.assign target (value.disguised ctx.id) (link.disguised ctx.id) =
      ctx.assign target value link := by
  have hitem : ∀ arguments ref, ctx.setItem target (Value.disguisedAll ctx.id arguments) ref =
      ctx.setItem target arguments ref := by
    intro arguments ref
    unfold setItem
    rw [keyToForeign_disguisedAll]
  cases link with
  | field name =>
      rw [Accessor.disguised]
      unfold assign
      rw [toForeign_disguised]
  | call arguments | index arguments =>
      rw [Accessor.disguised]
      unfold assign
      rw [toForeign_disguised]
      simp only [hitem]

/-- After the check that a handle belongs to the bridge it is the handle that it was. -/
theorem requireOwn_disguised (h : Handle) (f : Handle → Crossing α) :
    (ctx.requireOwn (h.disguised ctx.id) >>= fun _ => f (h.disguised ctx.id)) =
      ctx.requireOwn h >>= fun _ => f h := by
  unfold requireOwn
  by_cases hown : h.context = ctx.id
  · rw [Handle.disguised_own hown]
  · rw [if_neg hown, if_neg fun hsame => hown ((Handle.context_disguised ctx.id h).1 hsame)]
    rfl

theorem resolve_disguised (on : Receiver) :
    ctx.resolve (on.disguised ctx.id) = ctx.resolve on := by
  cases on with
  | handle h => exact ctx.requireOwn_disguised h acquire
  | name path => rfl

theorem readChain_disguised (root : Handle) (chain : List Accessor) :
    ctx.readChain root (chain.map (Accessor.disguised ctx.id)) = ctx.readChain root chain := by
  cases chain with
  | nil => rfl
  | cons link links =>
      have hwalk := fun target => ctx.walk_disguised target (link :: links)
      unfold readChain
      rw [List.map_cons] at hwalk ⊢
      dsimp only
      simp only [hwalk]

theorem assignChain_disguised (root : Handle) (chain : List Accessor) (value : Value) :
    ctx.assignChain root (chain.map (Accessor.disguised ctx.id)) (value.disguised ctx.id) =
      ctx.assignChain root chain value := by
  unfold assignChain
  rw [List.getLast?_map, List.map_dropLast.symm]
  cases chain.getLast? with
  | none => rfl
  | some last =>
      rw [Option.map_some]
      dsimp only
      simp only [walk_disguised, assign_disguised]

/-- The bridge does the same whatever objects the handles of other bridges are of. -/
theorem serve_disguised (entry : Entry) :
    ctx.serve (entry.disguised ctx.id) = ctx.serve entry := by
  cases entry with
  | importModule name => rfl
  | construct module className arguments =>
      have hmodule := ctx.resolve_disguised (.handle module)
      rw [Entry.disguised]
      unfold serve
      dsimp only
      rw [← hmodule]
      simp only [callWith_disguisedAll, Receiver.disguised]
  | invoke on method arguments =>
      rw [Entry.disguised]
      unfold serve
      dsimp only
      simp only [resolve_disguised, callWith_disguisedAll]
  | getField on field =>
      rw [Entry.disguised]
      unfold serve
      dsimp only
      rw [resolve_disguised]
  | setField on field value =>
      rw [Entry.disguised]
      unfold serve
      dsimp only
      rw [resolve_disguised, toForeign_disguised]
  | read root chain =>
      rw [Entry.disguised]
      unfold serve
      dsimp only
      simp only [readChain_disguised]
      exact ctx.requireOwn_disguised root fun root => ctx.readChain root chain >>= fun v =>
        Pure.pure (Reply.value v)
  | assign root chain value =>
      rw [Entry.disguised]
      unfold serve
      dsimp only
      simp only [assignChain_disguised]
      exact ctx.requireOwn_disguised root fun root => ctx.assignChain root chain value >>= fun h =>
        Pure.pure (Reply.value (.foreign h))
  | members h =>
      rw [Entry.disguised]
      unfold serve
      dsimp only
      exact ctx.requireOwn_disguised h fun h => ctx.memberNames h >>= fun names =>
        Pure.pure (Reply.names names)

end Context
end ForeignBridge
