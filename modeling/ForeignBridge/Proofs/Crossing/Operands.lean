import ForeignBridge.Crossing.Entry
import ForeignBridge.Proofs.Crossing.Protocol

/-!
# Operands

Calls, writes and lookups take operands that the host gave.  How often a crossing does that is known
beforehand, whatever it is answered: a link of a chain does it once at most, and conversions never do.
-/

namespace ForeignBridge

/-- The requests that take operands of the host. -/
def Request.operates : Request → Bool
  | call _ _ | setAttr _ _ _ | getItem _ _ | setItem _ _ _ => true
  | _ => false

/-- The conversation of a program that may take operands a number of times. -/
def rationing : Protocol Nat where
  allows n r := r.operates = true → 0 < n
  next n r _ n' := n' = if r.operates then n - 1 else n
  breaksOff _ := True

/-- Whether a link has operands. -/
def Accessor.hasOperands : Accessor → Bool
  | .field _ => false
  | .call _ | .index _ => true

variable {α β : Type}

namespace Crossing

/-- A crossing takes operands at most a number of times. -/
def Spends (count : Nat) (c : Crossing α) : Prop :=
  ∀ n m, n + count ≤ m → c.Follows rationing (fun _ n' => n ≤ n') (fun _ _ => True) m

theorem follows_rationed {refs : List Ref} {post : Unit → Nat → Prop} {n : Nat} (h : post () n) :
    (Program.releaseAll refs).Follows rationing post n := by
  induction refs with
  | nil => exact h
  | cons ref rest ih =>
      refine ⟨nofun, fun answer n' hnext => ?_⟩
      rw [show n' = n from hnext]
      exact ih

namespace Spends

variable {count : Nat}

theorem mono {count' : Nat} {c : Crossing α} (h : Spends count c) (hle : count ≤ count') :
    Spends count' c := fun n m hm => h n m (Nat.le_trans (Nat.add_le_add_left hle n) hm)

theorem pure {a : α} : Spends 0 (pure a : Crossing α) := fun _ _ hm => hm

theorem throw {e : BridgeError} : Spends count (throw e : Crossing α) := fun _ _ _ => trivial

theorem abort {panic : Panic} : Spends count (abort panic : Crossing α) := fun _ _ _ => trivial

theorem note {event : Event} : Spends 0 (note event) := fun _ _ hm => hm

theorem ask {r : Request} (h : r.operates = false) : Spends 0 (ask r) := by
  intro n m hm
  rw [follows_ask]
  refine ⟨fun hoperates => absurd (h.symm.trans hoperates) nofun, fun answer n' hnext => ?_⟩
  have hsame : n' = if r.operates then m - 1 else m := hnext
  rw [h, if_neg Bool.false_ne_true] at hsame
  rw [hsame]
  exact hm

theorem operate {r : Request} : Spends 1 (Crossing.ask r) := by
  intro n m hm
  rw [follows_ask]
  refine ⟨fun _ => by omega, fun answer n' hnext => ?_⟩
  have hsame : n' = if r.operates then m - 1 else m := hnext
  rw [hsame]
  split
  · omega
  · omega

theorem bind {count' : Nat} {c : Crossing α} {f : α → Crossing β} (hc : Spends count c)
    (hf : ∀ a, Spends count' (f a)) : Spends (count + count') (c >>= f) := by
  intro n m hm
  rw [follows_bind]
  refine follows_mono (fun a n' hn' => hf a n n' hn') (fun _ _ h => h) (hc (n + count') m ?_)
  omega

/-- What follows a crossing that takes no operands. -/
theorem bind_after {c : Crossing α} {f : α → Crossing β} (hc : Spends 0 c)
    (hf : ∀ a, Spends count (f a)) : Spends count (c >>= f) :=
  (bind hc hf).mono (Nat.le_of_eq (Nat.zero_add count))

/-- What follows a request that takes operands. -/
theorem operate_then {r : Request} {f : r.Answer → Crossing β} (hf : ∀ a, Spends 0 (f a)) :
    Spends 1 (Crossing.ask r >>= f) := by
  have hboth : Spends (1 + 0) (Crossing.ask r >>= f) := bind operate hf
  rw [Nat.add_zero] at hboth
  exact hboth

theorem owningAll {refs : List Ref} {body : Crossing α} (hbody : Spends count body) :
    Spends count (owningAll refs body) := by
  intro n m hm
  rw [follows_owningAll]
  refine follows_mono (fun a n' h => ?_) (fun e n' h => ?_) (hbody n m hm)
  · exact follows_rationed h
  · exact follows_rationed trivial

theorem keeping {refs : List Ref} {body : Crossing α} (hbody : Spends count body) :
    Spends count (keeping refs body) := by
  intro n m hm
  rw [follows_keeping]
  exact follows_mono (fun _ _ h => h) (fun _ _ _ => follows_rationed trivial) (hbody n m hm)

theorem releaseAll {refs : List Ref} : Spends 0 (releaseAll refs) := by
  intro n m hm
  rw [Crossing.follows_releaseAll]
  exact follows_rationed hm

theorem acquireEach {acquire : β → Crossing Ref} (hacquire : ∀ x, Spends 0 (acquire x))
    (xs : List β) : Spends 0 (acquireEach acquire xs) := by
  induction xs with
  | nil => exact pure
  | cons x xs ih =>
      exact bind_after (hacquire x) fun ref => bind_after (keeping ih) fun refs => pure

/-- Crossings that take no operands, one for each element. -/
theorem mapM {f : β → Crossing α} (hf : ∀ x, Spends 0 (f x)) (xs : List β) :
    Spends 0 (xs.mapM f) := by
  induction xs with
  | nil =>
      rw [List.mapM_nil]
      exact pure
  | cons x xs ih =>
      rw [List.mapM_cons]
      exact bind_after (hf x) fun _ => bind_after ih fun _ => pure

/-- What takes no operands follows every protocol by which all other requests are in order. -/
theorem follows {γ : Type} {P : Protocol γ} (hallows : ∀ g r, r.operates = false → P.allows g r)
    (hbreaks : ∀ panic, P.breaksOff panic) {c : Crossing α} (h : Spends 0 c) (g : γ) :
    c.Follows P (fun _ _ => True) (fun _ _ => True) g := by
  have hprogram : ∀ (p : Program (Except BridgeError α)) post,
      p.Follows rationing post 0 → ∀ g, p.Follows P (fun _ _ => True) g := by
    intro p post hp
    induction p with
    | done result => exact fun _ => trivial
    | abort panic => exact fun _ => hbreaks panic
    | ask r next ih =>
        have hidle : r.operates = false := by
          cases hoperates : r.operates with
          | true => exact absurd (hp.1 hoperates) (Nat.lt_irrefl 0)
          | false => rfl
        have hnext : ∀ answer, rationing.next 0 r answer 0 := by
          intro answer
          simp [rationing, hidle]
        intro g
        exact ⟨hallows g r hidle, fun answer g' _ => ih answer (hp.2 answer 0 (hnext answer)) g'⟩
    | note event next ih => exact ih hp
  refine Program.follows_mono (fun outcome _ _ => ?_) (hprogram c.run _ (h 0 0 (Nat.le_refl 0)) g)
  cases outcome with
  | ok _ | error _ => trivial

end Spends
end Crossing

namespace Context

open Crossing

variable (ctx : Context)

/-!
# From the host to the runtime
-/

theorem spends_fail (operation : Operation) (diagnostic : Option Diagnostic) :
    Spends 0 (ctx.fail operation diagnostic : Crossing α) := by
  unfold fail
  cases ctx.settings.debug with
  | false => exact Spends.throw
  | true => exact Spends.bind_after Spends.note fun _ => Spends.throw

theorem spends_checkRef (operation : Operation) (answer : Option Ref) :
    Spends 0 (ctx.checkRef operation answer) := by
  unfold checkRef
  apply Spends.bind_after (Spends.ask rfl)
  intro pending
  cases pending with
  | true =>
      apply Spends.bind_after (Spends.ask rfl)
      intro diagnostic
      exact Spends.bind_after Spends.releaseAll fun _ => ctx.spends_fail operation diagnostic
  | false =>
      cases answer with
      | some ref => exact Spends.pure
      | none => exact ctx.spends_fail operation none

theorem spends_checkValue (operation : Operation) (answer : Option α) :
    Spends 0 (ctx.checkValue operation answer) := by
  unfold checkValue
  apply Spends.bind_after (Spends.ask rfl)
  intro pending
  cases pending with
  | true =>
      exact Spends.bind_after (Spends.ask rfl) fun diagnostic => ctx.spends_fail operation diagnostic
  | false =>
      cases answer with
      | some value => exact Spends.pure
      | none => exact ctx.spends_fail operation none

theorem spends_clearError : Spends 0 clearError := by
  unfold clearError
  apply Spends.bind_after (Spends.ask rfl)
  intro pending
  cases pending with
  | true => exact Spends.ask rfl
  | false => exact Spends.pure

theorem spends_importModule (name : String) : Spends 0 (ctx.importModule name) := by
  unfold importModule
  apply Spends.bind_after Spends.note
  intro _
  exact Spends.bind_after (Spends.ask rfl) fun answer => ctx.spends_checkRef _ answer

theorem spends_tryImport (name : String) : Spends 0 (tryImport name) := by
  unfold tryImport
  apply Spends.bind_after (Spends.ask rfl)
  intro found
  apply Spends.bind_after spends_clearError
  intro pending
  cases pending with
  | some diagnostic =>
      apply Spends.bind_after Spends.releaseAll
      intro _
      exact Spends.bind_after Spends.note fun _ => Spends.pure
  | none => exact Spends.pure

theorem spends_getAttr (target : Ref) (name : String) : Spends 0 (ctx.getAttr target name) := by
  unfold getAttr
  apply Spends.bind_after Spends.note
  intro _
  exact Spends.bind_after (Spends.ask rfl) fun answer => ctx.spends_checkRef _ answer

theorem spends_acquire (h : Handle) : Spends 0 (acquire h) :=
  Spends.bind_after (Spends.ask rfl) fun _ => Spends.pure

theorem spends_requireOwn (h : Handle) : Spends 0 (ctx.requireOwn h) := by
  unfold requireOwn
  split
  · exact Spends.pure
  · exact Spends.throw

theorem spends_scalarToForeign (s : Scalar) : Spends 0 (ctx.scalarToForeign s) := by
  unfold scalarToForeign
  apply Spends.bind_after Spends.note
  intro _
  exact Spends.bind_after (Spends.ask rfl) fun answer => ctx.spends_checkRef _ answer

theorem spends_textToForeign (text : String) : Spends 0 (ctx.textToForeign text) :=
  Spends.bind_after (Spends.ask rfl) fun answer => ctx.spends_checkRef _ answer

theorem spends_buildTuple (items : List Ref) : Spends 0 (ctx.buildTuple items) :=
  Spends.owningAll (Spends.bind_after (Spends.ask rfl) fun answer => ctx.spends_checkRef _ answer)

theorem spends_matrixToForeign (m : Matrix) : Spends 0 (ctx.matrixToForeign m) := by
  unfold matrixToForeign
  cases m.rows? with
  | none => exact Spends.throw
  | some rows =>
      have hrow : ∀ leaves : List Scalar,
          Spends 0 (acquireEach ctx.scalarToForeign leaves >>= ctx.buildTuple) := fun leaves =>
        Spends.bind_after (Spends.acquireEach ctx.spends_scalarToForeign leaves)
          ctx.spends_buildTuple
      exact Spends.bind_after (Spends.acquireEach hrow rows) ctx.spends_buildTuple

theorem spends_handleToForeign (h : Handle) : Spends 0 (ctx.handleToForeign h) := by
  unfold handleToForeign
  split
  · exact Spends.bind_after (Spends.ask rfl) fun _ => Spends.pure
  · exact Spends.throw

mutual

theorem spends_toForeign (v : Value) : Spends 0 (ctx.toForeign v) := by
  cases v with
  | undefined =>
      unfold toForeign
      exact Spends.ask rfl
  | scalar s =>
      unfold toForeign
      exact ctx.spends_scalarToForeign s
  | text s =>
      unfold toForeign
      exact ctx.spends_textToForeign s
  | cell items =>
      unfold toForeign
      cases allTexts? items with
      | some texts =>
          exact Spends.bind_after (Spends.acquireEach ctx.spends_textToForeign texts)
            ctx.spends_buildTuple
      | none => exact Spends.bind_after (spends_toForeignEach items) ctx.spends_buildTuple
  | matrix m =>
      unfold toForeign
      exact ctx.spends_matrixToForeign m
  | foreign h =>
      unfold toForeign
      exact ctx.spends_handleToForeign h

theorem spends_toForeignEach (values : List Value) : Spends 0 (ctx.toForeignEach values) := by
  cases values with
  | nil =>
      unfold toForeignEach
      exact Spends.pure
  | cons value values =>
      unfold toForeignEach
      apply Spends.bind_after (spends_toForeign value)
      intro ref
      exact Spends.bind_after (Spends.keeping (spends_toForeignEach values)) fun refs => Spends.pure

end

theorem spends_keyToForeign (arguments : List Value) : Spends 0 (ctx.keyToForeign arguments) := by
  unfold keyToForeign
  cases positionOf arguments with
  | error fault => exact Spends.throw
  | ok position =>
      dsimp only
      cases HostInt.ofInt .int64 position with
      | ok key => exact ctx.spends_scalarToForeign (.int key)
      | error fault => exact Spends.throw

/-!
# From the runtime to the host
-/

theorem spends_wrap (object : Ref) : Spends 0 (ctx.wrap object) := by
  unfold wrap
  exact .bind_after (.ask rfl) fun _ => .bind_after spends_clearError fun _ => .pure

theorem spends_integerToHost (object : Ref) : Spends 0 (ctx.integerToHost object) := by
  unfold integerToHost extractionFailed
  apply Spends.bind_after (.ask rfl)
  intro hint
  apply Spends.bind_after (.ask rfl)
  intro value
  apply Spends.bind_after
  · cases value with
    | none => exact .ask rfl
    | some _ => exact .pure
  · intro failed
    cases failed with
    | true => exact .bind_after (.ask rfl) fun _ => .throw
    | false =>
        apply Spends.bind_after (ctx.spends_checkValue .packInteger value)
        intro value
        cases HostInt.ofInt ((hint.filter NumericKind.isInteger).getD .int64) value with
        | ok i => exact .pure
        | error fault => exact .throw

theorem spends_floatToHost (object : Ref) : Spends 0 (ctx.floatToHost object) := by
  unfold floatToHost
  apply Spends.bind_after (.ask rfl)
  intro hint
  apply Spends.bind_after (.ask rfl)
  intro value
  apply Spends.bind_after (ctx.spends_checkValue .packFloat _)
  intro value
  cases HostFloat.ofDouble ((hint.filter NumericKind.isFloat).getD .double) value with
  | ok x => exact .pure
  | error fault => exact .throw

theorem spends_textToHost (object : Ref) : Spends 0 (ctx.textToHost object) := by
  unfold textToHost
  apply Spends.bind_after (.ask rfl)
  intro answer
  cases answer with
  | none => exact .bind_after spends_clearError fun _ => .throw
  | some bytes =>
      apply Spends.bind_after (ctx.spends_checkValue .packString _)
      intro bytes
      cases Utf8.decode bytes with
      | ok text => exact .pure
      | error fault => exact .throw

theorem spends_leafToHost (object : Ref) : Spends 0 (ctx.leafToHost object) := by
  unfold leafToHost
  apply Spends.bind_after (.ask rfl)
  intro kind
  cases kind with
  | bool => exact .bind_after (.ask rfl) fun _ => .pure
  | integer => exact .bind_after (ctx.spends_integerToHost object) fun _ => .pure
  | _ => exact .bind_after (ctx.spends_floatToHost object) fun _ => .pure

theorem spends_items (sequence : Ref) : Spends 0 (ctx.items sequence) := by
  have hitems : ∀ count index, Spends 0 (ctx.itemsFrom sequence index count) := by
    intro count
    induction count with
    | zero => exact fun _ => .pure
    | succ count ih =>
        intro index
        apply Spends.bind_after (.ask rfl)
        intro answer
        apply Spends.bind_after (ctx.spends_checkRef .sequenceItem answer)
        intro item
        exact .bind_after (.keeping (ih (index + 1))) fun _ => .pure
  unfold items
  apply Spends.bind_after (.ask rfl)
  intro answer
  exact .bind_after (ctx.spends_checkValue .sequenceLength answer) fun count => hitems count 0

theorem spends_allNumeric (objects : List Ref) : Spends 0 (allNumeric objects) := by
  induction objects with
  | nil => exact .pure
  | cons object rest ih =>
      apply Spends.bind_after (.ask rfl)
      intro kind
      cases kind.isNumeric with
      | true => exact ih
      | false => exact .pure

theorem spends_anySequence (objects : List Ref) : Spends 0 (anySequence objects) := by
  induction objects with
  | nil => exact .pure
  | cons object rest ih =>
      apply Spends.bind_after (.ask rfl)
      intro kind
      split
      · exact .pure
      · exact ih

theorem spends_numericRows (columns : Option Nat) (objects : List Ref) :
    Spends 0 (ctx.numericRows columns objects) := by
  induction objects generalizing columns with
  | nil => exact .pure
  | cons object rest ih =>
      apply Spends.bind_after (.ask rfl)
      intro kind
      split
      · apply Spends.bind_after (ctx.spends_items object)
        intro leaves
        have hfits : Spends 0 (rowFits columns leaves) := by
          unfold rowFits
          split
          · exact spends_allNumeric leaves
          · exact .pure
        apply Spends.bind_after hfits
        intro fits
        cases fits with
        | true =>
            apply Spends.bind_after (.keeping (ih (some leaves.length)))
            intro rows
            cases rows with
            | some rows => exact .pure
            | none => exact .bind_after .releaseAll fun _ => .pure
        | false => exact .bind_after .releaseAll fun _ => .pure
      · exact .pure

theorem spends_matrixToHost (rows : List Ref) : Spends 0 (ctx.matrixToHost rows) := by
  unfold matrixToHost
  apply Spends.bind_after (ctx.spends_numericRows none rows)
  intro leaves
  cases leaves with
  | none => exact .pure
  | some leaves =>
      apply Spends.owningAll
      apply Spends.bind_after (.mapM ctx.spends_leafToHost _)
      intro elements
      dsimp only
      split
      · exact .pure
      · exact .throw

theorem spends_convertEach {convert : Ref → Crossing Value} (hconvert : ∀ ref, Spends 0 (convert ref))
    (objects : List Ref) : Spends 0 (convertEach convert objects) := by
  induction objects with
  | nil => exact .pure
  | cons object rest ih =>
      apply Spends.bind_after (.keeping (hconvert object))
      intro value
      exact .bind_after (.keeping ih) fun _ => .pure

theorem spends_plainToHost (object : Ref) (kind : ForeignKind) :
    Spends 0 (ctx.plainToHost object kind) := by
  cases kind with
  | null => exact .owningAll .pure
  | bool => exact .owningAll (.bind_after (.ask rfl) fun _ => .pure)
  | integer => exact .owningAll (.bind_after (ctx.spends_integerToHost object) fun _ => .pure)
  | float => exact .owningAll (.bind_after (ctx.spends_floatToHost object) fun _ => .pure)
  | bytes | unicode => exact .owningAll (.bind_after (ctx.spends_textToHost object) fun _ => .pure)
  | sequence | attributeBag | object => exact .bind_after (ctx.spends_wrap object) fun _ => .pure

theorem spends_sequenceToHost {convert : Ref → Crossing Value}
    (hconvert : ∀ ref, Spends 0 (convert ref)) (sequence : Ref) :
    Spends 0 (ctx.sequenceToHost convert sequence) := by
  have hcell : ∀ items, Spends 0 (convertEach convert items >>= fun values =>
      Pure.pure (Value.cell values)) := fun items =>
    .bind_after (spends_convertEach hconvert items) fun _ => .pure
  apply Spends.owningAll
  apply Spends.bind_after (ctx.spends_items sequence)
  intro items
  cases ctx.settings.matrixAutoconversion with
  | false => exact hcell items
  | true =>
      cases items with
      | nil => exact .pure
      | cons item rest =>
          apply Spends.bind_after (.keeping (ctx.spends_matrixToHost _))
          intro matrix?
          cases matrix? with
          | some m => exact .bind_after .releaseAll fun _ => .pure
          | none => exact hcell (item :: rest)

theorem spends_elementToHost {convert : Ref → Crossing Value}
    (hconvert : ∀ ref, Spends 0 (convert ref)) (item : Ref) :
    Spends 0 (ctx.elementToHost convert item) := by
  unfold elementToHost
  apply Spends.bind_after (.ask rfl)
  intro kind
  split
  · apply Spends.owningAll
    apply Spends.bind_after (ctx.spends_items item)
    intro inner
    apply Spends.bind_after (spends_anySequence inner)
    intro nested
    cases nested with
    | true => exact .bind_after .note fun _ => .bind_after .releaseAll fun _ => .pure
    | false => exact .bind_after (spends_convertEach hconvert inner) fun _ => .pure
  · exact hconvert item

theorem spends_objectToHost {convertSequence : Ref → Crossing Value}
    (hconvert : ∀ ref, Spends 0 (convertSequence ref)) (object : Ref) :
    Spends 0 (ctx.objectToHost convertSequence object) := by
  unfold objectToHost
  apply Spends.bind_after (.ask rfl)
  intro kind
  cases kind with
  | sequence => exact hconvert object
  | _ => exact ctx.spends_plainToHost object _

theorem spends_toHost (object : Ref) : Spends 0 (ctx.toHost object) := by
  have hwithin : ∀ depth object, Spends 0 (ctx.toHostWithin depth object) := by
    intro depth
    induction depth with
    | zero => exact ctx.spends_objectToHost fun _ => .abort
    | succ depth ih =>
        exact ctx.spends_objectToHost (ctx.spends_sequenceToHost (ctx.spends_elementToHost ih))
  exact hwithin (ctx.nesting + 1) object

/-!
# Parts that take operands
-/

theorem spends_callWith (target : Ref) (arguments : List Value) :
    Spends 1 (ctx.callWith target arguments) := by
  have htuple : Spends 0 (ctx.tupleToForeign arguments) :=
    Spends.bind_after (ctx.spends_toForeignEach arguments) ctx.spends_buildTuple
  unfold callWith
  apply Spends.bind_after htuple
  intro tuple
  apply Spends.owningAll
  apply Spends.bind_after Spends.note
  intro _
  exact Spends.operate_then fun answer => ctx.spends_checkRef _ answer

theorem spends_getItem (target : Ref) (arguments : List Value) :
    Spends 1 (ctx.getItem target arguments) := by
  unfold getItem
  apply Spends.bind_after (ctx.spends_keyToForeign arguments)
  intro key
  apply Spends.owningAll
  apply Spends.bind_after Spends.note
  intro _
  exact Spends.operate_then fun answer => ctx.spends_checkRef _ answer

theorem spends_refuseKind (object : Ref) (fault : ForeignKind → Unsupported) {count : Nat} :
    Spends count (refuseKind object fault : Crossing α) :=
  Spends.bind_after (Spends.ask rfl) fun _ => Spends.throw

theorem spends_step (target : Ref) (link : Accessor) :
    Spends link.hasOperands.toNat (ctx.step target link) := by
  cases link with
  | field name => exact ctx.spends_getAttr target name
  | call arguments =>
      apply Spends.bind_after (Spends.ask rfl)
      intro callable
      cases callable with
      | true => exact ctx.spends_callWith target arguments
      | false =>
          apply Spends.bind_after (Spends.ask rfl)
          intro indexing
          cases indexing with
          | true => exact ctx.spends_getItem target arguments
          | false => exact spends_refuseKind target _
  | index arguments =>
      apply Spends.bind_after (Spends.ask rfl)
      intro indexing
      cases indexing with
      | true => exact ctx.spends_getItem target arguments
      | false => exact spends_refuseKind target _

theorem spends_walk (target : Ref) (links : List Accessor) :
    Spends (links.countP Accessor.hasOperands) (ctx.walk target links) := by
  induction links generalizing target with
  | nil => exact Spends.pure
  | cons link links ih =>
      have hstep : Spends link.hasOperands.toNat (owning target (ctx.step target link)) :=
        Spends.owningAll (ctx.spends_step target link)
      have hwalk := hstep.bind ih
      apply hwalk.mono
      rw [List.countP_cons]
      cases link.hasOperands with
      | true => exact Nat.le_of_eq (Nat.add_comm _ _)
      | false => exact Nat.le_of_eq (Nat.add_comm _ _)

theorem spends_resolve (on : Receiver) : Spends 0 (ctx.resolve on) := by
  have hlongest : ∀ segments count, Spends 0 (ctx.importLongest segments count) := by
    intro segments count
    induction count with
    | zero => exact Spends.bind_after (ctx.spends_importModule _) fun module => Spends.pure
    | succ count ih =>
        apply Spends.bind_after (spends_tryImport _)
        intro found
        cases found with
        | some module => exact Spends.pure
        | none => exact ih
  cases on with
  | handle h => exact Spends.bind_after (ctx.spends_requireOwn h) fun _ => spends_acquire h
  | name path =>
      show Spends 0 (ctx.resolveName path)
      unfold resolveName
      dsimp only
      cases (segments path).any String.isEmpty with
      | true => exact Spends.throw
      | false =>
          apply Spends.bind_after (hlongest _ _)
          intro found
          apply (ctx.spends_walk found.1 (found.2.map Accessor.field)).mono
          rw [List.countP_map]
          exact Nat.le_of_eq (List.countP_eq_zero.2 fun name _ => Bool.false_ne_true)

end Context
end ForeignBridge
