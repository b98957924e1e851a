import ForeignBridge.Proofs.Crossing.Custody
import ForeignBridge.Proofs.Crossing.Service

/-!
# Custody in requests of the host

A request of the host mentions only objects of which it holds references, or which handles name that
came with it and belong to the same bridge.  The lemmas follow the modules of the bridge.
-/

namespace ForeignBridge

/-- The handles that come with a link. -/
def Accessor.handles : Accessor → List Handle
  | .field _ => []
  | .call arguments | .index arguments => Value.handlesAll arguments

/-- The handles of a receiver. -/
def Receiver.handles : Receiver → List Handle
  | .handle h => [h]
  | .name _ => []

/-- The handles that come with a request of the host. -/
def Entry.handles : Entry → List Handle
  | .importModule _ => []
  | .construct module _ arguments => module :: Value.handlesAll arguments
  | .invoke on _ arguments => on.handles ++ Value.handlesAll arguments
  | .getField on _ => on.handles
  | .setField on _ value => on.handles ++ value.handles
  | .read root chain => root :: chain.flatMap Accessor.handles
  | .assign root chain value => root :: (chain.flatMap Accessor.handles ++ value.handles)
  | .members h => [h]

namespace Context

open Crossing

variable {α : Type} {firm : Bool} {own : Ref → Prop} {env : Surroundings} (ctx : Context)

/-- The objects of the handles of a bridge are lent to it. -/
def Lends (env : Surroundings) (handles : List Handle) : Prop :=
  ∀ h ∈ handles, h.context = ctx.id → env.lent h.ref

theorem Lends.mono {ctx : Context} {env' : Surroundings} {handles : List Handle}
    (h : ctx.Lends env handles) (hwithin : env.Within env') : ctx.Lends env' handles :=
  fun handle hhandle hown => hwithin.lent _ (h handle hhandle hown)

theorem Lends.subset {ctx : Context} {handles others : List Handle} (h : ctx.Lends env handles)
    (hsub : ∀ handle ∈ others, handle ∈ handles) : ctx.Lends env others :=
  fun handle hhandle hown => h handle (hsub handle hhandle) hown

/-!
# From the host to the runtime
-/

theorem custody_scalarToForeign (s : Scalar) :
    Custody firm own env 0 (ctx.scalarToForeign s) fun ref => {ref} := by
  unfold scalarToForeign
  apply Custody.bind Custody.note
  intro _
  exact ctx.custody_checkedRef rfl (fun _ h => absurd h List.not_mem_nil) fun _ => rfl

theorem custody_textToForeign (text : String) :
    Custody firm own env 0 (ctx.textToForeign text) fun ref => {ref} :=
  ctx.custody_checkedRef rfl (fun _ h => absurd h List.not_mem_nil) fun _ => rfl

theorem custody_buildTuple (items : List Ref) :
    Custody firm own env (items : Multiset Ref) (ctx.buildTuple items) fun ref => {ref} := by
  refine Custody.of_eq (Custody.owningAll items ?_) (add_zero _).symm fun _ => rfl
  exact ctx.custody_checkedRef rfl (fun _ h => env.lent_of_mem h) fun _ => rfl

theorem custody_matrixToForeign (m : Matrix) :
    Custody firm own env 0 (ctx.matrixToForeign m) fun ref => {ref} := by
  unfold matrixToForeign
  cases m.rows? with
  | none => exact custody_refuse _
  | some rows =>
      have hrow : ∀ leaves : List Scalar,
          Custody firm own env 0 (acquireEach ctx.scalarToForeign leaves >>= ctx.buildTuple)
            fun ref => {ref} :=
        fun leaves => Custody.bind (Custody.acquireEach fun s _ => ctx.custody_scalarToForeign s)
          ctx.custody_buildTuple
      exact Custody.bind (Custody.acquireEach fun row _ => hrow row) ctx.custody_buildTuple

theorem custody_handleToForeign {h : Handle} (hlends : ctx.Lends env [h]) :
    Custody firm own env 0 (ctx.handleToForeign h) fun ref => {ref} := by
  unfold handleToForeign
  by_cases hown : h.context = ctx.id
  · rw [if_pos hown]
    apply Custody.bind (Custody.obtain rfl fun ref href => ?_)
    · intro _
      exact Custody.pure rfl
    · rw [List.mem_singleton.1 href]
      exact hlends h List.mem_cons_self hown
  · rw [if_neg hown]
    exact custody_refuse _

mutual

theorem custody_toForeign {env : Surroundings} (v : Value) (hlends : ctx.Lends env v.handles) :
    Custody firm own env 0 (ctx.toForeign v) fun ref => {ref} := by
  cases v with
  | undefined =>
      unfold toForeign
      exact Custody.obtain rfl fun _ h => absurd h List.not_mem_nil
  | scalar s =>
      unfold toForeign
      exact ctx.custody_scalarToForeign s
  | text s =>
      unfold toForeign
      exact ctx.custody_textToForeign s
  | cell items =>
      unfold toForeign
      cases allTexts? items with
      | some texts =>
          exact Custody.bind (Custody.acquireEach fun text _ => ctx.custody_textToForeign text)
            ctx.custody_buildTuple
      | none => exact Custody.bind (custody_toForeignEach items hlends) ctx.custody_buildTuple
  | matrix m =>
      unfold toForeign
      exact ctx.custody_matrixToForeign m
  | foreign h =>
      unfold toForeign
      exact ctx.custody_handleToForeign hlends

theorem custody_toForeignEach {env : Surroundings} (values : List Value)
    (hlends : ctx.Lends env (Value.handlesAll values)) :
    Custody firm own env 0 (ctx.toForeignEach values) fun refs => (refs : Multiset Ref) := by
  cases values with
  | nil =>
      unfold toForeignEach
      exact Custody.pure rfl
  | cons value values =>
      unfold toForeignEach
      apply Custody.bind (custody_toForeign value
        (hlends.subset fun h hh => List.mem_append_left _ hh))
      intro ref
      apply Custody.bind (Custody.keeping_only [ref] (custody_toForeignEach values
        ((hlends.subset fun h hh => List.mem_append_right _ hh).mono (env.within_lending [ref]))))
      intro refs
      exact Custody.pure rfl

end

theorem custody_tupleToForeign (values : List Value)
    (hlends : ctx.Lends env (Value.handlesAll values)) :
    Custody firm own env 0 (ctx.tupleToForeign values) fun ref => {ref} :=
  Custody.bind (ctx.custody_toForeignEach values hlends) ctx.custody_buildTuple

/-!
# From the runtime to the host
-/

theorem custody_leafToHost {object : Ref} (hobject : env.lent object) :
    Custody firm own env 0 (ctx.leafToHost object) fun _ => 0 := by
  unfold leafToHost
  apply Custody.bind (custody_look hobject rfl (fun _ => rfl) rfl)
  intro kind
  split
  · exact Custody.bind (custody_look hobject rfl (fun _ => rfl) rfl) fun _ => Custody.pure rfl
  · exact Custody.bind (ctx.custody_integerToHost hobject) fun _ => Custody.pure rfl
  · exact Custody.bind (ctx.custody_floatToHost hobject) fun _ => Custody.pure rfl

theorem custody_itemsFrom {env : Surroundings} {sequence : Ref} (hsequence : env.lent sequence)
    (index count : Nat) :
    Custody firm own env 0 (ctx.itemsFrom sequence index count)
      fun items => (items : Multiset Ref) := by
  induction count generalizing env index with
  | zero => exact Custody.pure rfl
  | succ count ih =>
      unfold itemsFrom
      rw [← bind_assoc]
      apply Custody.bind (ctx.custody_checkedRef rfl (fun ref href => ?_) fun _ => rfl)
      · intro item
        have hrest := (env.within_lending [item]).lent sequence hsequence
        apply Custody.bind (Custody.keeping_only [item] (ih hrest (index + 1)))
        intro items
        exact Custody.pure rfl
      · rw [List.mem_singleton.1 href]
        exact hsequence

theorem custody_items {sequence : Ref} (hsequence : env.lent sequence) :
    Custody firm own env 0 (ctx.items sequence) fun items => (items : Multiset Ref) := by
  unfold items
  apply Custody.bind (custody_look hsequence rfl (fun _ => rfl) rfl)
  intro answer
  apply Custody.bind (ctx.custody_checkValue .sequenceLength answer)
  intro count
  exact ctx.custody_itemsFrom hsequence 0 count

theorem custody_allNumeric {held : Multiset Ref} {objects : List Ref}
    (hobjects : ∀ object ∈ objects, object ∈ held) :
    Custody firm own env held (allNumeric objects) fun _ => held := by
  induction objects with
  | nil => exact Custody.pure rfl
  | cons object rest ih =>
      apply Custody.bind (Custody.look rfl (fun _ => rfl) fun ref href => ?_)
      · intro kind
        cases kind.isNumeric with
        | true => exact ih fun other hother => hobjects other (List.mem_cons_of_mem object hother)
        | false => exact Custody.pure rfl
      · rw [List.mem_singleton.1 href]
        exact .inl (hobjects object List.mem_cons_self)

/-- What follows the search for a sequence among some objects knows of all of them that they are
none, unless one was found. -/
theorem custody_anySequence_bind {env : Surroundings} {held : Multiset Ref} {objects : List Ref}
    {f : Bool → Crossing α} {after : α → Multiset Ref}
    (hobjects : ∀ object ∈ objects, object ∈ held)
    (hfound : ∀ env', env.Within env' → Custody firm own env' held (f true) after)
    (hnone : ∀ env', env.Within env' → (∀ object ∈ objects, env'.plain object) →
      Custody firm own env' held (f false) after) :
    Custody firm own env held (anySequence objects >>= f) after := by
  induction objects generalizing env with
  | nil =>
      unfold anySequence
      rw [pure_bind]
      exact hnone env ⟨fun _ h => h, fun _ h => h⟩ nofun
  | cons object rest ih =>
      unfold anySequence
      rw [bind_assoc]
      apply Custody.kindOf_bind (.inl (hobjects object List.mem_cons_self))
      · intro _
        rw [if_pos rfl, pure_bind]
        exact hfound env ⟨fun _ h => h, fun _ h => h⟩
      · intro kind hkind
        rw [if_neg hkind]
        have hknowing := env.within_knowing object
        apply ih fun other hother => hobjects other (List.mem_cons_of_mem object hother)
        · intro env' hwithin
          exact hfound env' ⟨fun ref h => hwithin.lent ref (hknowing.lent ref h),
            fun ref h => hwithin.plain ref (hknowing.plain ref h)⟩
        · intro env' hwithin hplain
          refine hnone env' ⟨fun ref h => hwithin.lent ref (hknowing.lent ref h),
            fun ref h => hwithin.plain ref (hknowing.plain ref h)⟩ fun other hother => ?_
          rcases List.mem_cons.1 hother with hhead | htail
          · exact hwithin.plain other (.inl hhead)
          · exact hplain other htail

theorem custody_rowFits {held : Multiset Ref} (columns : Option Nat) {leaves : List Ref}
    (hleaves : ∀ leaf ∈ leaves, leaf ∈ held) :
    Custody firm own env held (rowFits columns leaves) fun _ => held := by
  unfold rowFits
  by_cases hlength : columns.getD leaves.length = leaves.length
  · rw [if_pos hlength]
    exact custody_allNumeric hleaves
  · rw [if_neg hlength]
    exact Custody.pure rfl

theorem custody_numericRows {env : Surroundings} (columns : Option Nat) {objects : List Ref}
    (hobjects : ∀ object ∈ objects, env.lent object) :
    Custody firm own env 0 (ctx.numericRows columns objects) heldRows := by
  induction objects generalizing columns env with
  | nil =>
      unfold numericRows
      exact Custody.pure rfl
  | cons object rest ih =>
      have hobject := hobjects object List.mem_cons_self
      unfold numericRows
      apply Custody.bind (custody_look hobject rfl (fun _ => rfl) rfl)
      intro kind
      by_cases hkind : kind = .sequence
      · rw [if_pos hkind]
        apply Custody.bind (ctx.custody_items hobject)
        intro leaves
        apply Custody.bind (custody_rowFits columns fun leaf hleaf => hleaf)
        intro fits
        cases fits with
        | true =>
            have hrest : ∀ other ∈ rest, (env.lending leaves).lent other := fun other hother =>
              (env.within_lending leaves).lent other (hobjects other (List.mem_cons_of_mem _ hother))
            apply Custody.bind (Custody.keeping_only leaves (ih (some leaves.length) hrest))
            intro rows?
            cases rows? with
            | some rows => exact Custody.pure rfl
            | none => exact Custody.bind Custody.releaseAll fun _ => Custody.pure rfl
        | false =>
            apply Custody.bind (Custody.of_eq Custody.releaseAll (add_zero _).symm fun _ => rfl)
            intro _
            exact Custody.pure rfl
      · rw [if_neg hkind]
        exact Custody.pure rfl

theorem custody_matrixToHost {rows : List Ref} (hrows : ∀ row ∈ rows, env.lent row) :
    Custody firm own env 0 (ctx.matrixToHost rows) fun _ => 0 := by
  unfold matrixToHost
  apply Custody.bind (ctx.custody_numericRows none hrows)
  intro leaves?
  cases leaves? with
  | none => exact Custody.pure rfl
  | some leaves =>
      refine Custody.of_eq (Custody.owningAll leaves.flatten ?_) (add_zero _).symm fun _ => rfl
      apply Custody.bind (Custody.mapM fun leaf hleaf => ctx.custody_leafToHost
        (env.lent_of_mem hleaf))
      intro elements
      dsimp only
      cases Matrix.ofDoubles rows.length ((leaves.head?.map List.length).getD 0) elements with
      | ok m => exact Custody.pure rfl
      | error fault => exact custody_refuse _

/-- A conversion takes over one reference and hands on those inside its result. -/
def Converts (firm : Bool) (own : Ref → Prop) (env : Surroundings) (convert : Ref → Crossing Value)
    (object : Ref) : Prop :=
  Custody firm own env {object} (convert object) fun v => (v.refs : Multiset Ref)

theorem custody_convertEach {env : Surroundings} {convert : Ref → Crossing Value}
    {objects : List Ref}
    (hconvert : ∀ env', env.Within env' → ∀ object ∈ objects,
      Converts firm own env' convert object) :
    Custody firm own env (objects : Multiset Ref) (convertEach convert objects)
      fun values => (Value.refsAll values : Multiset Ref) := by
  induction objects generalizing env with
  | nil =>
      unfold convertEach
      exact Custody.pure rfl
  | cons object rest ih =>
      have hparts : ((object :: rest : List Ref) : Multiset Ref) = (rest : Multiset Ref) + {object} := by
        rw [← Multiset.cons_coe, ← Multiset.singleton_add, add_comm]
      have hobject := hconvert (env.lending rest) (env.within_lending rest) object
        List.mem_cons_self
      unfold convertEach
      apply Custody.bind (Custody.of_eq (Custody.keeping rest hobject) hparts fun _ => rfl)
      intro value
      have hwithin := env.within_lending value.refs
      have hrest := ih fun env' hwithin' other hother =>
        hconvert env' ⟨fun ref h => hwithin'.lent ref (hwithin.lent ref h),
          fun ref h => hwithin'.plain ref (hwithin.plain ref h)⟩ other
          (List.mem_cons_of_mem object hother)
      apply Custody.bind (Custody.of_eq (Custody.keeping value.refs hrest) (add_comm _ _)
        fun _ => rfl)
      intro values
      apply Custody.pure
      rw [Multiset.coe_add]
      unfold Value.refsAll Value.refs
      rw [Value.handlesAll, List.map_append]

theorem custody_plainToHost (object : Ref) (kind : ForeignKind) :
    Custody firm own env {object} (ctx.plainToHost object kind)
      fun v => (v.refs : Multiset Ref) := by
  have hhandle : Custody firm own env {object}
      (ctx.wrap object >>= fun h => Pure.pure (Value.foreign h))
      fun v => (v.refs : Multiset Ref) :=
    Custody.bind (ctx.custody_wrap object) fun h => Custody.pure rfl
  have hlent := env.lent_self object
  cases kind with
  | null => exact Custody.owning_only (Custody.pure rfl)
  | bool =>
      exact Custody.owning_only (Custody.bind (custody_look hlent rfl (fun _ => rfl) rfl)
        fun _ => Custody.pure rfl)
  | integer =>
      exact Custody.owning_only
        (Custody.bind (ctx.custody_integerToHost hlent) fun _ => Custody.pure rfl)
  | float =>
      exact Custody.owning_only
        (Custody.bind (ctx.custody_floatToHost hlent) fun _ => Custody.pure rfl)
  | bytes | unicode =>
      exact Custody.owning_only
        (Custody.bind (ctx.custody_textToHost hlent) fun _ => Custody.pure rfl)
  | sequence | attributeBag | object => exact hhandle

/-- The items of a list are converted by a conversion that may rely on their not being sequences, if
that is known. -/
theorem custody_sequenceToHost {convert : Ref → Crossing Value} {sequence : Ref}
    (hconvert : ∀ env', env.Within env' → ∀ object, Converts firm own env' convert object) :
    Converts firm own env (ctx.sequenceToHost convert) sequence := by
  unfold Converts sequenceToHost
  have hwithin := env.within_lending [sequence]
  have hinner : ∀ env', (env.lending [sequence]).Within env' → ∀ object,
      Converts firm own env' convert object := fun env' h object =>
    hconvert env' ⟨fun ref href => h.lent ref (hwithin.lent ref href),
      fun ref href => h.plain ref (hwithin.plain ref href)⟩ object
  apply Custody.owning_only
  apply Custody.bind (ctx.custody_items (env.lent_self sequence))
  intro items
  have hcell : Custody firm own (env.lending [sequence]) (items : Multiset Ref)
      (convertEach convert items >>= fun values => Pure.pure (Value.cell values))
      fun v => (v.refs : Multiset Ref) :=
    Custody.bind (custody_convertEach fun env' h object _ => hinner env' h object)
      fun values => Custody.pure rfl
  cases ctx.settings.matrixAutoconversion with
  | false => exact hcell
  | true =>
      cases items with
      | nil => exact Custody.pure rfl
      | cons item rest =>
          have hrows : ∀ row ∈ item :: rest,
              ((env.lending [sequence]).lending (item :: rest)).lent row := fun row hrow =>
            (env.lending [sequence]).lent_of_mem hrow
          apply Custody.bind (Custody.of_eq
            (Custody.keeping_only (item :: rest) (ctx.custody_matrixToHost hrows)) rfl
            fun _ => add_zero _)
          intro matrix?
          cases matrix? with
          | some m =>
              apply Custody.bind (Custody.of_eq Custody.releaseAll (add_zero _).symm fun _ => rfl)
              intro _
              exact Custody.pure rfl
          | none => exact hcell

theorem custody_elementToHost {convert : Ref → Crossing Value} {item : Ref}
    (hconvert : ∀ env', env.Within env' → ∀ object, env'.plain object →
      Converts firm own env' convert object) :
    Converts firm own env (ctx.elementToHost convert) item := by
  unfold Converts elementToHost
  apply Custody.kindOf_bind (.inl (Multiset.mem_singleton_self item))
  · intro _
    rw [if_pos rfl]
    apply Custody.owning_only
    apply Custody.bind (ctx.custody_items (env.lent_self item))
    intro inner
    apply custody_anySequence_bind fun object hobject => hobject
    · intro env' _
      apply Custody.bind Custody.note
      intro _
      apply Custody.bind (Custody.of_eq Custody.releaseAll (add_zero _).symm fun _ => rfl)
      intro _
      apply Custody.pure
      rw [Value.refs_placeholders, Multiset.coe_nil]
    · intro env' hwithin hplain
      refine Custody.bind (custody_convertEach fun env'' hwithin' object hobject => ?_)
        fun values => Custody.pure rfl
      refine hconvert env'' ⟨fun ref h => ?_, fun ref h => ?_⟩ object
        (hwithin'.plain object (hplain object hobject))
      · exact hwithin'.lent ref (hwithin.lent ref ((env.within_lending [item]).lent ref h))
      · exact hwithin'.plain ref (hwithin.plain ref h)
  · intro kind hkind
    rw [if_neg hkind]
    exact hconvert _ (env.within_knowing item) item (.inl rfl)

theorem custody_objectToHost {convertSequence : Ref → Crossing Value} {object : Ref}
    (hconvert : ¬ (firm = true ∧ env.plain object) →
      Converts firm own env convertSequence object) :
    Converts firm own env (ctx.objectToHost convertSequence) object := by
  unfold Converts objectToHost
  apply Custody.kindOf_bind (.inl (Multiset.mem_singleton_self object)) hconvert
  intro kind hkind
  cases kind with
  | sequence => exact absurd rfl hkind
  | null | bool | integer | float | bytes | unicode | attributeBag | object =>
      exact ctx.custody_plainToHost object _

/-- A conversion breaks off only if a runtime that is not firm contradicts itself. -/
theorem custody_toHostWithin {env : Surroundings} (depth : Nat) {object : Ref}
    (hknown : depth = 0 → env.plain object) :
    Converts firm own env (ctx.toHostWithin depth) object := by
  induction depth generalizing env object with
  | zero =>
      apply ctx.custody_objectToHost
      intro hloose frame plain _ _
      rw [follows_abort]
      cases firm with
      | false => rfl
      | true => exact absurd ⟨rfl, hknown rfl⟩ hloose
  | succ depth ih =>
      apply ctx.custody_objectToHost
      intro _
      apply ctx.custody_sequenceToHost
      intro env' hwithin item
      apply ctx.custody_elementToHost
      intro env'' hwithin' inner hplain
      exact ih fun _ => hplain

theorem custody_toHost (object : Ref) : Converts firm own env ctx.toHost object :=
  ctx.custody_toHostWithin (ctx.nesting + 1) nofun

/-!
# Chains
-/

theorem custody_importModule (name : String) :
    Custody firm own env 0 (ctx.importModule name) fun ref => {ref} := by
  unfold importModule
  apply Custody.bind Custody.note
  intro _
  exact ctx.custody_checkedRef rfl (fun _ h => absurd h List.not_mem_nil) fun _ => rfl

theorem custody_getAttr {target : Ref} (name : String) (htarget : env.lent target) :
    Custody firm own env 0 (ctx.getAttr target name) fun ref => {ref} := by
  unfold getAttr
  apply Custody.bind Custody.note
  intro _
  refine ctx.custody_checkedRef rfl (fun ref href => ?_) fun _ => rfl
  rw [List.mem_singleton.1 href]
  exact htarget

theorem custody_setAttr {target value : Ref} (name : String) (htarget : env.lent target)
    (hvalue : env.lent value) :
    Custody firm own env 0 (ctx.setAttr target name value) fun _ => 0 := by
  have hmentions : ∀ ref ∈ (Request.setAttr target name value).mentions,
      ref ∈ (0 : Multiset Ref) ∨ env.lent ref := by
    simp only [Request.mentions, List.forall_mem_cons]
    exact ⟨.inr htarget, .inr hvalue, nofun⟩
  unfold setAttr
  apply Custody.bind Custody.note
  intro _
  apply Custody.bind (Custody.look rfl (fun _ => rfl) hmentions)
  intro status
  exact ctx.custody_checkValue .setField _

theorem custody_callWith {target : Ref} (arguments : List Value) (htarget : env.lent target)
    (hlends : ctx.Lends env (Value.handlesAll arguments)) :
    Custody firm own env 0 (ctx.callWith target arguments) fun ref => {ref} := by
  unfold callWith
  apply Custody.bind (ctx.custody_tupleToForeign arguments hlends)
  intro tuple
  have hmentions : ∀ ref ∈ [target, tuple], (env.lending [tuple]).lent ref := by
    simp only [List.forall_mem_cons]
    exact ⟨.inr htarget, env.lent_self tuple, nofun⟩
  apply Custody.owning_only
  apply Custody.bind Custody.note
  intro _
  exact ctx.custody_checkedRef rfl hmentions fun _ => rfl

theorem custody_keyToForeign (arguments : List Value) :
    Custody firm own env 0 (ctx.keyToForeign arguments) fun ref => {ref} := by
  unfold keyToForeign
  cases positionOf arguments with
  | error fault => exact Custody.throw
  | ok position =>
      dsimp only
      cases HostInt.ofInt .int64 position with
      | ok key => exact ctx.custody_scalarToForeign (.int key)
      | error fault => exact Custody.throw

theorem custody_getItem {target : Ref} (arguments : List Value) (htarget : env.lent target) :
    Custody firm own env 0 (ctx.getItem target arguments) fun ref => {ref} := by
  unfold getItem
  apply Custody.bind (ctx.custody_keyToForeign arguments)
  intro key
  have hmentions : ∀ ref ∈ [target, key], (env.lending [key]).lent ref := by
    simp only [List.forall_mem_cons]
    exact ⟨.inr htarget, env.lent_self key, nofun⟩
  apply Custody.owning_only
  apply Custody.bind Custody.note
  intro _
  exact ctx.custody_checkedRef rfl hmentions fun _ => rfl

theorem custody_setItem {target value : Ref} (arguments : List Value) (htarget : env.lent target)
    (hvalue : env.lent value) :
    Custody firm own env 0 (ctx.setItem target arguments value) fun _ => 0 := by
  unfold setItem
  apply Custody.bind (ctx.custody_keyToForeign arguments)
  intro key
  have hmentions : ∀ ref ∈ (Request.setItem target key value).mentions,
      ref ∈ (0 : Multiset Ref) ∨ (env.lending [key]).lent ref := by
    simp only [Request.mentions, List.forall_mem_cons]
    exact ⟨.inr (.inr htarget), .inr (env.lent_self key), .inr (.inr hvalue), nofun⟩
  apply Custody.owning_only
  apply Custody.bind Custody.note
  intro _
  apply Custody.bind (Custody.look rfl (fun _ => rfl) hmentions)
  intro status
  exact ctx.custody_checkValue .assignIndex _

theorem custody_refuseKind {object : Ref} (fault : ForeignKind → Unsupported)
    {after : α → Multiset Ref} (hobject : env.lent object) :
    Custody firm own env 0 (refuseKind object fault) after :=
  Custody.bind (custody_look hobject rfl (fun _ => rfl) rfl) fun _ => Custody.throw

theorem custody_step {target : Ref} (link : Accessor) (htarget : env.lent target)
    (hlends : ctx.Lends env link.handles) :
    Custody firm own env 0 (ctx.step target link) fun ref => {ref} := by
  have hindexed : ∀ (fault : ForeignKind → Unsupported) (arguments : List Value),
      Custody firm own env 0 (do
        if ← Crossing.ask (.supportsIndexing target) then ctx.getItem target arguments
        else refuseKind target fault) fun ref => {ref} := by
    intro fault arguments
    apply Custody.bind (custody_look htarget rfl (fun _ => rfl) rfl)
    intro indexing
    cases indexing with
    | true => exact ctx.custody_getItem arguments htarget
    | false => exact custody_refuseKind _ htarget
  cases link with
  | field name => exact ctx.custody_getAttr name htarget
  | call arguments =>
      apply Custody.bind (custody_look htarget rfl (fun _ => rfl) rfl)
      intro callable
      cases callable with
      | true => exact ctx.custody_callWith arguments htarget hlends
      | false => exact hindexed _ arguments
  | index arguments => exact hindexed _ arguments

theorem custody_walk {env : Surroundings} (target : Ref) (links : List Accessor)
    (hlends : ctx.Lends env (links.flatMap Accessor.handles)) :
    Custody firm own env {target} (ctx.walk target links) fun ref => {ref} := by
  induction links generalizing target with
  | nil => exact Custody.pure rfl
  | cons link links ih =>
      rw [List.flatMap_cons] at hlends
      have hlink := (hlends.subset fun h hh => List.mem_append_left _ hh).mono
        (env.within_lending [target])
      apply Custody.bind (Custody.owning_only
        (ctx.custody_step link (env.lent_self target) hlink))
      intro next
      exact ih next (hlends.subset fun h hh => List.mem_append_right _ hh)

theorem custody_assign {target : Ref} (value : Value) (link : Accessor) (htarget : env.lent target)
    (hlends : ctx.Lends env value.handles) :
    Custody firm own env 0 (ctx.assign target value link) fun _ => 0 := by
  have hindexed : ∀ arguments : List Value,
      Custody firm own env 0 (ctx.assign target value (.index arguments)) fun _ => 0 := by
    intro arguments
    apply Custody.bind (custody_look htarget rfl (fun _ => rfl) rfl)
    intro indexing
    cases indexing with
    | true =>
        apply Custody.bind (ctx.custody_toForeign value hlends)
        intro ref
        exact Custody.owning_only (ctx.custody_setItem arguments
          ((env.within_lending [ref]).lent target htarget) (env.lent_self ref))
    | false => exact custody_refuseKind _ htarget
  cases link with
  | field name =>
      apply Custody.bind (ctx.custody_toForeign value hlends)
      intro ref
      exact Custody.owning_only (ctx.custody_setAttr name
        ((env.within_lending [ref]).lent target htarget) (env.lent_self ref))
  | call arguments => exact hindexed arguments
  | index arguments => exact hindexed arguments

theorem custody_acquire {h : Handle} (hlent : env.lent h.ref) :
    Custody firm own env 0 (acquire h) fun ref => {ref} := by
  unfold acquire
  apply Custody.bind (Custody.obtain rfl fun ref href => ?_)
  · intro _
    exact Custody.pure rfl
  · rw [List.mem_singleton.1 href]
    exact hlent

/-- The reference that is acquired of a handle is to its object. -/
theorem custody_acquire_bind {h : Handle} {f : Ref → Crossing α} {after : α → Multiset Ref}
    (hlent : env.lent h.ref) (hf : Custody firm own env {h.ref} (f h.ref) after) :
    Custody firm own env 0 (acquire h >>= f) after := by
  unfold acquire
  rw [bind_assoc]
  apply Custody.bind (Custody.obtain rfl fun ref href => ?_)
  · intro _
    rw [pure_bind]
    exact hf
  · rw [List.mem_singleton.1 href]
    exact hlent

theorem custody_readChain {root : Handle} {chain : List Accessor} (hroot : env.lent root.ref)
    (hlends : ctx.Lends env (chain.flatMap Accessor.handles)) :
    Custody firm own env 0 (ctx.readChain root chain) fun v => (v.refs : Multiset Ref) := by
  unfold readChain
  apply custody_acquire_bind hroot
  cases chain with
  | nil => exact Custody.pure rfl
  | cons link links =>
      apply Custody.bind (ctx.custody_walk root.ref (link :: links) hlends)
      intro target
      exact ctx.custody_toHost target

theorem custody_assignChain {root : Handle} {chain : List Accessor} {value : Value}
    (hroot : env.lent root.ref) (hchain : ctx.Lends env (chain.flatMap Accessor.handles))
    (hvalue : ctx.Lends env value.handles) :
    Custody firm own env 0 (ctx.assignChain root chain value) fun h => {h.ref} := by
  unfold assignChain
  cases chain.getLast? with
  | none => exact Custody.throw
  | some last =>
      have hwalk : ctx.Lends env (chain.dropLast.flatMap Accessor.handles) := by
        refine hchain.subset fun h hh => ?_
        rcases List.mem_flatMap.1 hh with ⟨link, hlink, hmem⟩
        exact List.mem_flatMap.2 ⟨link, List.dropLast_subset _ hlink, hmem⟩
      apply Custody.bind (custody_acquire hroot)
      intro target
      apply Custody.bind (ctx.custody_walk target chain.dropLast hwalk)
      intro target
      have hwithin := env.within_lending [target]
      apply Custody.owning_only
      apply Custody.bind (ctx.custody_assign value last (env.lent_self target)
        (hvalue.mono hwithin))
      intro _
      exact custody_acquire_bind (hwithin.lent _ hroot) (Custody.pure rfl)

/-!
# Requests of the host
-/

theorem custody_importLongest (segments : List String) (count : Nat) :
    Custody firm own env 0 (ctx.importLongest segments count) fun found => {found.1} := by
  induction count with
  | zero =>
      apply Custody.bind (ctx.custody_importModule _)
      intro module
      exact Custody.pure rfl
  | succ count ih =>
      apply Custody.bind (custody_tryImport _)
      intro found
      cases found with
      | some module => exact Custody.pure rfl
      | none => exact ih

theorem custody_resolveName (path : String) :
    Custody firm own env 0 (ctx.resolveName path) fun ref => {ref} := by
  unfold resolveName
  dsimp only
  cases (segments path).any String.isEmpty with
  | true => exact Custody.throw
  | false =>
      apply Custody.bind (ctx.custody_importLongest (segments path) ((segments path).length - 1))
      intro found
      apply ctx.custody_walk found.1
      intro h hh
      rcases List.mem_flatMap.1 hh with ⟨link, hlink, hmem⟩
      rcases List.mem_map.1 hlink with ⟨name, -, hfield⟩
      rw [← hfield] at hmem
      cases hmem

/-- What follows the check that a handle belongs to the bridge may use it. -/
theorem custody_requireOwn_bind {h : Handle} {f : Unit → Crossing α} {after : α → Multiset Ref}
    (hlends : ctx.Lends env [h])
    (hf : env.lent h.ref → Custody firm own env 0 (f ()) after) :
    Custody firm own env 0 (ctx.requireOwn h >>= f) after := by
  unfold requireOwn
  by_cases hown : h.context = ctx.id
  · rw [if_pos hown, pure_bind]
    exact hf (hlends h List.mem_cons_self hown)
  · rw [if_neg hown]
    intro frame plain _ _
    rw [follows_bind]
    exact zero_add frame

theorem custody_resolve {on : Receiver} (hlends : ctx.Lends env on.handles) :
    Custody firm own env 0 (ctx.resolve on) fun ref => {ref} := by
  cases on with
  | handle h => exact ctx.custody_requireOwn_bind hlends custody_acquire
  | name path => exact ctx.custody_resolveName path

theorem custody_memberNames {h : Handle} (hlent : env.lent h.ref) :
    Custody firm own env 0 (ctx.memberNames h) fun _ => 0 := by
  unfold memberNames
  apply Custody.bind (custody_look hlent rfl (fun _ => rfl) rfl)
  intro answer
  apply Custody.bind (ctx.custody_checkValue .members answer)
  intro names
  exact Custody.pure rfl

/-- Whatever a request of the host mentions is held, or is the object of a handle that came with it
and belongs to the bridge. -/
theorem custody_serve (entry : Entry) (hlends : ctx.Lends env entry.handles) :
    Custody firm own env 0 (ctx.serve entry) fun reply => (reply.refs : Multiset Ref) := by
  have hwrap : ∀ (env : Surroundings) (object : Ref), Custody firm own env {object}
      (ctx.wrap object >>= fun h => Pure.pure (Reply.value (.foreign h)))
      fun reply => (reply.refs : Multiset Ref) :=
    fun env object => Custody.bind (ctx.custody_wrap object) fun h => Custody.pure rfl
  have hconvert : ∀ (env : Surroundings) (object : Ref), Custody firm own env {object}
      (ctx.toHost object >>= fun v => Pure.pure (Reply.value v))
      fun reply => (reply.refs : Multiset Ref) :=
    fun env object => Custody.bind (ctx.custody_toHost object) fun v => Custody.pure rfl
  cases entry with
  | importModule name => exact Custody.bind (ctx.custody_importModule name) (hwrap env)
  | construct module className arguments =>
      have hmodule : ctx.Lends env [module] := hlends.subset fun h hh => by
        rw [List.mem_singleton.1 hh]
        exact List.mem_cons_self
      have harguments : ctx.Lends env (Value.handlesAll arguments) :=
        hlends.subset fun h hh => List.mem_cons_of_mem _ hh
      apply Custody.bind (ctx.custody_resolve hmodule)
      intro module
      apply Custody.owning_only
      apply Custody.bind (ctx.custody_getAttr className (env.lent_self module))
      intro constructor
      apply Custody.owning_only
      have hwithin := (env.lending [module]).within_lending [constructor]
      apply Custody.bind (ctx.custody_callWith arguments
        ((env.lending [module]).lent_self constructor)
        ((harguments.mono (env.within_lending [module])).mono hwithin))
      exact hwrap _
  | invoke on method arguments =>
      have harguments : ctx.Lends env (Value.handlesAll arguments) :=
        hlends.subset fun h hh => List.mem_append_right _ hh
      apply Custody.bind (ctx.custody_resolve
        (hlends.subset fun h hh => List.mem_append_left _ hh))
      intro target
      apply Custody.owning_only
      apply Custody.bind (ctx.custody_getAttr method (env.lent_self target))
      intro callable
      apply Custody.owning_only
      have hwithin := (env.lending [target]).within_lending [callable]
      apply Custody.bind (ctx.custody_callWith arguments
        ((env.lending [target]).lent_self callable)
        ((harguments.mono (env.within_lending [target])).mono hwithin))
      exact hconvert _
  | getField on field =>
      apply Custody.bind (ctx.custody_resolve hlends)
      intro target
      apply Custody.owning_only
      exact Custody.bind (ctx.custody_getAttr field (env.lent_self target)) (hconvert _)
  | setField on field value =>
      have hvalue : ctx.Lends env value.handles :=
        hlends.subset fun h hh => List.mem_append_right _ hh
      apply Custody.bind (ctx.custody_resolve
        (hlends.subset fun h hh => List.mem_append_left _ hh))
      intro target
      apply Custody.owning_only
      apply Custody.bind (ctx.custody_toForeign value
        (hvalue.mono (env.within_lending [target])))
      intro ref
      have hwithin := (env.lending [target]).within_lending [ref]
      apply Custody.bind (Custody.owning_only (ctx.custody_setAttr field
        (hwithin.lent target (env.lent_self target)) ((env.lending [target]).lent_self ref)))
      intro _
      exact Custody.pure rfl
  | read root chain =>
      apply ctx.custody_requireOwn_bind (hlends.subset fun h hh => by
        rw [List.mem_singleton.1 hh]
        exact List.mem_cons_self)
      intro hroot
      apply Custody.bind (ctx.custody_readChain hroot
        (hlends.subset fun h hh => List.mem_cons_of_mem _ hh))
      intro v
      exact Custody.pure rfl
  | assign root chain value =>
      apply ctx.custody_requireOwn_bind (hlends.subset fun h hh => by
        rw [List.mem_singleton.1 hh]
        exact List.mem_cons_self)
      intro hroot
      apply Custody.bind (ctx.custody_assignChain hroot
        (hlends.subset fun h hh => List.mem_cons_of_mem _ (List.mem_append_left _ hh))
        (hlends.subset fun h hh => List.mem_cons_of_mem _ (List.mem_append_right _ hh)))
      intro h
      exact Custody.pure rfl
  | members h =>
      apply ctx.custody_requireOwn_bind hlends
      intro hlent
      apply Custody.bind (ctx.custody_memberNames hlent)
      intro names
      exact Custody.pure rfl

end Context
end ForeignBridge
