import ForeignBridge.Proofs.Crossing.Conversion

/-!
# Tidy requests of the host

Chains and requests of the host are put together from conversions and checks, so they too hand over
exactly the references inside their results.
-/

namespace ForeignBridge

/-- The references that the host owns with a reply. -/
def Reply.refs : Reply → List Ref
  | .value v => v.refs
  | .names _ => []
  | .nothing => []

/-- The dotted prefixes of a name that the bridge tries to import before its first segment. -/
def Receiver.longerPrefixes : Receiver → List String
  | .handle _ => []
  | .name path =>
    let segments := Context.segments path
    (List.range (segments.length - 1)).map fun count => ".".intercalate (segments.take (count + 2))

/-- The module names of which an import may fail without consequences. -/
def Entry.longerPrefixes : Entry → List String
  | .invoke on _ _ | .getField on _ | .setField on _ _ => on.longerPrefixes
  | _ => []

/-- The requests of the host that write into an object. -/
def Entry.writes : Entry → Bool
  | .setField _ _ _ | .assign _ _ _ => true
  | _ => false

namespace Context

open Crossing

variable (ctx : Context) {writes : Bool} {prefixes : List String} {α : Type}

/-!
# Chains
-/

theorem tidy_importModule {name : String} (hname : name ∉ prefixes) :
    Tidy ctx writes prefixes 0 (ctx.importModule name) fun ref => {ref} := by
  unfold importModule
  apply Tidy.bind (Tidy.note rfl)
  intro _
  refine Tidy.checkedRef List.mem_cons_self (fun _ => rfl) (fun _ => rfl) fun _ _ => ?_
  simpa [Occurrence.tolerated] using hname

theorem tidy_getAttr (target : Ref) (name : String) :
    Tidy ctx writes prefixes 0 (ctx.getAttr target name) fun ref => {ref} := by
  unfold getAttr
  apply Tidy.bind (Tidy.note rfl)
  intro _
  exact Tidy.checkedRef List.mem_cons_self (fun _ => rfl) (fun _ => rfl) fun _ _ => rfl

/-- A status is checked as a value that is missing after a failure. -/
theorem not_eq_isNone (ok : Bool) : (!ok) = (if ok then some () else none).isNone := by
  cases ok with
  | true => rfl
  | false => rfl

theorem tidy_setAttr (target : Ref) (name : String) (value : Ref) :
    Tidy ctx true prefixes 0 (ctx.setAttr target name value) fun _ => 0 := by
  unfold setAttr
  apply Tidy.bind (Tidy.note rfl)
  intro _
  exact Tidy.checkedValue (fun _ => rfl) List.mem_cons_self (fun _ => rfl) not_eq_isNone
    fun _ _ => rfl

theorem tidy_callWith (target : Ref) (arguments : List Value) :
    Tidy ctx writes prefixes 0 (ctx.callWith target arguments) fun ref => {ref} := by
  unfold callWith
  apply Tidy.bind (ctx.tidy_tupleToForeign arguments)
  intro tuple
  apply Tidy.owning_only
  apply Tidy.bind (Tidy.note rfl)
  intro _
  exact Tidy.checkedRef List.mem_cons_self (fun _ => rfl) (fun _ => rfl) fun _ _ => rfl

theorem tidy_keyToForeign (arguments : List Value) :
    Tidy ctx writes prefixes 0 (ctx.keyToForeign arguments) fun ref => {ref} := by
  unfold keyToForeign
  cases positionOf arguments with
  | error fault => exact Tidy.throw fun _ _ h => by cases h
  | ok position =>
      dsimp only
      cases HostInt.ofInt .int64 position with
      | ok key => exact ctx.tidy_scalarToForeign (.int key)
      | error fault => exact Tidy.throw (ofNumeric_ne_foreignRuntime fault)

theorem tidy_getItem (target : Ref) (arguments : List Value) :
    Tidy ctx writes prefixes 0 (ctx.getItem target arguments) fun ref => {ref} := by
  unfold getItem
  apply Tidy.bind (ctx.tidy_keyToForeign arguments)
  intro key
  apply Tidy.owning_only
  apply Tidy.bind (Tidy.note rfl)
  intro _
  exact Tidy.checkedRef List.mem_cons_self (fun _ => rfl) (fun _ => rfl) fun _ _ => rfl

theorem tidy_setItem (target : Ref) (arguments : List Value) (value : Ref) :
    Tidy ctx true prefixes 0 (ctx.setItem target arguments value) fun _ => 0 := by
  unfold setItem
  apply Tidy.bind (ctx.tidy_keyToForeign arguments)
  intro key
  apply Tidy.owning_only
  apply Tidy.bind (Tidy.note rfl)
  intro _
  exact Tidy.checkedValue (fun _ => rfl) List.mem_cons_self (fun _ => rfl) not_eq_isNone
    fun _ _ => rfl

theorem tidy_refuseKind (object : Ref) (fault : ForeignKind → Unsupported)
    {after : α → Multiset Ref} : Tidy ctx writes prefixes 0 (refuseKind object fault) after :=
  Tidy.bind (Tidy.look rfl) fun _ => Tidy.throw fun _ _ h => by cases h

theorem tidy_step (target : Ref) (link : Accessor) :
    Tidy ctx writes prefixes 0 (ctx.step target link) fun ref => {ref} := by
  cases link with
  | field name => exact ctx.tidy_getAttr target name
  | call arguments =>
      apply Tidy.bind (Tidy.look rfl)
      intro callable
      cases callable with
      | true => exact ctx.tidy_callWith target arguments
      | false =>
          apply Tidy.bind (Tidy.look rfl)
          intro indexing
          cases indexing with
          | true => exact ctx.tidy_getItem target arguments
          | false => exact ctx.tidy_refuseKind target _
  | index arguments =>
      apply Tidy.bind (Tidy.look rfl)
      intro indexing
      cases indexing with
      | true => exact ctx.tidy_getItem target arguments
      | false => exact ctx.tidy_refuseKind target _

theorem tidy_walk (target : Ref) (links : List Accessor) :
    Tidy ctx writes prefixes {target} (ctx.walk target links) fun ref => {ref} := by
  induction links generalizing target with
  | nil => exact Tidy.pure rfl
  | cons link links ih =>
      apply Tidy.bind (Tidy.owning_only (ctx.tidy_step target link))
      intro next
      exact ih next

theorem tidy_assign (target : Ref) (value : Value) (link : Accessor) :
    Tidy ctx true prefixes 0 (ctx.assign target value link) fun _ => 0 := by
  have hindexed : ∀ arguments : List Value,
      Tidy ctx true prefixes 0 (ctx.assign target value (.index arguments)) fun _ => 0 := by
    intro arguments
    apply Tidy.bind (Tidy.look rfl)
    intro indexing
    cases indexing with
    | true =>
        apply Tidy.bind (ctx.tidy_toForeign value)
        intro ref
        exact Tidy.owning_only (ctx.tidy_setItem target arguments ref)
    | false => exact ctx.tidy_refuseKind target _
  cases link with
  | field name =>
      apply Tidy.bind (ctx.tidy_toForeign value)
      intro ref
      exact Tidy.owning_only (ctx.tidy_setAttr target name ref)
  | call arguments => exact hindexed arguments
  | index arguments => exact hindexed arguments

theorem tidy_acquire_bind (h : Handle) {f : Ref → Crossing α} {after : α → Multiset Ref}
    (hf : Tidy ctx writes prefixes {h.ref} (f h.ref) after) :
    Tidy ctx writes prefixes 0 (acquire h >>= f) after := by
  unfold acquire
  rw [bind_assoc]
  apply Tidy.bind Tidy.retain
  intro _
  rw [pure_bind]
  exact hf

theorem tidy_acquire (h : Handle) : Tidy ctx writes prefixes 0 (acquire h) fun ref => {ref} := by
  rw [← bind_pure (acquire h)]
  exact ctx.tidy_acquire_bind h (Tidy.pure rfl)

theorem tidy_readChain (root : Handle) (chain : List Accessor) :
    Tidy ctx writes prefixes 0 (ctx.readChain root chain) fun v => (v.refs : Multiset Ref) := by
  unfold readChain
  apply ctx.tidy_acquire_bind
  cases chain with
  | nil => exact Tidy.pure rfl
  | cons link links =>
      apply Tidy.bind (ctx.tidy_walk root.ref (link :: links))
      intro target
      exact ctx.tidy_toHost target

theorem tidy_assignChain (root : Handle) (chain : List Accessor) (value : Value) :
    Tidy ctx true prefixes 0 (ctx.assignChain root chain value) fun h => {h.ref} := by
  unfold assignChain
  cases chain.getLast? with
  | none => exact Tidy.throw fun _ _ h => by cases h
  | some last =>
      apply Tidy.bind (ctx.tidy_acquire root)
      intro target
      apply Tidy.bind (ctx.tidy_walk target chain.dropLast)
      intro target
      apply Tidy.owning_only
      apply Tidy.bind (ctx.tidy_assign target value last)
      intro _
      exact ctx.tidy_acquire_bind root (Tidy.pure rfl)

/-!
# Requests of the host
-/

theorem not_mem_of_mem_splitOn {α : Type} [DecidableEq α] {a : α} {xs part : List α}
    (h : part ∈ xs.splitOn a) : a ∉ part := by
  induction xs generalizing part with
  | nil =>
      rw [List.splitOn_nil, List.mem_singleton] at h
      rw [h]
      exact List.not_mem_nil
  | cons x xs ih =>
      rw [List.splitOn_cons_eq_if_modifyHead] at h
      by_cases hx : x = a
      · rw [if_pos (beq_iff_eq.2 hx)] at h
        cases h with
        | head => exact List.not_mem_nil
        | tail _ h => exact ih h
      · rw [if_neg (fun hbeq => hx (beq_iff_eq.1 hbeq))] at h
        cases hparts : xs.splitOn a with
        | nil => exact absurd hparts (List.splitOn_ne_nil a xs)
        | cons first rest =>
            rw [hparts, List.modifyHead_cons] at h
            cases h with
            | head =>
                intro hmem
                cases hmem with
                | head => exact hx rfl
                | tail _ hmem => exact ih (hparts ▸ List.mem_cons_self) hmem
            | tail _ h => exact ih (hparts ▸ List.mem_cons_of_mem _ h)

/-- A segment of a name is none of its dotted prefixes. -/
theorem head_not_mem_longerPrefixes (path : String) :
    (segments path).head?.getD "" ∉ (Receiver.name path).longerPrefixes := by
  have hhead : '.' ∉ ((segments path).head?.getD "").toList := by
    unfold segments
    cases hparts : path.toList.splitOn '.' with
    | nil => exact absurd hparts (List.splitOn_ne_nil _ _)
    | cons first rest =>
        have hfirst : '.' ∉ first := not_mem_of_mem_splitOn (hparts ▸ List.mem_cons_self)
        simpa using hfirst
  intro hmem
  obtain ⟨count, hcount, heq⟩ := List.mem_map.1 hmem
  rw [List.mem_range] at hcount
  apply hhead
  rw [← heq]
  match hsegments : segments path, hcount with
  | first :: second :: rest, _ =>
      simp [String.toList_intercalate]
  | [], hcount => simp at hcount
  | [_], hcount => simp at hcount

theorem tidy_importLongest {segments : List String} {count : Nat}
    (hlonger : ∀ n < count, ".".intercalate (segments.take (n + 2)) ∈ prefixes)
    (hhead : segments.head?.getD "" ∉ prefixes) :
    Tidy ctx writes prefixes 0 (ctx.importLongest segments count) fun found => {found.1} := by
  induction count with
  | zero =>
      apply Tidy.bind (ctx.tidy_importModule hhead)
      intro module
      exact Tidy.pure rfl
  | succ count ih =>
      apply Tidy.bind (Tidy.tryImport (hlonger count (Nat.lt_succ_self count)))
      intro found
      cases found with
      | some module => exact Tidy.pure rfl
      | none => exact ih fun n hn => hlonger n (Nat.lt_succ_of_lt hn)

theorem tidy_resolveName (path : String) :
    Tidy ctx writes (Receiver.name path).longerPrefixes 0 (ctx.resolveName path)
      fun ref => {ref} := by
  unfold resolveName
  dsimp only
  cases (segments path).any String.isEmpty with
  | true => exact Tidy.throw fun _ _ h => by cases h
  | false =>
      have hlonger : ∀ n < (segments path).length - 1,
          ".".intercalate ((segments path).take (n + 2)) ∈ (Receiver.name path).longerPrefixes :=
        fun n hn => List.mem_map.2 ⟨n, List.mem_range.2 hn, rfl⟩
      apply Tidy.bind (ctx.tidy_importLongest hlonger (head_not_mem_longerPrefixes path))
      intro found
      exact ctx.tidy_walk found.1 _

theorem tidy_requireOwn (h : Handle) :
    Tidy ctx writes prefixes 0 (ctx.requireOwn h) fun _ => 0 := by
  unfold requireOwn
  by_cases hown : h.context = ctx.id
  · rw [if_pos hown]
    exact Tidy.pure rfl
  · rw [if_neg hown]
    exact ctx.tidy_refuse

theorem tidy_resolve (on : Receiver) :
    Tidy ctx writes on.longerPrefixes 0 (ctx.resolve on) fun ref => {ref} := by
  cases on with
  | handle h => exact Tidy.bind (ctx.tidy_requireOwn h) fun _ => ctx.tidy_acquire h
  | name path => exact ctx.tidy_resolveName path

theorem tidy_memberNames (h : Handle) :
    Tidy ctx writes prefixes 0 (ctx.memberNames h) fun _ => 0 := by
  unfold memberNames
  rw [← bind_assoc]
  apply Tidy.bind
    (Tidy.checkedValue (fun h => by cases h) List.mem_cons_self (fun _ => rfl) (fun _ => rfl)
      fun _ _ => rfl)
  intro names
  exact Tidy.pure rfl

/-- A request of the host holds in the end what its reply hands over. -/
theorem tidy_serve (entry : Entry) :
    Tidy ctx entry.writes entry.longerPrefixes 0 (ctx.serve entry)
      fun reply => (reply.refs : Multiset Ref) := by
  have hwrap : ∀ object : Ref, Tidy ctx entry.writes entry.longerPrefixes {object}
      (ctx.wrap object >>= fun h => Pure.pure (Reply.value (.foreign h)))
      fun reply => (reply.refs : Multiset Ref) :=
    fun object => Tidy.bind Tidy.wrap fun h => Tidy.pure rfl
  have hconvert : ∀ object : Ref, Tidy ctx entry.writes entry.longerPrefixes {object}
      (ctx.toHost object >>= fun v => Pure.pure (Reply.value v))
      fun reply => (reply.refs : Multiset Ref) :=
    fun object => Tidy.bind (ctx.tidy_toHost object) fun v => Tidy.pure rfl
  cases entry with
  | importModule name => exact Tidy.bind (ctx.tidy_importModule List.not_mem_nil) hwrap
  | construct module className arguments =>
      apply Tidy.bind (ctx.tidy_resolve (.handle module))
      intro module
      apply Tidy.owning_only
      apply Tidy.bind (ctx.tidy_getAttr module className)
      intro constructor
      apply Tidy.owning_only
      exact Tidy.bind (ctx.tidy_callWith constructor arguments) hwrap
  | invoke on method arguments =>
      apply Tidy.bind (ctx.tidy_resolve on)
      intro target
      apply Tidy.owning_only
      apply Tidy.bind (ctx.tidy_getAttr target method)
      intro callable
      apply Tidy.owning_only
      exact Tidy.bind (ctx.tidy_callWith callable arguments) hconvert
  | getField on field =>
      apply Tidy.bind (ctx.tidy_resolve on)
      intro target
      apply Tidy.owning_only
      exact Tidy.bind (ctx.tidy_getAttr target field) hconvert
  | setField on field value =>
      apply Tidy.bind (ctx.tidy_resolve on)
      intro target
      apply Tidy.owning_only
      apply Tidy.bind (ctx.tidy_toForeign value)
      intro ref
      apply Tidy.bind (Tidy.owning_only (ctx.tidy_setAttr target field ref))
      intro _
      exact Tidy.pure rfl
  | read root chain =>
      apply Tidy.bind (ctx.tidy_requireOwn root)
      intro _
      exact Tidy.bind (ctx.tidy_readChain root chain) fun v => Tidy.pure rfl
  | assign root chain value =>
      apply Tidy.bind (ctx.tidy_requireOwn root)
      intro _
      exact Tidy.bind (ctx.tidy_assignChain root chain value) fun h => Tidy.pure rfl
  | members h =>
      apply Tidy.bind (ctx.tidy_requireOwn h)
      intro _
      exact Tidy.bind (ctx.tidy_memberNames h) fun names => Tidy.pure rfl

end Context
end ForeignBridge
