import ForeignBridge.Proofs.Chains.Ending
import ForeignBridge.Proofs.Chains.Writing
import ForeignBridge.Proofs.Names.Attributes
import ForeignBridge.Proofs.Number.Whole
import ForeignBridge.Proofs.Simulation.Safety

/-!
# Positions in sequences

The host counts the items of a sequence from one, and the runtime from zero.  A lookup at the end of a
chain whose arguments are a number from one to the number of items comes to the item at that position,
and a write puts the new item there and nowhere else.  Beyond the last item both fail as the runtime
says.  Other arguments are refused before anything is made for them.
-/

namespace ForeignBridge

/-- The arguments of a link, which may be a lookup of an item. -/
def Accessor.arguments? : Accessor → Option (List Value)
  | .field _ => none
  | .call arguments | .index arguments => some arguments

namespace Simulation

open Attempt

/-- The error of a position beyond the last item. -/
def outOfRange (what : String) : Diagnostic := ⟨"IndexError", s!"{what} index out of range"⟩

theorem kind_outOfRange (what : String) : (outOfRange what).kind ≠ "" :=
  (by decide : "IndexError" ≠ "")

theorem resolveIndex_of_length_le {count position : Nat} (h : count ≤ position) :
    resolveIndex position count = none := by
  unfold resolveIndex
  rw [if_neg (Int.not_lt.2 (Int.natCast_nonneg position)), if_neg (by omega)]

variable {first s : Simulation} {base held : Multiset Ref} {depth : Nat} {target key value : Ref}
  {object number content : Object} {items : List Ref} {position : Nat}

theorem outcome_displayType_of_items (hget : s.heap.get? target = some object)
    (hitems : object.items? = some items) :
    (displayType target).outcome s = (.ok object.builtinType, s) := by
  unfold displayType
  rw [outcome_look hget]
  cases object with
  | tuple _ | list _ => rfl
  | _ => cases hitems

/-- There is no item beyond the last one. -/
theorem outcome_getItem_beyond (hget : s.heap.get? target = some object)
    (hitems : object.items? = some items) (hkey : s.heap.get? key = some number)
    (hnumber : number.int? = some (position : Int)) (hbeyond : items.length ≤ position) :
    (getItem target key).outcome s =
      (.ok none, { s with pending := some (outOfRange object.builtinType) }) := by
  unfold getItem
  rw [outcome_bind, outcome_displayType_of_items hget hitems]
  dsimp only
  rw [outcome_look hkey, outcome_look hget]
  cases object with
  | tuple _ | list _ =>
      cases hitems
      dsimp only
      rw [hnumber]
      dsimp only
      rw [resolveIndex_of_length_le hbeyond]
      rfl
  | _ => cases hitems

section Lists

variable (h : Holds first base held s) (hget : s.heap.get? target = some (.list items))
  (hkey : s.heap.get? key = some number) (hnumber : number.int? = some (position : Int))
  (hvalue : s.heap.get? value = some content)

include h hget hkey hnumber hvalue

/-- Nothing is written beyond the last item, and the new one is given back. -/
theorem Holds.setItem_beyond (hfirst : first.Sound base) (hbeyond : items.length ≤ position) :
    ∃ s', (Simulation.setItem target key value).outcome s =
        (.ok false, { s' with pending := some (outOfRange "list assignment") }) ∧
      Holds first base held s' := by
  rcases h.retain hvalue with ⟨s₁, hretain, hs₁⟩
  have hsame := returns_of_outcome (returns_retain value h.sound) hretain
  rcases hs₁.release hfirst with ⟨s₂, hrelease, hs₂⟩
  refine ⟨s₂, ?_, hs₂⟩
  unfold Simulation.setItem
  rw [outcome_bind, outcome_displayType_of_items hget rfl]
  dsimp only
  rw [outcome_look hkey, outcome_bind, hretain]
  dsimp only
  rw [outcome_look ((hsame.2 target).trans hget)]
  dsimp only
  rw [hnumber, Option.bind_some, resolveIndex_of_length_le hbeyond]
  dsimp only
  rw [outcome_bind, hrelease]
  rfl

/-- An item that is there can be replaced. -/
theorem Holds.setItem_within (hwithin : position < items.length) :
    ∃ s', (Simulation.setItem target key value).outcome s = (.ok true, s') := by
  have hanything : s.Uses fun _ => True := by
    intro ref object _
    cases object <;> trivial
  have hworks : s.Works (fun _ => True) (held + base) := ⟨h.sound, h.ready.running, hanything⟩
  have hdelivers : (Simulation.setItem target key value).Delivers s fun ok _ => ok = true := by
    unfold Simulation.setItem
    rw [delivers_bind]
    refine delivers_mono (fun type s₁ hsame => ?_) (delivers_displayType hworks hget)
    rw [hsame, delivers_access_bind hkey, delivers_bind]
    refine delivers_mono (fun _ s₁ hretained => ?_) (delivers_retain hworks hvalue)
    rcases hretained with ⟨hs₁, hcontents⟩
    have hget₁ : s₁.heap.get? target = some (.list items) := (hcontents target).trans hget
    have hlist : Object.Honest (.list (items.set position value)) := trivial
    have hof : Object.Of (fun _ => True) (.list (items.set position value)) := trivial
    dsimp only
    rw [delivers_access_bind hget₁]
    dsimp only
    rw [hnumber, Option.bind_some, resolveIndex_of_nonneg (Int.natCast_nonneg position) hwithin]
    exact delivers_mono (fun _ _ h => h.1)
      (delivers_replace hget₁ nofun hlist hof (coe_set hwithin value) hs₁ true)
  rcases exists_of_delivers hdelivers with ⟨ok, s', houtcome, rfl⟩
  exact ⟨s', houtcome⟩

end Lists

/-- While nothing but an object that was there at first is held, the object has the value that it had. -/
theorem Holds.hostValue_eq (hfirst : first.Sound base) (h : Holds first base {target} s)
    (hget : first.heap.get? target = some object) (context : Nat) (autoconversion : Bool) (ref : Ref) :
    hostValue s.heap context autoconversion ref = hostValue first.heap context autoconversion ref := by
  rcases h.exists_lending hfirst hget with ⟨start, rfl, hstart⟩
  refine hostValue_congr (contentOf_congr fun ref => ?_) context autoconversion ref
  unfold lending withHeap
  rw [Heap.get?_lent, (hstart.undone hfirst).get? ref]

/-- What is held after a write is given back. -/
theorem Wrote.exists_release {place : Place} {ref : Ref}
    (h : Wrote first base ({ref} + held) target place value s) (depth : Nat) :
    ∃ s', (Program.releaseAll [ref]).Succeeds (answer (run depth)) s () s' ∧
      Wrote first base held target place value s' := by
  have hs := h.sound
  rw [add_assoc] at hs
  have hsucceeds : (Program.releaseAll [ref]).Succeeds (answer (run depth)) s () _ :=
    .ask ((outcome_answer_of_running h.ready.running _).trans (outcome_release hs)) (.done () _)
  exact ⟨_, hsucceeds, h.release hsucceeds⟩

end Simulation

namespace Context

open Simulation Crossing

variable (ctx : Context) {first s t : Simulation} {base held : Multiset Ref} {depth : Nat}
  {arguments : List Value} {n : Nat}

/-!
# Keys
-/

/-- The key of a position is a signed word, one less than what the host counts. -/
theorem keyToForeign_of_counts (hcounts : Counts arguments n) :
    ∃ key : HostInt, key.kind = .int64 ∧ key.value = n - 1 ∧
      ctx.keyToForeign arguments = ctx.scalarToForeign (.int key) := by
  have hholds : NumericKind.int64.Holds ((n : Int) - 1) := by
    rcases hcounts with ⟨-, -, -, hfirst, hlast⟩
    refine ⟨rfl, ?_, ?_⟩
    · show (-2 ^ 63 : Int) ≤ n - 1
      omega
    · show (n - 1 : Int) ≤ 2 ^ 63 - 1
      omega
  have hkey : HostInt.ofInt .int64 ((n : Int) - 1) = .ok ⟨.int64, (n : Int) - 1, hholds⟩ := by
    unfold HostInt.ofInt
    rw [if_pos hholds.1, dif_pos hholds]
  refine ⟨⟨.int64, (n : Int) - 1, hholds⟩, rfl, rfl, ?_⟩
  unfold keyToForeign
  rw [positionOf_of_counts hcounts]
  dsimp only
  rw [hkey]

/-- A key that is made is new. -/
theorem comes_keyToForeign_of_counts (hready : s.Ready) (hcounts : Counts arguments n) (depth : Nat) :
    (ctx.keyToForeign arguments).Comes (answer (run depth)) s
      (.ok (s.heap.allocate (Simulation.Object.int (n - 1) (some .int64))).1)
      (s.withHeap (s.heap.allocate (Simulation.Object.int (n - 1) (some .int64))).2) := by
  rcases ctx.keyToForeign_of_counts hcounts with ⟨key, hkind, hvalue, hkey⟩
  have hserve : (Simulation.serve (run depth) (.newScalar (.int key))).outcome s =
      (.ok (some (s.heap.allocate (Simulation.Object.int key.value (some key.kind))).1),
        s.withHeap (s.heap.allocate (Simulation.Object.int key.value (some key.kind))).2) := rfl
  rw [hkind, hvalue] at hserve
  rw [hkey]
  exact Comes.bind Comes.note (Comes.bind (comes_served hready hserve)
    (comes_checkRef ctx (ready_withHeap hready _) _ _))

/-- For arguments that are no position there is no key, and nothing is asked of the runtime. -/
theorem keyToForeign_of_not_counts (h : ∀ n, ¬ Counts arguments n) :
    ctx.keyToForeign arguments = throw (.unsupported (refusal arguments)) := by
  unfold keyToForeign
  rw [positionOf_of_not_counts h]

theorem positionOf_eq_of_counts (h : Counts arguments n) :
    positionOf arguments = .ok ((n - 1 : Nat) : Int) := by
  rw [positionOf_of_counts h]
  rcases h with ⟨-, -, -, hfirst, -⟩
  rw [Nat.cast_sub hfirst]
  rfl

theorem slotOf?_of_counts (h : Counts arguments n) : slotOf? arguments = some (.slot (n - 1)) := by
  unfold slotOf?
  rw [positionOf_eq_of_counts h]
  rfl

/-- The key that was made for a position. -/
theorem comes_position (hcounts : Counts arguments n) (h : Holds first base held s) (depth : Nat) :
    ∃ key number s', (ctx.keyToForeign arguments).Comes (answer (run depth)) s (.ok key) s' ∧
      Holds first base ({key} + held) s' ∧ s'.heap.get? key = some number ∧
      number.int? = some ((n - 1 : Nat) : Int) :=
  ctx.comes_keyToForeign depth h (positionOf_eq_of_counts hcounts)

/-!
# Lookups in a sequence
-/

section Sequences

variable {target : Ref} {object : Simulation.Object} {items : List Ref} {link : Accessor}
  (hs : s.Serving held) (hget : s.heap.get? target = some object)
  (hitems : object.items? = some items) (hlink : link.arguments? = some arguments)

include hs hget hitems hlink

omit hs in
/-- A link with arguments is a lookup of an item, because a sequence cannot be called. -/
theorem comes_step_of_items (hready : s.Ready) {outcome : Except BridgeError Ref}
    (h : (ctx.getItem target arguments).Comes (answer (run depth)) s outcome t) :
    (ctx.step target link).Comes (answer (run depth)) s outcome t := by
  have hcallable : (Crossing.ask (.isCallable target)).Comes (answer (run depth)) s
      (.ok object.isCallable) s :=
    comes_served hready (outcome_look hget fun o => pure o.isCallable)
  have hindexing : (Crossing.ask (.supportsIndexing target)).Comes (answer (run depth)) s
      (.ok object.supportsIndexing) s :=
    comes_served hready (outcome_look hget fun o => pure o.supportsIndexing)
  cases object with
  | tuple _ | list _ =>
      cases link with
      | field name => cases hlink
      | call _ =>
          cases hlink
          exact Comes.bind hcallable (Comes.bind hindexing h)
      | index _ =>
          cases hlink
          exact Comes.bind hindexing h
  | _ => cases hitems

/-- A lookup at a position that is there comes to the item. -/
theorem comes_step_within (hcounts : Counts arguments n) {item : Ref}
    (hitem : items[n - 1]? = some item) (depth : Nat) :
    ∃ t, (ctx.step target link).Comes (answer (run depth)) s (.ok item) t ∧
      Holds s held {item} t := by
  have hat : (slotOf? arguments).bind object.at? = some item := by
    rw [slotOf?_of_counts hcounts, Option.bind_some, ← hitem]
    show object.items?.bind _ = _
    rw [hitems]
    rfl
  rcases ctx.comes_getItem depth hs.sound (Holds.refl hs.sound hs.ready) hget hat with ⟨t, hcomes, ht⟩
  exact ⟨t, ctx.comes_step_of_items hget hitems hlink hs.ready hcomes, ht.of_eq (add_zero _)⟩

/-- A lookup beyond the last item fails as the runtime says. -/
theorem comes_step_beyond (hcounts : Counts arguments n) (hbeyond : items.length < n) (depth : Nat) :
    ∃ t, (ctx.step target link).Comes (answer (run depth)) s
        (.error (.foreignRuntime .index (outOfRange object.builtinType).text)) t ∧
      Holds s held 0 t := by
  rcases ctx.comes_position hcounts (Holds.refl hs.sound hs.ready) depth with
    ⟨key, number, s₁, hmade, hs₁, hkey, hnumber⟩
  have hserve : (Simulation.serve (run depth) (.getItem target key)).outcome s₁ = _ :=
    outcome_getItem_beyond (hs₁.get? hget) hitems hkey hnumber (by omega)
  have hfailed : (do
      Crossing.note (.gettingItem target)
      ctx.checkRef .index (← Crossing.ask (.getItem target key)) : Crossing Ref).Comes
        (answer (run depth)) s₁ _ s₁ :=
    Comes.bind Comes.note (Comes.bind (comes_served hs₁.ready hserve)
      (ctx.comes_checkRef_raised hs₁.ready _ .index (kind_outOfRange _)))
  rcases comes_owning hs.sound hfailed hs₁ with ⟨t, howned, ht⟩
  exact ⟨t, ctx.comes_step_of_items hget hitems hlink hs.ready (Comes.bind hmade howned), ht⟩

/-- A lookup with arguments that are no position is refused. -/
theorem comes_step_refused (h : ∀ n, ¬ Counts arguments n) (depth : Nat) :
    (ctx.step target link).Comes (answer (run depth)) s (.error (.unsupported (refusal arguments)))
      s := by
  apply ctx.comes_step_of_items hget hitems hlink hs.ready
  unfold getItem
  rw [ctx.keyToForeign_of_not_counts h]
  exact Comes.bind_error Comes.throw

end Sequences

/-!
# Writes into a list
-/

/-- A status that an error came with is reported. -/
theorem comes_checkStatus_raised (hready : s.Ready) {d : Diagnostic} (operation : Operation)
    (hkind : d.kind ≠ "") :
    (ctx.checkStatus operation false).Comes (answer (run depth)) { s with pending := some d }
      (.error (.foreignRuntime operation d.text)) s := by
  rw [← failureText_of_kind hkind]
  exact Comes.bind (comes_fetched hready d).1 (Comes.bind (comes_fetched hready d).2
    (ctx.comes_fail operation (some d)))

theorem comes_checkStatus (hready : s.Ready) (operation : Operation) :
    (ctx.checkStatus operation true).Comes (answer (run depth)) s (.ok ()) s :=
  Comes.bind (comes_errorPending hready) Comes.pure

section Lists

variable {target value : Ref} {items : List Ref} {link : Accessor} {v : Value} {given : Simulation}
  (hs : s.Serving held) (hget : s.heap.get? target = some (.list items))
  (hlink : link.arguments? = some arguments)
  (hmade : (ctx.toForeign v).Comes (answer (run depth)) s (.ok value) given)

include hs hget hlink hmade

omit hs in
/-- A write into a list is a write of the counterpart of the value at an item. -/
theorem comes_assign_of_items (hready : s.Ready) {outcome : Except BridgeError Unit}
    (h : (owning value (ctx.setItem target arguments value)).Comes (answer (run depth)) given outcome
      t) : (ctx.assign target v link).Comes (answer (run depth)) s outcome t := by
  have hindexing : (Crossing.ask (.supportsIndexing target)).Comes (answer (run depth)) s
      (.ok true) s := comes_served hready (outcome_look hget fun o => pure o.supportsIndexing)
  cases link with
  | field name => cases hlink
  | call _ | index _ =>
      cases hlink
      exact Comes.bind hindexing (Comes.bind hmade h)

/-- A write at a position that is there replaces the item. -/
theorem comes_assign_within (hcounts : Counts arguments n) (hwithin : n ≤ items.length) :
    ∃ t, (ctx.assign target v link).Comes (answer (run depth)) s (.ok ()) t ∧
      Wrote s held 0 target (.slot (n - 1)) value t := by
  have hposition : n - 1 < items.length := by
    rcases hcounts with ⟨-, -, -, hfirst, -⟩
    omega
  have hgiven := holds_toForeign hs.sound ctx (Holds.refl hs.sound hs.ready) hmade
  rcases ctx.comes_position hcounts hgiven depth with ⟨key, number, s₁, hkeyed, hs₁, hkey, hnumber⟩
  rcases hs₁.sound.exists_held (by simp : value ∈ _) with ⟨content, hvalue⟩
  rcases hs₁.setItem_within (hs₁.get? hget) hkey hnumber hvalue hposition with ⟨s₂, houtcome⟩
  have hs₂ := hs₁.setItem hget hs.sound (Int.natCast_nonneg _) hkey hnumber houtcome
  rw [Int.toNat_natCast] at hs₂
  have hset : (do
      Crossing.note (.settingItem target)
      ctx.checkStatus .assignIndex (← Crossing.ask (.setItem target key value)) : Crossing Unit).Comes
        (answer (run depth)) s₁ (.ok ()) s₂ :=
    Comes.bind Comes.note (Comes.bind (comes_served hs₁.ready houtcome)
      (ctx.comes_checkStatus hs₂.ready .assignIndex))
  rcases hs₂.exists_release depth with ⟨s₃, hkeyless, hs₃⟩
  rcases hs₃.exists_release depth with ⟨s₄, hvalueless, hs₄⟩
  exact ⟨s₄, ctx.comes_assign_of_items hget hlink hmade hs.ready
    (Comes.owningAll (Comes.bind hkeyed (Comes.owningAll hset hkeyless)) hvalueless), hs₄⟩

/-- A write beyond the last item fails as the runtime says, and no object is different. -/
theorem comes_assign_beyond (hcounts : Counts arguments n) (hbeyond : items.length < n) :
    ∃ t, (ctx.assign target v link).Comes (answer (run depth)) s
        (.error (.foreignRuntime .assignIndex (outOfRange "list assignment").text)) t ∧
      Holds s held 0 t := by
  have hgiven := holds_toForeign hs.sound ctx (Holds.refl hs.sound hs.ready) hmade
  rcases ctx.comes_position hcounts hgiven depth with ⟨key, number, s₁, hkeyed, hs₁, hkey, hnumber⟩
  rcases hs₁.sound.exists_held (by simp : value ∈ _) with ⟨content, hvalue⟩
  rcases hs₁.setItem_beyond (hs₁.get? hget) hkey hnumber hvalue hs.sound (by omega) with
    ⟨s₂, houtcome, hs₂⟩
  have hset : (do
      Crossing.note (.settingItem target)
      ctx.checkStatus .assignIndex (← Crossing.ask (.setItem target key value)) : Crossing Unit).Comes
        (answer (run depth)) s₁ _ s₂ :=
    Comes.bind Comes.note (Comes.bind (comes_served hs₁.ready houtcome)
      (ctx.comes_checkStatus_raised hs₂.ready .assignIndex (kind_outOfRange _)))
  rcases comes_owning hs.sound hset hs₂ with ⟨s₃, hkeyless, hs₃⟩
  have hfailed : (ctx.setItem target arguments value).Comes (answer (run depth)) given _ s₃ :=
    Comes.bind hkeyed hkeyless
  rcases comes_owning hs.sound hfailed hs₃ with ⟨s₄, hvalueless, hs₄⟩
  exact ⟨s₄, ctx.comes_assign_of_items hget hlink hmade hs.ready hvalueless, hs₄⟩

/-- A write with arguments that are no position is refused, and no object is different. -/
theorem comes_assign_refused (h : ∀ n, ¬ Counts arguments n) :
    ∃ t, (ctx.assign target v link).Comes (answer (run depth)) s
        (.error (.unsupported (refusal arguments))) t ∧ Holds s held 0 t := by
  have hgiven := holds_toForeign hs.sound ctx (Holds.refl hs.sound hs.ready) hmade
  have hfailed : (ctx.setItem target arguments value).Comes (answer (run depth)) given
      (.error (.unsupported (refusal arguments))) given := by
    unfold setItem
    rw [ctx.keyToForeign_of_not_counts h]
    exact Comes.bind_error Comes.throw
  rcases comes_owning hs.sound hfailed hgiven with ⟨t, hvalueless, ht⟩
  exact ⟨t, ctx.comes_assign_of_items hget hlink hmade hs.ready hvalueless, ht⟩

end Lists

/-!
# Requests of the host
-/

section Requests

variable {root : Handle} {chain : List Accessor} {link : Accessor} {target : Ref} {u : Simulation}
  {error : BridgeError} (hs : s.Serving base) (hown : root.context = ctx.id)
  (hreach : (ctx.reach root chain).Comes (answer (run depth)) s (.ok target) t)

include hs hown hreach

/-- What the last link comes to is converted to the value that it has at the end of the walk. -/
theorem comes_read_item {item : Ref} {content : Simulation.Object}
    (hget : t.heap.get? item = some content)
    (hstep : (ctx.step target link).Comes (answer (run depth)) t (.ok item) u)
    (hu : Holds t ({target} + base) {item} u) :
    ∃ after, (ctx.serve (.read root (chain ++ [link]))).Comes (answer (run depth)) s
      ((hostValue t.heap ctx.id ctx.settings.matrixAutoconversion item).map Reply.value) after := by
  have ht := ctx.serving_of_reach hs hreach
  have hserving : u.Serving ({target} + ({item} + base)) :=
    (ht.after hstep hu.sound hu.ready).of_eq (add_left_comm _ _ _)
  rcases hserving.release depth with ⟨u', hrelease, hu', -⟩
  rcases comes_toHost_held hu' depth ctx with ⟨after, hpacked⟩
  rw [hostValue_of_released hserving hrelease, hu.hostValue_eq ht.sound hget] at hpacked
  rw [ctx.serve_read_concat hown]
  exact ⟨after, Comes.bind hreach (Comes.bind (Comes.owningAll hstep hrelease) hpacked.map)⟩

/-- A request ends with the error of its last link. -/
theorem comes_read_failed
    (hstep : (ctx.step target link).Comes (answer (run depth)) t (.error error) u)
    (hu : Holds t ({target} + base) 0 u) :
    ∃ after, (ctx.serve (.read root (chain ++ [link]))).Comes (answer (run depth)) s
      (.error error) after := by
  have ht := ctx.serving_of_reach hs hreach
  have hserving : u.Serving ({target} + base) :=
    (ht.after hstep hu.sound hu.ready).of_eq (zero_add _)
  rcases hserving.release depth with ⟨after, hrelease, -⟩
  rw [ctx.serve_read_concat hown]
  exact ⟨after, Comes.bind hreach (Comes.bind_error (Comes.owningAll hstep hrelease))⟩

/-- A write that was made is answered by the handle that the chain begins with, to whose object the host
has a reference. -/
theorem comes_assign_done (hroot : root.ref ∈ base) {v : Value} {place : Place} {value : Ref}
    (hassign : (ctx.assign target v link).Comes (answer (run depth)) t (.ok ()) u)
    (hu : Wrote t ({target} + base) 0 target place value u) :
    ∃ after, (ctx.serve (.assign root (chain ++ [link]) v)).Comes (answer (run depth)) s
      (.ok (.value (.foreign root))) after ∧ u.heap.Older after.heap := by
  have ht := ctx.serving_of_reach hs hreach
  have hserving : u.Serving ({target} + base) :=
    (ht.after hassign hu.sound hu.ready).of_eq (zero_add _)
  rcases hserving.sound.exists_held (Multiset.mem_add.2 (.inr hroot)) with ⟨object, hget⟩
  rcases comes_retain depth (Holds.refl hserving.sound hserving.ready) hget with
    ⟨u₁, hretain, hu₁⟩
  have hagain : u₁.Serving ({target} + ({root.ref} + base)) :=
    (hserving.after hretain hu₁.sound hu₁.ready).of_eq (add_left_comm _ _ _)
  rcases hagain.release depth with ⟨after, hrelease, -, holder⟩
  have hretained : u.heap.Older u₁.heap := by
    rcases Attempt.returns_of_outcome (returns_retain_eq root.ref)
      (serve_of_answer hretain.of_ask).2 with ⟨heap, hheap, rfl⟩
    exact Heap.Older.retain hheap
  rw [ctx.serve_assign_concat hown]
  have hwritten : (ctx.assign target v link >>= fun _ => acquire root >>= fun _ =>
      pure root).Comes (answer (run depth)) t (.ok root) u₁ :=
    Comes.bind hassign (Comes.bind (Comes.bind hretain Comes.pure) Comes.pure)
  exact ⟨after, Comes.bind hreach (Comes.bind (Comes.owningAll hwritten hrelease) Comes.pure),
    hretained.trans holder⟩

/-- No object is different after a write that failed. -/
theorem comes_assign_failed {v : Value}
    (hassign : (ctx.assign target v link).Comes (answer (run depth)) t (.error error) u)
    (hu : Holds t ({target} + base) 0 u) :
    ∃ after, (ctx.serve (.assign root (chain ++ [link]) v)).Comes (answer (run depth)) s
      (.error error) after ∧ t.heap.Older after.heap := by
  have ht := ctx.serving_of_reach hs hreach
  have hserving : u.Serving ({target} + base) :=
    (ht.after hassign hu.sound hu.ready).of_eq (zero_add _)
  rcases hserving.release depth with ⟨after, hrelease, -, holder⟩
  rw [ctx.serve_assign_concat hown]
  exact ⟨after, Comes.bind hreach (Comes.bind_error
    (Comes.owningAll (Comes.bind_error hassign) hrelease)), hu.intact.goesOn.older.trans holder⟩

end Requests

end Context
end ForeignBridge
