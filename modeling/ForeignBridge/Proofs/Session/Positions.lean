import ForeignBridge.Proofs.Chains.Positions
import ForeignBridge.Proofs.Session.Facing
import ForeignBridge.Proofs.Simulation.Onward

/-!
# Counting from one

A bridge that faces its runtime counts the items of every list and tuple from one, whatever happened
before and however the host came to the sequence.  What it gets for a position is the value of that very
item, what it writes replaces that very item, and for positions beyond the last one it gets the error of
the runtime.  Positions are whole numbers of any kind that a signed word holds; nothing is rounded, and
none is ever counted from the end.
-/

namespace ForeignBridge

open Simulation Crossing

namespace Context

/-- What is made for the arguments of a lookup: the signed word that is one less than the position that
they are, or nothing. -/
structure KeysExactly (ctx : Context) (arguments : List Value) : Prop where
  asked : ∀ n, Counts arguments n → ∃ key : HostInt, key.kind = .int64 ∧ key.value = n - 1 ∧
    ctx.keyToForeign arguments = ctx.scalarToForeign (.int key)
  made : ∀ n, Counts arguments n → ∀ (depth : Nat) (s : Simulation), s.Ready →
    (ctx.keyToForeign arguments).Comes (answer (run depth)) s
      (.ok (s.heap.allocate (Simulation.Object.int (n - 1) (some .int64))).1)
      (s.withHeap (s.heap.allocate (Simulation.Object.int (n - 1) (some .int64))).2)
  refused : (∀ n, ¬ Counts arguments n) →
    ctx.keyToForeign arguments = throw (.unsupported (refusal arguments))

theorem keysExactly (ctx : Context) (arguments : List Value) : ctx.KeysExactly arguments :=
  ⟨fun _ => ctx.keyToForeign_of_counts,
    fun _ hcounts depth _ hready => ctx.comes_keyToForeign_of_counts hready hcounts depth,
    ctx.keyToForeign_of_not_counts⟩

/-- Every request of the host comes to the same if the runtime panics where it would count from the
end. -/
def CountsOnward (ctx : Context) : Prop :=
  ∀ (panic : Panic) (depth : Nat) (entry : Entry) (s : Simulation),
    (Program.run (onwardOnly panic depth) (fun _ => pure ()) (ctx.serve entry).run).outcome s =
      (Program.run (answer (run depth)) (fun _ => pure ()) (ctx.serve entry).run).outcome s

/-- What the host gets for a lookup in a sequence, at a state of the runtime in which the sequence was
reached. -/
structure LooksUp (ctx : Context) (t : Simulation) (object : Simulation.Object) (items : List Ref)
    (arguments : List Value) (got : Except Session.Failure Reply) : Prop where
  within : ∀ n, Counts arguments n → n ≤ items.length → ∃ item, items[n - 1]? = some item ∧
    got = ((hostValue t.heap ctx.id ctx.settings.matrixAutoconversion item).map
      Reply.value).mapError .bridge
  beyond : ∀ n, Counts arguments n → items.length < n →
    got = .error (.bridge (.foreignRuntime .index (outOfRange object.builtinType).text))
  refused : (∀ n, ¬ Counts arguments n) →
    got = .error (.bridge (.unsupported (refusal arguments)))

/-- What a write into a list comes to, from a state of the runtime in which the list was reached. -/
structure Replaces (ctx : Context) (depth : Nat) (t : Simulation) (target : Ref) (items : List Ref)
    (link : Accessor) (arguments : List Value) (v : Value) (value : Ref) (root : Handle)
    (got : Except Session.Failure Reply × Session.World) : Prop where
  within : ∀ n, Counts arguments n → n ≤ items.length → ∃ written after,
    (ctx.assign target v link).Comes (answer (run depth)) t (.ok ()) written ∧
      written.heap.get? target = some (.list (items.set (n - 1) value)) ∧
      Rewritten t.heap target (.slot (n - 1)) value written.heap ∧
      got.1 = .ok (.value (.foreign root)) ∧ got.2.Hosts depth after ∧
      written.heap.Older after.heap
  beyond : ∀ n, Counts arguments n → items.length < n → ∃ after,
    got.1 = .error (.bridge
        (.foreignRuntime .assignIndex (outOfRange "list assignment").text)) ∧
      got.2.Hosts depth after ∧ t.heap.Older after.heap
  refused : (∀ n, ¬ Counts arguments n) → ∃ after,
    got.1 = .error (.bridge (.unsupported (refusal arguments))) ∧
      got.2.Hosts depth after ∧ t.heap.Older after.heap

/-- The host counts from one in every list and tuple that it reaches from a handle along a chain. -/
def CountsFromOne (ctx : Context) (depth : Nat) (s : Simulation)
    (served : Entry → Except Session.Failure Reply × Session.World) (root : Handle) : Prop :=
  ∀ (chain : List Accessor) (target : Ref) (t : Simulation),
    (ctx.reach root chain).Comes (answer (run depth)) s (.ok target) t →
    ∀ (object : Simulation.Object) (items : List Ref) (link : Accessor) (arguments : List Value),
      t.heap.get? target = some object → object.items? = some items →
      link.arguments? = some arguments →
      ctx.LooksUp t object items arguments (served (.read root (chain ++ [link]))).1 ∧
        ∀ (v : Value) (value : Ref) (given : Simulation), object = .list items →
          (ctx.toForeign v).Comes (answer (run depth)) t (.ok value) given →
          ctx.Replaces depth t target items link arguments v value root
            (served (.assign root (chain ++ [link]) v))

end Context

namespace Session

variable {index depth : Nat} {bridge : Bridge} {lifecycle : LifecycleId} {entered : World}
  {s : Simulation}

namespace World
namespace Facing

variable {w : World} {base : Multiset Ref} {root : Handle} {chain : List Accessor} {target : Ref}
  {t : Simulation} {link : Accessor} {arguments : List Value}
  (hfacing : w.Facing index bridge lifecycle depth entered s) (hs : s.Serving base)
  (hown : root.context = index)
  (hreach : ((entered.contextOf index bridge ⟨0, lifecycle, true⟩).reach root chain).Comes
    (Simulation.answer (run depth)) s (.ok target) t)
  (hlink : link.arguments? = some arguments)

include hfacing hs hown hreach hlink

theorem looksUp {object : Simulation.Object} {items : List Ref}
    (hget : t.heap.get? target = some object) (hitems : object.items? = some items) :
    (entered.contextOf index bridge ⟨0, lifecycle, true⟩).LooksUp t object items arguments
      (w.served index (.read root (chain ++ [link]))).1 := by
  have ht := Context.serving_of_reach _ hs hreach
  constructor
  · intro n hcounts hwithin
    have hposition : n - 1 < items.length := by
      rcases hcounts with ⟨-, -, -, hfirst, -⟩
      omega
    have hitem : items[n - 1]? = some items[n - 1] := List.getElem?_eq_getElem hposition
    have hchild := items_subset_children hitems (List.getElem_mem hposition)
    rcases closed_of_balanced ht.sound.balanced target object hget _ hchild with ⟨content, hcontent⟩
    rcases Context.comes_step_within _ ht hget hitems hlink hcounts hitem depth with ⟨u, hstep, hu⟩
    rcases Context.comes_read_item _ hs hown hreach hcontent hstep hu with ⟨after, hread⟩
    rcases hfacing.served_of_comes hread with ⟨w', hserved, -⟩
    exact ⟨_, hitem, congrArg Prod.fst hserved⟩
  · intro n hcounts hbeyond
    rcases Context.comes_step_beyond _ ht hget hitems hlink hcounts hbeyond depth with ⟨u, hstep, hu⟩
    rcases Context.comes_read_failed _ hs hown hreach hstep hu with ⟨after, hread⟩
    rcases hfacing.served_of_comes hread with ⟨w', hserved, -⟩
    exact congrArg Prod.fst hserved
  · intro hcounts
    have hstep := Context.comes_step_refused
      (entered.contextOf index bridge ⟨0, lifecycle, true⟩) ht hget hitems hlink hcounts depth
    rcases Context.comes_read_failed _ hs hown hreach hstep (Holds.refl ht.sound ht.ready) with
      ⟨after, hread⟩
    rcases hfacing.served_of_comes hread with ⟨w', hserved, -⟩
    exact congrArg Prod.fst hserved

theorem replaces {items : List Ref} {v : Value} {value : Ref} {given : Simulation}
    (hroot : root.ref ∈ base) (hget : t.heap.get? target = some (.list items))
    (hmade : ((entered.contextOf index bridge ⟨0, lifecycle, true⟩).toForeign v).Comes
      (Simulation.answer (run depth)) t (.ok value) given) :
    (entered.contextOf index bridge ⟨0, lifecycle, true⟩).Replaces depth t target items link arguments
      v value root (w.served index (.assign root (chain ++ [link]) v)) := by
  have ht := Context.serving_of_reach _ hs hreach
  -- A write that fails leaves all objects as they were.
  have hfailed : ∀ {error : BridgeError} {u : Simulation},
      ((entered.contextOf index bridge ⟨0, lifecycle, true⟩).assign target v link).Comes
        (Simulation.answer (run depth)) t (.error error) u → Holds t ({target} + base) 0 u →
      ∃ after : Simulation, (w.served index (.assign root (chain ++ [link]) v)).1 =
          .error (.bridge error) ∧
        (w.served index (.assign root (chain ++ [link]) v)).2.Hosts depth after ∧
          t.heap.Older after.heap := by
    intro error u hassign hu
    rcases Context.comes_assign_failed _ hs hown hreach hassign hu with ⟨after, hcomes, holder⟩
    rcases hfacing.served_of_comes hcomes with ⟨w', hserved, hcarries⟩
    rw [hserved]
    exact ⟨after, rfl, hcarries.hosts, holder⟩
  constructor
  · intro n hcounts hwithin
    rcases Context.comes_assign_within _ ht hget hlink hmade hcounts hwithin with ⟨u, hassign, hu⟩
    rcases Context.comes_assign_done _ hs hown hreach hroot hassign hu with ⟨after, hcomes, holder⟩
    rcases hfacing.served_of_comes hcomes with ⟨w', hserved, hcarries⟩
    rw [hserved]
    refine ⟨u, after, hassign, ?_, hu.rewritten, rfl, hcarries.hosts, holder⟩
    rcases hu.sound.exists_held (by simp : target ∈ _) with ⟨found, hfound⟩
    rcases hu.rewritten.written with ⟨object, hobject, -, hnew⟩
    rw [hget] at hobject
    cases hobject
    rw [hfound, hnew found hfound]
    rfl
  · intro n hcounts hbeyond
    rcases Context.comes_assign_beyond _ ht hget hlink hmade hcounts hbeyond with ⟨u, hassign, hu⟩
    exact hfailed hassign hu
  · intro hcounts
    rcases Context.comes_assign_refused _ ht hget hlink hmade hcounts with ⟨u, hassign, hu⟩
    exact hfailed hassign hu

end Facing
end World

namespace Ledger

open World

/-- A runtime that a bridge faces after a run serves requests, while everything is held that the host has
references to. -/
theorem serving_of_reachable {l : Ledger} (hl : Reachable l)
    (hfacing : l.world.Facing index bridge lifecycle depth entered s) (hready : s.Ready) :
    s.Serving ((Value.refsAll l.values : Multiset Ref) + l.owned) := by
  rcases hosting_of_reachable (hl.step (Step.enter hfacing.enters)) with ⟨rig, hrig, hgenuine⟩
  rw [show entered.runtimes = _ from hfacing.hosts] at hrig
  cases hrig
  exact ⟨sound_of_facing hl hfacing, hready, hgenuine⟩

/-- In every run, the arguments of a lookup are a position only if they are one number, of any kind, that
is whole, positive and within a signed word, and then the key is exactly one less.  The host reads the
value of the item at the position, if the sequence has one, and else gets the error of the runtime.  What
it writes into a list is at the position afterwards, and nothing else is different.  No request ever makes
the runtime count from the end. -/
theorem positional_of_reachable {l : Ledger} (hl : Reachable l)
    (hfacing : l.world.Facing index bridge lifecycle depth entered s) (hready : s.Ready) :
    (∀ (ctx : Context) (arguments : List Value), ctx.KeysExactly arguments) ∧
      (∀ root : Handle, root.context = index → root.ref ∈ Value.refsAll l.values →
        (entered.contextOf index bridge ⟨0, lifecycle, true⟩).CountsFromOne depth s
          (l.world.served index) root) ∧
      ∀ ctx : Context, ctx.CountsOnward := by
  have hs := serving_of_reachable hl hfacing hready
  refine ⟨fun ctx => ctx.keysExactly, ?_, fun ctx panic depth entry s =>
    outcome_serve_onwardOnly ctx panic depth entry s⟩
  intro root hown hroot chain target t hreach object items link arguments hget hitems hlink
  refine ⟨hfacing.looksUp hs hown hreach hlink hget hitems, fun v value given hlist hmade => ?_⟩
  rw [hlist] at hget
  exact hfacing.replaces hs hown hreach hlink (Multiset.mem_add.2 (.inl hroot)) hget hmade

/-!
A bridge imported a module with a list of two numbers, and its items are read and written.
-/

/-- The runtime after a bridge started it and imported the module with the list. -/
def sampleTaken : Simulation :=
  { ((Simulation.start ["./"]).outcome sampleShelf).2 with
    heap := (sampleShelf.heap.retain? ⟨5⟩).getD sampleShelf.heap }

/-- The world after a bridge imported the module with the list. -/
def sampleShelved : World := ((sampleWorld sampleShelf).served 0 (.importModule "m")).2

theorem reachable_sampleShelved :
    ∃ owned, Reachable ⟨sampleShelved, [.foreign ⟨0, ⟨5⟩, "m"⟩], owned⟩ := by
  have hserved : (cross 0 fun ctx => ctx.serve (.importModule "m")).run.run
      (sampleWorld sampleShelf) = (.ok (.value (.foreign ⟨0, ⟨5⟩, "m"⟩)), sampleShelved) :=
    Prod.ext (by cbv) rfl
  rcases reachable_sampleShelf with ⟨owned, hl⟩
  have himported := hl.step (Step.served hserved)
  exact ⟨owned, himported⟩

theorem facing_sampleShelved :
    sampleShelved.Facing 0 ⟨some ⟨0, .process, true⟩, {}⟩ .process 1 sampleShelved sampleTaken := by
  have hconnected : sampleShelved.Connected 0 ⟨some ⟨0, .process, true⟩, {}⟩ ⟨0, .process, true⟩ :=
    ⟨by cbv, rfl⟩
  have hstarted : sampleShelved.phaseOf .process = .started := by cbv
  have hhosts : sampleShelved.Hosts 1 sampleTaken := by cbv
  exact Facing.of_started hconnected hstarted hhosts

/-- The position of the second item, as a float. -/
def sampleSecond : List Value := [.scalar (.real (.double (Binary.ofInt 2)))]

/-- A position beyond the last item. -/
def sampleThird : List Value := [.scalar (.int ⟨.int64, 3, by decide⟩)]

theorem counts_sampleSecond : Context.Counts sampleSecond 2 := by
  have hwhole : (Binary.ofInt 2 : Double).integer? = some 2 := by decide +kernel
  have hquantity : (Scalar.real (.double (Binary.ofInt 2))).quantity? = some ((2 : Nat) : ℚ) := by
    have hvalue := (Binary.integer?_eq_some_iff _ _).1 hwhole
    exact_mod_cast hvalue
  exact ⟨_, rfl, hquantity, by omega, by omega⟩

theorem counts_sampleThird : Context.Counts sampleThird 3 := by
  have hquantity : (Scalar.int ⟨.int64, 3, by decide⟩).quantity? = some ((3 : Nat) : ℚ) := rfl
  exact ⟨_, rfl, hquantity, by omega, by omega⟩

theorem positional_of_sample :
    ∃ l, Reachable l ∧
      (l.world.served 0 (.read ⟨0, ⟨5⟩, "m"⟩ ([.field "items"] ++ [.index sampleSecond]))).1 =
        .ok (.value (.scalar (.int ⟨.int64, 7, by decide⟩))) ∧
      (l.world.served 0 (.read ⟨0, ⟨5⟩, "m"⟩ ([.field "items"] ++ [.index sampleThird]))).1 =
        .error (.bridge (.foreignRuntime .index "IndexError: list index out of range")) ∧
      (l.world.served 0 (.assign ⟨0, ⟨5⟩, "m"⟩ ([.field "items"] ++ [.index sampleSecond])
        (.text "a"))).1 = .ok (.value (.foreign ⟨0, ⟨5⟩, "m"⟩)) := by
  have hready : sampleTaken.Ready := ⟨by cbv, by cbv⟩
  rcases reachable_sampleShelved with ⟨owned, hl⟩
  have hs := serving_of_reachable hl facing_sampleShelved hready
  have hroot : (⟨0, ⟨5⟩, "m"⟩ : Handle).ref ∈ Value.refsAll [.foreign ⟨0, ⟨5⟩, "m"⟩] :=
    List.mem_singleton_self _
  have hfollow : follow? sampleTaken.heap ⟨5⟩ [.field "items"] = some ⟨4⟩ := by cbv
  have hlist : sampleTaken.heap.get? ⟨4⟩ = some (.list [⟨3⟩, ⟨2⟩]) := by cbv
  rcases positional_of_reachable hl facing_sampleShelved hready with ⟨-, hcounts, -⟩
  have hreaches : ∃ t, ((sampleShelved.contextOf 0 ⟨some ⟨0, .process, true⟩, {}⟩
      ⟨0, .process, true⟩).reach ⟨0, ⟨5⟩, "m"⟩ [.field "items"]).Comes
        (Simulation.answer (run 1)) sampleTaken (.ok ⟨4⟩) t ∧ Holds sampleTaken _ {⟨4⟩} t :=
    Context.comes_reach _ hs (Multiset.mem_add.2 (.inl hroot)) hfollow 1
  rcases hreaches with ⟨t, hreach, ht⟩
  have hmade : ∃ value given, ((sampleShelved.contextOf 0 ⟨some ⟨0, .process, true⟩, {}⟩
      ⟨0, .process, true⟩).toForeign (.text "a")).Comes (Simulation.answer (run 1)) t (.ok value)
        given :=
    ⟨_, _, Comes.bind (comes_served ht.ready rfl)
      (comes_checkRef _ (Context.ready_withHeap ht.ready _) _ _)⟩
  rcases hmade with ⟨value, given, hmade⟩
  have hpositions := fun arguments => hcounts ⟨0, ⟨5⟩, "m"⟩ rfl hroot [.field "items"] ⟨4⟩ t hreach
    (.list [⟨3⟩, ⟨2⟩]) [⟨3⟩, ⟨2⟩] (.index arguments) arguments (ht.get? hlist) rfl rfl
  refine ⟨_, hl, ?_, ?_, ?_⟩
  · rcases (hpositions sampleSecond).1.within 2 counts_sampleSecond (Nat.le_refl 2) with
      ⟨item, hitem, hread⟩
    cases hitem
    have hseven : hostValue sampleTaken.heap 0 true ⟨2⟩ =
        .ok (.scalar (.int ⟨.int64, 7, by decide⟩)) := by cbv
    rw [hread, ht.hostValue_eq hs.sound hlist]
    exact congrArg (fun read => (read.map Reply.value).mapError Failure.bridge) hseven
  · exact (hpositions sampleThird).1.beyond 3 counts_sampleThird (Nat.lt_succ_self 2)
  · rcases ((hpositions sampleSecond).2 _ value given rfl hmade).within 2 counts_sampleSecond
      (Nat.le_refl 2) with ⟨written, after, -, -, -, hwritten, -⟩
    exact hwritten

end Ledger
end Session
end ForeignBridge
