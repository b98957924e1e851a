import ForeignBridge.Proofs.Crossing.Success
import ForeignBridge.Proofs.Heap.Lasting
import ForeignBridge.Proofs.Simulation.Honesty

/-!
# Requests that succeed

A running simulated runtime without a pending error answers every request for what is there, and no
reference to a live object is refused.  The lemmas say of each request which heap it leaves, which
references are held then, and that all objects that live on keep their contents.
-/

namespace ForeignBridge
namespace Simulation

/-- The same runtime with another heap. -/
def withHeap (s : Simulation) (h : Heap Object) : Simulation := { s with heap := h }

/-- The runtime serves requests, and no error is pending. -/
structure Ready (s : Simulation) : Prop where
  running : s.phase = .running
  quiet : s.pending = none

variable {α : Type} {depth : Nat} {base : Simulation} {h : Heap Object} {held : Multiset Ref}

/-!
# Outcomes
-/

theorem outcome_access {ref : Ref} {object : Object} (hget : h.get? ref = some object) :
    (access ref).outcome (base.withHeap h) = (.ok object, base.withHeap h) := by
  have hfound : (base.withHeap h).heap.get? ref = some object := hget
  unfold access
  rw [Attempt.outcome_get_bind, hfound]
  rfl

theorem outcome_access_bind {ref : Ref} {object : Object} (hget : h.get? ref = some object)
    (f : Object → Attempt Simulation α) :
    (access ref >>= f).outcome (base.withHeap h) = (f object).outcome (base.withHeap h) := by
  rw [Attempt.outcome_bind, outcome_access hget]

theorem outcome_retain {ref : Ref} {h' : Heap Object} (hretain : h.retain? ref = some h') :
    (retain ref).outcome (base.withHeap h) = (.ok (), base.withHeap h') := by
  have hretained : (base.withHeap h).heap.retain? ref = some h' := hretain
  unfold retain
  rw [Attempt.outcome_get_bind, hretained]
  rfl

/-- A reference is given back if nothing that dies thereby refers to what is dead already. -/
theorem outcome_release_of_dead {s : Simulation} {ref : Ref}
    (hdead : (s.heap.release ref).dead = none) :
    (release ref).outcome s = (.ok (), { s with heap := (s.heap.release ref).heap }) := by
  unfold release
  rw [Attempt.outcome_get_bind]
  dsimp only
  rw [hdead]
  rfl

theorem outcome_allocate (object : Object) :
    (allocate object).outcome (base.withHeap h) =
      (.ok (h.allocate object).1, base.withHeap (h.allocate object).2) := rfl

theorem outcome_requireRunning {s : Simulation} (hrunning : s.phase = .running)
    (operation : String) : (requireRunning operation).outcome s = (.ok (), s) := by
  unfold requireRunning
  rw [Attempt.outcome_get_bind, hrunning]
  rfl

/-- A running runtime serves every request. -/
theorem outcome_answer_of_running {runScript : Script → Attempt Simulation (Option Ref)}
    {s : Simulation} (hrunning : s.phase = .running) (r : Request) :
    (answer runScript r).outcome s = (serve runScript r).outcome s := by
  unfold answer
  rw [Attempt.outcome_bind, outcome_requireRunning hrunning]

theorem outcome_answer (hready : base.Ready) (r : Request) :
    (answer (run depth) r).outcome (base.withHeap h) =
      (serve (run depth) r).outcome (base.withHeap h) := by
  have hrunning : (base.withHeap h).phase = .running := hready.running
  exact outcome_answer_of_running hrunning r

/-!
# Acquiring and giving back
-/

theorem exists_retain {ref : Ref} (hb : h.Balanced held) (href : ref ∈ h.references + held) :
    ∃ h', h.retain? ref = some h' ∧ h'.Balanced ({ref} + held) ∧ h.Older h' := by
  rcases hb.live href with ⟨slot, hslot⟩
  have hretain : h.retain? ref =
      some (h.setSlot ref (some ⟨slot.owners + 1, slot.content, Nat.succ_pos _⟩)) := by
    unfold Heap.retain?
    rw [hslot]
    rfl
  exact ⟨_, hretain, hb.retain hretain, Heap.Older.retain hretain⟩

theorem exists_release {ref : Ref} (hb : h.Balanced ({ref} + held)) :
    ∃ h', (release ref).outcome (base.withHeap h) = (.ok (), base.withHeap h') ∧
      h'.Balanced held ∧ h.Older h' := by
  rw [← Multiset.coe_singleton] at hb
  have hreleased := hb.releaseAll
  have hdead : ((base.withHeap h).heap.release ref).dead = none := hreleased.1
  exact ⟨(h.releaseAll [ref]).heap, outcome_release_of_dead hdead, hreleased.2,
    Heap.Older.releaseAll h [ref]⟩

theorem exists_retainAll {refs : List Ref} (hb : h.Balanced held) (hrefs : ∀ ref ∈ refs, ref ∈ held) :
    ∃ h', (refs.forM retain).outcome (base.withHeap h) = (.ok ⟨⟩, base.withHeap h') ∧
      h'.Balanced ((refs : Multiset Ref) + held) ∧ h.Older h' := by
  induction refs generalizing h held with
  | nil =>
      refine ⟨h, rfl, ?_, Heap.Older.refl h⟩
      rw [Multiset.coe_nil, zero_add]
      exact hb
  | cons ref rest ih =>
      have hlive : ref ∈ h.references + held :=
        Multiset.mem_add.2 (.inr (hrefs ref List.mem_cons_self))
      rcases exists_retain hb hlive with ⟨h', hretain, hb', hold⟩
      have hrest : ∀ other ∈ rest, other ∈ {ref} + held := fun other hother =>
        Multiset.mem_add.2 (.inr (hrefs other (List.mem_cons_of_mem ref hother)))
      rcases ih hb' hrest with ⟨h'', houtcome, hb'', hold'⟩
      refine ⟨h'', ?_, ?_, hold.trans hold'⟩
      · show (retain ref >>= fun _ => rest.forM retain).outcome (base.withHeap h) = _
        rw [Attempt.outcome_bind, outcome_retain hretain]
        exact houtcome
      · rw [add_left_comm, ← add_assoc, Multiset.singleton_add, Multiset.cons_coe] at hb''
        exact hb''

/-!
# Names of types
-/

theorem exists_get? {ref : Ref} (hb : h.Balanced held) (href : ref ∈ h.references + held) :
    ∃ object, h.get? ref = some object := by
  rcases hb.live href with ⟨slot, hslot⟩
  unfold Heap.get?
  rw [hslot]
  exact ⟨slot.content, rfl⟩

theorem exists_child {ref child : Ref} {object : Object} (hb : h.Balanced held)
    (hget : h.get? ref = some object) (hchild : child ∈ object.children) :
    ∃ found, h.get? child = some found :=
  exists_get? hb (Multiset.mem_add.2 (.inl (Heap.mem_references hget hchild)))

theorem class_mem_children {object : Object} {cls : Ref} (hcls : object.class? = some cls) :
    cls ∈ object.children := by
  cases object with
  | instanceOf other attrs =>
      cases hcls
      exact List.mem_append_right _ List.mem_cons_self
  | _ => cases hcls

theorem exists_displayType {ref : Ref} {object : Object} (hb : h.Balanced held)
    (hget : h.get? ref = some object) :
    ∃ name, (displayType ref).outcome (base.withHeap h) = (.ok name, base.withHeap h) := by
  unfold displayType
  rw [outcome_access_bind hget]
  cases hcls : object.class? with
  | none => exact ⟨_, rfl⟩
  | some cls =>
      rcases exists_child hb hget (class_mem_children hcls) with ⟨found, hfound⟩
      dsimp only
      rw [outcome_access_bind hfound]
      cases found with
      | _ => exact ⟨_, rfl⟩

theorem exists_typeName {ref : Ref} {object : Object} (hb : h.Balanced held)
    (hget : h.get? ref = some object) :
    ∃ name, (typeName ref).outcome (base.withHeap h) = (.ok name, base.withHeap h) := by
  unfold typeName
  rw [outcome_access_bind hget]
  cases object with
  | boundMethod receiver function =>
      rcases exists_child hb hget (List.mem_cons_of_mem _ List.mem_cons_self) with ⟨found, hfound⟩
      dsimp only
      rw [outcome_access_bind hfound]
      split
      · exact ⟨_, rfl⟩
      · exact exists_displayType hb hget
  | _ =>
      dsimp only
      rw [outcome_access_bind hget]
      split
      · exact ⟨_, rfl⟩
      · exact exists_displayType hb hget

/-!
# Requests
-/

section Steps

variable (hready : base.Ready)

include hready

theorem reaches_served {r : Request} {given : r.Answer} {h' : Heap Object}
    {post : r.Answer → Simulation → Prop}
    (hserve : (serve (run depth) r).outcome (base.withHeap h) = (.ok given, base.withHeap h'))
    (hpost : post given (base.withHeap h')) :
    Crossing.Reaches (answer (run depth)) (Crossing.ask r) (base.withHeap h) post := by
  apply Crossing.Reaches.ask _ hpost
  rw [outcome_answer hready, hserve]

theorem reaches_errorPending {post : Bool → Simulation → Prop} (hpost : post false (base.withHeap h)) :
    Crossing.Reaches (answer (run depth)) (Crossing.ask .errorPending) (base.withHeap h) post := by
  have hnone : base.pending.isSome = false := by
    rw [hready.quiet]
    rfl
  apply reaches_served hready _ hpost
  show (Except.ok base.pending.isSome, base.withHeap h) = _
  rw [hnone]

theorem reaches_kindOf {ref : Ref} {object : Object} {post : ForeignKind → Simulation → Prop}
    (hget : h.get? ref = some object) (hpost : post object.kind (base.withHeap h)) :
    Crossing.Reaches (answer (run depth)) (Crossing.ask (.kindOf ref)) (base.withHeap h) post :=
  reaches_served hready (outcome_access_bind hget fun o => pure o.kind) hpost

theorem reaches_numericKind {ref : Ref} {object : Object}
    {post : Option NumericKind → Simulation → Prop} (hget : h.get? ref = some object)
    (hpost : post object.numericKind? (base.withHeap h)) :
    Crossing.Reaches (answer (run depth)) (Crossing.ask (.numericKind ref)) (base.withHeap h)
      post :=
  reaches_served hready (outcome_access_bind hget fun o => pure o.numericKind?) hpost

theorem reaches_boolValue {ref : Ref} {object : Object} {post : Bool → Simulation → Prop}
    (hget : h.get? ref = some object) (hpost : post object.truth (base.withHeap h)) :
    Crossing.Reaches (answer (run depth)) (Crossing.ask (.boolValue ref)) (base.withHeap h) post :=
  reaches_served hready (outcome_access_bind hget fun o => pure o.truth) hpost

theorem reaches_intValue {ref : Ref} {value : Int} {kind : Option NumericKind}
    {post : Option Int → Simulation → Prop} (hget : h.get? ref = some (.int value kind))
    (hpost : post (some value) (base.withHeap h)) :
    Crossing.Reaches (answer (run depth)) (Crossing.ask (.intValue ref)) (base.withHeap h) post :=
  reaches_served hready (outcome_access_bind hget _) hpost

theorem reaches_floatValue {ref : Ref} {x : Double} {kind : Option NumericKind}
    {post : Double → Simulation → Prop} (hget : h.get? ref = some (.float x kind))
    (hpost : post x (base.withHeap h)) :
    Crossing.Reaches (answer (run depth)) (Crossing.ask (.floatValue ref)) (base.withHeap h)
      post :=
  reaches_served hready (outcome_access_bind hget _) hpost

theorem reaches_stringBytes {ref : Ref} {text : String}
    {post : Option (List UInt8) → Simulation → Prop} (hget : h.get? ref = some (.text text))
    (hpost : post (some (Utf8.encode text)) (base.withHeap h)) :
    Crossing.Reaches (answer (run depth)) (Crossing.ask (.stringBytes ref)) (base.withHeap h)
      post :=
  reaches_served hready (outcome_access_bind hget _) hpost

theorem reaches_sequenceLength {ref : Ref} {refs : List Ref}
    {post : Option Nat → Simulation → Prop} (hget : h.get? ref = some (.tuple refs))
    (hpost : post (some refs.length) (base.withHeap h)) :
    Crossing.Reaches (answer (run depth)) (Crossing.ask (.sequenceLength ref)) (base.withHeap h)
      post :=
  reaches_served hready (outcome_access_bind hget _) hpost

/-- Every live object has a type with a name. -/
theorem reaches_typeName {ref : Ref} {object : Object} {post : Option String → Simulation → Prop}
    (hb : h.Balanced held) (hget : h.get? ref = some object)
    (hpost : ∀ name, post (some name) (base.withHeap h)) :
    Crossing.Reaches (answer (run depth)) (Crossing.ask (.typeName ref)) (base.withHeap h)
      post := by
  rcases exists_typeName (h := h) hb hget with ⟨name, hname⟩
  apply reaches_served hready _ (hpost name)
  show (typeName ref >>= fun name => pure (some name)).outcome (base.withHeap h) = _
  rw [Attempt.outcome_bind, hname]
  rfl

theorem reaches_retain {ref : Ref} {post : Unit → Simulation → Prop} (hb : h.Balanced held)
    (href : ref ∈ h.references + held)
    (hpost : ∀ h', h'.Balanced ({ref} + held) → h.Older h' → post () (base.withHeap h')) :
    Crossing.Reaches (answer (run depth)) (Crossing.ask (.retain ref)) (base.withHeap h) post := by
  rcases exists_retain hb href with ⟨h', hretain, hb', hold⟩
  exact reaches_served hready (outcome_retain hretain) (hpost h' hb' hold)

theorem reaches_null {post : Ref → Simulation → Prop} (hb : h.Balanced held)
    (href : nullRef ∈ held)
    (hpost : ∀ h', h'.Balanced ({nullRef} + held) → h.Older h' →
      post nullRef (base.withHeap h')) :
    Crossing.Reaches (answer (run depth)) (Crossing.ask .null) (base.withHeap h) post := by
  rcases exists_retain hb (Multiset.mem_add.2 (.inr href)) with ⟨h', hretain, hb', hold⟩
  apply reaches_served hready _ (hpost h' hb' hold)
  show (retain nullRef >>= fun _ => pure nullRef).outcome (base.withHeap h) = _
  rw [Attempt.outcome_bind, outcome_retain hretain]
  rfl

theorem reaches_sequenceItem {ref item : Ref} {refs : List Ref} {index : Nat}
    {post : Option Ref → Simulation → Prop} (hget : h.get? ref = some (.tuple refs))
    (hitem : refs[index]? = some item) (hb : h.Balanced held)
    (hpost : ∀ h', h'.Balanced ({item} + held) → h.Older h' →
      post (some item) (base.withHeap h')) :
    Crossing.Reaches (answer (run depth)) (Crossing.ask (.sequenceItem ref index))
      (base.withHeap h) post := by
  have hmem : item ∈ h.references := Heap.mem_references hget (List.mem_of_getElem? hitem)
  rcases exists_retain hb (Multiset.mem_add.2 (.inl hmem)) with ⟨h', hretain, hb', hold⟩
  apply reaches_served hready _ (hpost h' hb' hold)
  show (sequenceItem ref index).outcome (base.withHeap h) = _
  unfold sequenceItem
  have hfound : (Object.tuple refs).items?.bind (·[index]?) = some item := hitem
  rw [outcome_access_bind hget, hfound]
  show (retain item >>= fun _ => pure (some item)).outcome (base.withHeap h) = _
  rw [Attempt.outcome_bind, outcome_retain hretain]
  rfl

/-- A new object without references. -/
theorem reaches_allocate {r : Request} {object : Object} {given : Ref → r.Answer}
    {post : r.Answer → Simulation → Prop}
    (hserve : serve (run depth) r = allocate object >>= fun ref => pure (given ref))
    (hchildren : object.children = []) (hb : h.Balanced held)
    (hpost : ∀ ref h', h'.Balanced ({ref} + held) → h.Older h' → h'.get? ref = some object →
      post (given ref) (base.withHeap h')) :
    Crossing.Reaches (answer (run depth)) (Crossing.ask r) (base.withHeap h) post := by
  have hstart : h.Balanced ((Linked.children object : List Ref) + held) := by
    show h.Balanced ((object.children : List Ref) + held)
    rw [hchildren, Multiset.coe_nil, zero_add]
    exact hb
  have hafter := hpost (h.allocate object).1 (h.allocate object).2
    (Heap.Balanced.allocate object hstart) (Heap.Older.allocate h object)
    (Heap.get?_allocate h object)
  apply reaches_served hready _ hafter
  rw [hserve, Attempt.outcome_bind, outcome_allocate]
  rfl

theorem reaches_newTuple {refs : List Ref} {post : Option Ref → Simulation → Prop}
    (hb : h.Balanced held) (hrefs : ∀ ref ∈ refs, ref ∈ held)
    (hpost : ∀ ref h', h'.Balanced ({ref} + held) → h.Older h' →
      h'.get? ref = some (.tuple refs) → post (some ref) (base.withHeap h')) :
    Crossing.Reaches (answer (run depth)) (Crossing.ask (.newTuple refs)) (base.withHeap h)
      post := by
  rcases exists_retainAll hb hrefs with ⟨h', hretain, hb', hold⟩
  have hafter := hpost (h'.allocate (Object.tuple refs)).1 (h'.allocate (Object.tuple refs)).2
    (Heap.Balanced.allocate (Object.tuple refs) hb') (hold.trans (Heap.Older.allocate h' _))
    (Heap.get?_allocate h' _)
  apply reaches_served hready _ hafter
  show (refs.forM retain >>= fun _ => allocate (.tuple refs) >>= fun ref =>
    pure (some ref)).outcome (base.withHeap h) = _
  rw [Attempt.outcome_bind, hretain]
  dsimp only
  rw [Attempt.outcome_bind, outcome_allocate]
  rfl

theorem reaches_releaseAll {refs : List Ref} {post : Unit → Simulation → Prop}
    (hb : h.Balanced ((refs : Multiset Ref) + held))
    (hpost : ∀ h', h'.Balanced held → h.Older h' → post () (base.withHeap h')) :
    (Program.releaseAll refs).Reaches (answer (run depth)) (base.withHeap h) post := by
  induction refs generalizing h with
  | nil =>
      rw [Multiset.coe_nil, zero_add] at hb
      exact ⟨(), _, .done () _, hpost h hb (Heap.Older.refl h)⟩
  | cons ref rest ih =>
      rw [← Multiset.cons_coe, ← Multiset.singleton_add, add_assoc] at hb
      rcases exists_release hb with ⟨h', houtcome, hb', hold⟩
      have hanswer : (answer (run depth) (.release ref)).outcome (base.withHeap h) =
          (.ok (), base.withHeap h') := by
        rw [outcome_answer hready]
        exact houtcome
      apply Program.reaches_releaseAll_cons hanswer
      exact ih hb' fun h'' hb'' hold' => hpost h'' hb'' (hold.trans hold')

end Steps

end Simulation
end ForeignBridge
