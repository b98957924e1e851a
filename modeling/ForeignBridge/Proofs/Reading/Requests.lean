import ForeignBridge.Proofs.Heap.Lending
import ForeignBridge.Proofs.Reading.Sequences
import ForeignBridge.Proofs.Simulation.Requests

/-!
# A simulated runtime that lends

A simulated runtime lends references to all objects that live, and shows the heap that it had at
first.
-/

namespace ForeignBridge
namespace Simulation

/-- The runtime after references to its objects were lent. -/
def lending (s : Simulation) (held : Multiset Ref) : Simulation := s.withHeap (s.heap.lent held)

theorem lending_zero (s : Simulation) : s.lending 0 = s := by
  unfold lending withHeap
  rw [Heap.lent_zero]

/-- The runtime serves requests, no reference in it is dead, and its numbers are of the kinds that
they carry. -/
structure Readable (s : Simulation) : Prop where
  ready : s.Ready
  closed : ∀ ref, ∀ child ∈ (contentOf s.heap ref).children, s.heap.isLive child = true
  tagged : ∀ ref, (contentOf s.heap ref).Tagged

/-- What a crossing comes to while references are lent, and which ones are lent then. -/
abbrev Lends {α : Type} (base : Simulation) (depth : Nat) (c : Crossing α) (held : Multiset Ref)
    (outcome : Except BridgeError α) (held' : Multiset Ref) : Prop :=
  c.Comes (answer (run depth)) (base.lending held) outcome (base.lending held')

variable {base : Simulation} {depth : Nat} {held held' : Multiset Ref} {ref : Ref}

theorem get?_contentOf {h : Heap Object} (hlive : h.isLive ref = true) :
    h.get? ref = some (contentOf h ref) := by
  unfold contentOf Heap.get?
  rcases Option.isSome_iff_exists.1 hlive with ⟨slot, hslot⟩
  rw [hslot]
  rfl

theorem get?_lending (hlive : base.heap.isLive ref = true) (held : Multiset Ref) :
    (base.heap.lent held).get? ref = some (contentOf base.heap ref) := by
  rw [Heap.get?_lent, get?_contentOf hlive]

theorem items_subset_children {object : Object} {items : List Ref}
    (hitems : object.items? = some items) {item : Ref} (hitem : item ∈ items) :
    item ∈ object.children := by
  cases object with
  | tuple _ | list _ =>
      cases hitems
      exact hitem
  | _ => cases hitems

theorem Readable.isLive_of_items (hbase : base.Readable) {items : List Ref}
    (hitems : (contentOf base.heap ref).items? = some items) :
    ∀ item ∈ items, base.heap.isLive item = true := fun item hitem =>
  hbase.closed ref item (items_subset_children hitems hitem)

/-- The runtime while it also reports that text cannot be encoded. -/
def raising (s : Simulation) (held : Multiset Ref) : Simulation :=
  { s.lending held with pending := some ⟨"UnicodeEncodeError", "surrogates not allowed"⟩ }

/-- The runtime lends what is live. -/
def lender (base : Simulation) (depth : Nat) : Lender Simulation where
  answer := answer (run depth)
  lending := base.lending
  raising := base.raising
  heap := base.heap
  Knows ref := base.heap.isLive ref = true

section Serving

variable (hbase : base.Readable)

include hbase

theorem answers_served {r : Request} {given : r.Answer}
    (hserve : (serve (run depth) r).outcome (base.lending held) = (.ok given, base.lending held')) :
    (base.lender depth).Answers r held given held' := by
  have hrunning : (base.lending held).phase = .running := hbase.ready.running
  show (answer (run depth) r).outcome (base.lending held) = _
  rw [outcome_answer_of_running hrunning]
  exact hserve

/-!
# Looking
-/

section Looking

variable (hlive : base.heap.isLive ref = true)

include hlive

/-- What is read off the object behind a reference. -/
theorem answers_access {r : Request} {given : r.Answer} {object : Object}
    (read : Object → Attempt Simulation r.Answer) (hcontent : contentOf base.heap ref = object)
    (hserve : serve (run depth) r = access ref >>= read)
    (hread : (read object).outcome (base.lending held) = (.ok given, base.lending held)) :
    (base.lender depth).Answers r held given held := by
  have hget := get?_lending hlive held
  rw [hcontent] at hget
  apply answers_served hbase
  rw [hserve, lending, outcome_access_bind hget]
  exact hread

omit hbase in
theorem outcome_displayType
    (hclosed : ∀ child ∈ (contentOf base.heap ref).children, base.heap.isLive child = true) :
    (displayType ref).outcome (base.lending held) =
      (.ok (typeText base.heap ref), base.lending held) := by
  unfold displayType typeText
  rw [lending, outcome_access_bind (get?_lending hlive held)]
  cases hclass : (contentOf base.heap ref).class? with
  | none => rfl
  | some cls =>
      have hchild := hclosed cls (class_mem_children hclass)
      dsimp only
      rw [outcome_access_bind (get?_lending hchild held)]
      cases contentOf base.heap cls with
      | _ => rfl

theorem outcome_typeName :
    (typeName ref).outcome (base.lending held) =
      (.ok (nameText base.heap ref), base.lending held) := by
  unfold typeName nameText
  rw [lending, outcome_access_bind (get?_lending hlive held)]
  cases hcontent : contentOf base.heap ref with
  | boundMethod receiver function =>
      have hfunction : base.heap.isLive function = true := by
        apply hbase.closed ref function
        rw [hcontent]
        exact List.mem_cons_of_mem _ List.mem_cons_self
      dsimp only
      rw [outcome_access_bind (get?_lending hfunction held)]
      cases (contentOf base.heap function).ownName? with
      | some name => rfl
      | none => exact outcome_displayType hlive (hbase.closed ref)
  | _ =>
      dsimp only
      rw [outcome_access_bind (get?_lending hlive held)]
      cases (contentOf base.heap ref).ownName? with
      | some name => rfl
      | none => exact outcome_displayType hlive (hbase.closed ref)

omit hbase in
theorem outcome_stringBytes {bytes : List UInt8}
    (hbytes : (contentOf base.heap ref).bytes? = some bytes) :
    (stringBytes ref).outcome (base.lending held) = (.ok (some bytes), base.lending held) := by
  unfold stringBytes
  rw [lending, outcome_access_bind (get?_lending hlive held)]
  cases hcontent : contentOf base.heap ref with
  | bytes octets | text chars =>
      rw [hcontent] at hbytes
      cases hbytes
      rfl
  | units codes =>
      rw [hcontent] at hbytes
      rcases Option.map_eq_some_iff.1 hbytes with ⟨text, htext, hencoded⟩
      dsimp only
      rw [htext, ← hencoded]
      rfl
  | _ =>
      rw [hcontent] at hbytes
      cases hbytes

/-- Text with a lone surrogate has no bytes: the runtime raises an error, which stays until it is
fetched. -/
theorem outcome_stringBytes_raising {codes : List UInt16}
    (hcontent : contentOf base.heap ref = .units codes) (hcodes : Utf16.decode? codes = none) :
    (answer (run depth) (.stringBytes ref)).outcome (base.lending held) =
      (.ok none, base.raising held) := by
  have hrunning : (base.lending held).phase = .running := hbase.ready.running
  rw [outcome_answer_of_running hrunning]
  show (stringBytes ref).outcome (base.lending held) = _
  unfold stringBytes
  rw [lending, outcome_access_bind (get?_lending hlive held), hcontent]
  dsimp only
  rw [hcodes]
  rfl

end Looking

theorem outcome_takeError_raising :
    (answer (run depth) .takeError).outcome (base.raising held) =
      (.ok (some ⟨"UnicodeEncodeError", "surrogates not allowed"⟩), base.lending held) := by
  have hrunning : (base.raising held).phase = .running := hbase.ready.running
  have hcleared :
      ({ base.raising held with pending := none } : Simulation) = base.lending held := by
    have hquiet := hbase.ready.quiet
    cases base
    cases hquiet
    rfl
  rw [outcome_answer_of_running hrunning, ← hcleared]
  rfl

/-!
# Lending and giving back
-/

theorem answers_retain (hlive : base.heap.isLive ref = true) :
    (base.lender depth).Answers (.retain ref) held () (ref ::ₘ held) :=
  answers_served hbase (outcome_retain (Heap.retain?_lent (get?_contentOf hlive) held))

theorem answers_sequenceItem {items : List Ref} {index : Nat}
    (hlive : base.heap.isLive ref = true)
    (hitems : (contentOf base.heap ref).items? = some items) (hlt : index < items.length) :
    (base.lender depth).Answers (.sequenceItem ref index) held (some items[index])
      (items[index] ::ₘ held) := by
  have hitem : (contentOf base.heap ref).items?.bind (·[index]?) = some items[index] := by
    rw [hitems, Option.bind_some, List.getElem?_eq_getElem hlt]
  have hretain := Heap.retain?_lent
    (get?_contentOf (hbase.isLive_of_items hitems _ (List.getElem_mem hlt))) held
  apply answers_served hbase
  show (sequenceItem ref index).outcome (base.lending held) = _
  unfold sequenceItem lend
  rw [lending, outcome_access_bind (get?_lending hlive held), hitem]
  dsimp only
  rw [Attempt.outcome_bind, outcome_retain hretain]
  rfl

theorem answers_release (hlive : base.heap.isLive ref = true) :
    (base.lender depth).Answers (.release ref) (ref ::ₘ held) () held := by
  have hreleased := Heap.release_lent (get?_contentOf hlive) held
  have hdead : ((base.lending (ref ::ₘ held)).heap.release ref).dead = none :=
    congrArg Released.dead hreleased
  have hheap : ((base.lending (ref ::ₘ held)).heap.release ref).heap = base.heap.lent held :=
    congrArg Released.heap hreleased
  apply answers_served hbase
  show (release ref).outcome _ = _
  rw [outcome_release_of_dead hdead, hheap]
  rfl

/-- A runtime lends references to what is live. -/
theorem serves_lender : (base.lender depth).Serves where
  knows_items _ hitems := hbase.isLive_of_items hitems
  tagged := hbase.tagged
  kindOf _ hlive := ⟨_, .inl rfl, answers_access hbase hlive (fun o => pure o.kind) rfl rfl rfl⟩
  numericKind _ hlive := answers_access hbase hlive (fun o => pure o.numericKind?) rfl rfl rfl
  boolValue _ hlive hcontent :=
    answers_access hbase hlive (fun o => pure o.truth) hcontent rfl rfl
  intValue _ hlive hcontent := answers_access hbase hlive _ hcontent rfl rfl
  floatValue _ hlive hcontent := answers_access hbase hlive _ hcontent rfl rfl
  stringBytes _ hlive hbytes := answers_served hbase (outcome_stringBytes hlive hbytes)
  sequenceLength _ hlive hitems := by
    refine answers_access hbase hlive _ rfl rfl ?_
    have hitems' : (contentOf base.heap _).items? = some _ := hitems
    rw [hitems']
    rfl
  sequenceItem _ hlive hitems hlt := answers_sequenceItem hbase hlive hitems hlt
  typeName held hlive := by
    apply answers_served hbase
    show (typeName _ >>= fun name => pure (some name)).outcome (base.lending held) = _
    rw [Attempt.outcome_bind, outcome_typeName hbase hlive]
    rfl
  release _ hlive := answers_release hbase hlive
  errorPending held := by
    have hnone : base.pending.isSome = false := by
      rw [hbase.ready.quiet]
      rfl
    apply answers_served hbase
    show (Except.ok base.pending.isSome, base.lending held) = _
    rw [hnone]
  unencodable _ hlive hcontent hcodes := outcome_stringBytes_raising hbase hlive hcontent hcodes
  errorPending_raising held := by
    have hrunning : (base.raising held).phase = .running := hbase.ready.running
    show (answer (run depth) .errorPending).outcome (base.raising held) = _
    rw [outcome_answer_of_running hrunning]
    rfl
  takeError_raising _ := outcome_takeError_raising hbase

theorem lends_retain (hlive : base.heap.isLive ref = true) :
    base.Lends depth (Crossing.ask (.retain ref)) held (.ok ()) (ref ::ₘ held) :=
  (answers_retain hbase hlive).lends

/-- Every live object is read as its value. -/
theorem lends_toHost (ctx : Context) (hlive : base.heap.isLive ref = true) :
    base.Lends depth (ctx.toHost ref) (ref ::ₘ held)
      (hostValue base.heap ctx.id ctx.settings.matrixAutoconversion ref)
      (lentBy Value.refs held
        (hostValue base.heap ctx.id ctx.settings.matrixAutoconversion ref)) :=
  ctx.lends_toHost (serves_lender hbase) hlive

end Serving

end Simulation
end ForeignBridge
