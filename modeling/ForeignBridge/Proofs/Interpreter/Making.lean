import ForeignBridge.Proofs.Building.Making
import ForeignBridge.Proofs.Interpreter.Running

/-!
# Counterparts in an interpreter

An interpreter has one null object, two truth values, small integers and short texts, and it makes
new objects of everything else.  Its numbers carry no kinds.  What is given back after a failure was
made for the value, so that nothing else is done when it dies.
-/

namespace ForeignBridge
namespace Interpreter

/-- How the interpreter serves a request, which it always does. -/
def serving (r : Request) : Attempt Interpreter r.Answer := ExceptT.lift (answer r)

theorem outcome_serving (r : Request) (s : Interpreter) :
    (serving r).outcome s = (.ok ((answer r).run s).1, ((answer r).run s).2) := rfl

def withHeap (s : Interpreter) (h : Heap Object) : Interpreter := { s with heap := h }

/-- The objects that exist only once are in their places. -/
def Furnished (s : Interpreter) : Prop :=
  ∀ content ref, uniqueRef? content = some ref → s.heap.get? ref = some ⟨content, none, none⟩

theorem children_plain (content : Content) :
    Linked.children (⟨content, none, none⟩ : Object) = content.children :=
  List.append_nil content.children

theorem uniqueRef?_children {content : Content} {ref : Ref}
    (hunique : uniqueRef? content = some ref) : content.children = [] := by
  unfold uniqueRef? at hunique
  split at hunique <;> first | rfl | cases hunique

/-- Numbers lose their kinds. -/
def encoding : Encoding Object where
  null := ⟨.null, none, none⟩
  scalar s := ⟨contentOfScalar s, none, none⟩
  text t := ⟨.text (.ofString t), none, none⟩
  tuple refs := ⟨.tuple refs, none, none⟩
  unique? object := uniqueRef? object.content
  children_null := rfl
  children_scalar s := by cases s <;> rfl
  children_text _ := rfl
  children_tuple refs := children_plain (.tuple refs)
  unique_tuple refs hunique := by
    obtain ⟨ref, href⟩ := Option.isSome_iff_exists.1 hunique
    exact uniqueRef?_children href

/-- An interpreter that makes objects, none of which is of a written class. -/
def maker (base : Interpreter) : Maker Interpreter Object where
  code := encoding
  answer := serving
  place := base.withHeap
  first := base.heap
  plain object := object.cls = none

section Making

variable {base : Interpreter} {h : Heap Object} {held : Multiset Ref}

/-!
# Acquiring
-/

theorem run_retain {ref : Ref} {h' : Heap Object} (hretain : h.retain? ref = some h') :
    (retain ref).run (base.withHeap h) = (ref, base.withHeap h') := by
  show (ref, base.withHeap ((h.retain? ref).getD h)) = _
  rw [hretain, Option.getD_some]

theorem within_of_older {h' : Heap Object} {held' : Multiset Ref}
    (hh : (maker base).Within h held) (ha : base.heap.Acquired h' held')
    (hold : ∀ ref object, base.heap.slots.size ≤ ref.id → h'.get? ref = some object →
      h.get? ref = some object ∨ object.cls = none) : (maker base).Within h' held' := by
  refine ⟨ha, fun ref object hnew hget => ?_⟩
  rcases hold ref object hnew hget with hbefore | hplain
  · exact hh.plain ref object hnew hbefore
  · exact hplain

theorem exists_retain (hh : (maker base).Within h held) {ref : Ref}
    (hlive : ∃ object, h.get? ref = some object) :
    ∃ h', (retain ref).run (base.withHeap h) = (ref, base.withHeap h') ∧
      (maker base).Within h' ({ref} + held) ∧ h.Older h' ∧
        ∀ other, h'.owners other = h.owners other + [ref].count other := by
  obtain ⟨h', hretain, ha⟩ := hh.acquired.exists_retain hlive
  refine ⟨h', run_retain hretain, ?_, .retain hretain, Heap.owners_retain hretain⟩
  refine within_of_older hh ha fun other object _ hget => .inl ?_
  rwa [Heap.get?_retain hretain] at hget

theorem exists_retainAll {refs : List Ref} (hh : (maker base).Within h held)
    (hrefs : ∀ ref ∈ refs, ref ∈ held) :
    ∃ h', (retainAll refs).run (base.withHeap h) = ((), base.withHeap h') ∧
      (maker base).Within h' ((refs : Multiset Ref) + held) ∧ h.Older h' ∧
        ∀ other, h'.owners other = h.owners other + refs.count other := by
  induction refs generalizing h held with
  | nil =>
      refine ⟨h, rfl, ?_, .refl h, fun _ => rfl⟩
      rwa [Multiset.coe_nil, zero_add]
  | cons ref rest ih =>
      rw [List.forall_mem_cons] at hrefs
      obtain ⟨h', hretain, hh', hold, howners⟩ :=
        exists_retain hh (hh.acquired.live_held hrefs.1)
      obtain ⟨h'', hrest, hh'', hold', howners'⟩ := ih hh' fun other hother =>
        Multiset.mem_add.2 (.inr (hrefs.2 other hother))
      refine ⟨h'', ?_, ?_, hold.trans hold', fun other => ?_⟩
      · show (retainAll rest).run ((retain ref).run (base.withHeap h)).2 = _
        rw [hretain, hrest]
      · rwa [add_left_comm, ← add_assoc, Multiset.singleton_add, Multiset.cons_coe] at hh''
      · rw [howners', howners, Nat.add_assoc, ← List.count_append]
        rfl

/-- A reference to an object of a plain content takes over what the content refers to. -/
theorem exists_make (hfirst : base.Furnished) (content : Content)
    (hh : (maker base).Within h ((content.children : Multiset Ref) + held)) :
    ∃ ref h', (make content).run (base.withHeap h) = (ref, base.withHeap h') ∧
      (maker base).Within h' ({ref} + held) ∧ h.Older h' ∧
      encoding.Made base.heap h' ⟨content, none, none⟩ ref ∧
      (base.heap.slots.size ≤ ref.id → h.owners ref = 0) ∧
      ∀ other, h'.owners other = h.owners other + [ref].count other := by
  have hunique : encoding.unique? ⟨content, none, none⟩ = uniqueRef? content := rfl
  unfold make
  cases hcontent : uniqueRef? content with
  | some ref =>
      rw [uniqueRef?_children hcontent, Multiset.coe_nil, zero_add] at hh
      have hthere := hfirst content ref hcontent
      obtain ⟨h', hretain, hh', hold, howners⟩ := exists_retain hh ⟨_, hh.acquired.get? hthere⟩
      have hlive := hh'.acquired.live_held (Multiset.mem_add.2 (.inl (List.mem_singleton.2 rfl)))
      refine ⟨ref, h', hretain, hh', hold, ⟨?_, .inl (hunique.trans hcontent)⟩, fun hnew => ?_,
        howners⟩
      · exact hold.get?_of_live (hh.acquired.get? hthere) hlive
      · exact absurd (Heap.id_lt_size hthere) (Nat.not_lt.2 hnew)
  | none =>
      have ha : base.heap.Acquired h
          ((Linked.children (⟨content, none, none⟩ : Object) : Multiset Ref) + held) := by
        rw [children_plain]
        exact hh.acquired
      have hnew : (h.allocate (⟨content, none, none⟩ : Object)).2.get? _ = some _ :=
        Heap.get?_allocate h _
      refine ⟨(h.allocate ⟨content, none, none⟩).1, (h.allocate ⟨content, none, none⟩).2, rfl, ?_,
        .allocate h _, ⟨hnew, .inr ⟨hunique.trans hcontent, ha.goesOn.grows⟩⟩,
        fun _ => Heap.owners_eq_zero.2 (Heap.fresh_dead h _), Heap.owners_allocate h _⟩
      refine within_of_older hh ha.allocate fun ref object _ hget => ?_
      by_cases hother : ref = (h.allocate (⟨content, none, none⟩ : Object)).1
      · rw [hother, Heap.get?_allocate] at hget
        cases hget
        exact .inr rfl
      · rw [Heap.get?, Heap.slot?_allocate_of_ne hother] at hget
        exact .inl hget

/-!
# Giving back
-/

/-- Nothing else is done when plain objects die. -/
theorem run_release {ref : Ref} (hplain : ∀ object ∈ (h.release ref).freed, object.cls = none) :
    (release ref).run (base.withHeap h) = ((), base.withHeap (h.release ref).heap) := by
  refine run_forM (fun object hobject s => ?_) (base.withHeap (h.release ref).heap)
  have hinfo : classInfo? (base.withHeap h).heap object = none := by
    rw [classInfo?, hplain object hobject]
    rfl
  rw [hinfo]
  rfl

theorem exists_release {ref : Ref} (hh : (maker base).Within h ({ref} + held)) :
    ∃ h', (release ref).run (base.withHeap h) = ((), base.withHeap h') ∧
      (maker base).Within h' held ∧ h.Older h' ∧
        ∀ other, h'.owners other + [ref].count other ≤ h.owners other := by
  have ha := hh.acquired
  rw [← Multiset.coe_singleton] at ha
  obtain ⟨hdead, ha'⟩ := ha.releaseAll
  refine ⟨(h.release ref).heap, run_release fun object hobject => ?_, ?_, .releaseAll h [ref],
    Heap.owners_releaseAll hdead⟩
  · obtain ⟨other, hnew, hget⟩ := ha.freed object hobject
    exact hh.plain other object hnew hget
  · exact within_of_older hh ha' fun other object _ hget => .inl (Heap.get?_of_releaseAll hget)

/-!
# Requests
-/

theorem hands_make (hfirst : base.Furnished) {r : Request} {given : Ref → r.Answer}
    {content : Content} (hchildren : content.children = [])
    (hanswer : answer r = make content >>= fun ref => pure (given ref))
    (hh : (maker base).Within h held) :
    (maker base).Hands h held r given ⟨content, none, none⟩ := by
  have hstart : (maker base).Within h ((content.children : Multiset Ref) + held) := by
    rwa [hchildren, Multiset.coe_nil, zero_add]
  obtain ⟨ref, h', hmake, hh', hold, hmade, hfresh, howners⟩ := exists_make hfirst content hstart
  refine ⟨ref, h', ?_, hh', hold, hmade, hfresh, fun other => ?_⟩
  · show (serving r).outcome (base.withHeap h) = _
    rw [outcome_serving, hanswer]
    show (Except.ok (given ((make content).run (base.withHeap h)).1),
      ((make content).run (base.withHeap h)).2) = _
    rw [hmake]
    rfl
  · rw [howners, children_plain, hchildren, List.count_nil, Nat.zero_add]

theorem hands_newTuple (hfirst : base.Furnished) {refs : List Ref}
    (hh : (maker base).Within h ((refs : Multiset Ref) + held)) :
    (maker base).Hands h ((refs : Multiset Ref) + held) (.newTuple refs) some
      ⟨.tuple refs, none, none⟩ := by
  obtain ⟨h', hretain, hh', hold, howners⟩ := exists_retainAll hh fun ref href =>
    Multiset.mem_add.2 (.inl href)
  obtain ⟨ref, h'', hmake, hh'', hold', hmade, hfresh, howners'⟩ :=
    exists_make hfirst (.tuple refs) hh'
  refine ⟨ref, h'', ?_, hh'', hold.trans hold', hmade, fun hnew => ?_, fun other => ?_⟩
  · show (serving (.newTuple refs)).outcome (base.withHeap h) = _
    rw [outcome_serving]
    show (Except.ok (some ((make (.tuple refs)).run
      ((retainAll refs).run (base.withHeap h)).2).1), ((make (.tuple refs)).run
      ((retainAll refs).run (base.withHeap h)).2).2) = _
    rw [hretain, hmake]
    rfl
  · have hdead := hfresh hnew
    rw [howners] at hdead
    omega
  · rw [howners', howners, children_plain, Nat.add_assoc]
    exact Nat.le_refl _

theorem serves_maker (hquiet : base.pending = none) (hfirst : base.Furnished) :
    (maker base).Serves where
  pending h := by
    show (Except.ok base.pending.isSome, base.withHeap h) = _
    rw [hquiet]
    rfl
  retain h held ref hh hlive := by
    obtain ⟨h', hretain, hrest⟩ := exists_retain hh hlive
    refine ⟨h', ?_, hrest⟩
    show (Except.ok (), ((retain ref).run (base.withHeap h)).2) = _
    rw [hretain]
    rfl
  release h held ref hh := by
    obtain ⟨h', hrelease, hrest⟩ := exists_release hh
    refine ⟨h', ?_, hrest⟩
    show (Except.ok ((release ref).run (base.withHeap h)).1,
      ((release ref).run (base.withHeap h)).2) = _
    rw [hrelease]
    rfl
  null h held hh := hands_make hfirst rfl (bind_pure (make .null)).symm hh
  newScalar h held s hh := by
    refine hands_make hfirst ?_ rfl hh
    cases s <;> rfl
  newString h held t hh := hands_make hfirst rfl rfl hh
  newTuple h held refs hh := hands_newTuple hfirst hh

end Making
end Interpreter
end ForeignBridge
