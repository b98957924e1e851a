import ForeignBridge.Proofs.Crossing.Conversion
import ForeignBridge.Proofs.Simulation.Undoing

/-!
# Holding references meanwhile

Between two requests that read, the host holds a few references beyond those that it held at first,
and nothing else is different: the objects of the first state are as they were, no error is pending
and no function was called.  The lemmas say of the requests that readers and writers of chains ask what
they are answered then.

To make the counterpart of a value is to hold one reference more.  It is not known beforehand whether
there is a counterpart, but whatever is asked for it neither writes nor calls.
-/

namespace ForeignBridge

/-- The requests that neither write nor run code. -/
def Request.harmless : Request → Bool
  | setAttr _ _ _ | setItem _ _ _ | call _ _ => false
  | _ => true

/-- The conversation of a program that neither writes nor runs code. -/
def innocence : Protocol Unit where
  allows _ r := r.harmless = true
  next _ _ _ _ := True
  breaksOff _ := True

variable {α β : Type}

namespace Crossing

/-- A crossing that neither writes nor runs code, whatever the runtime answers. -/
def Innocent (c : Crossing α) : Prop :=
  c.Follows innocence (fun _ _ => True) (fun _ _ => True) ()

namespace Innocent

theorem pure {a : α} : Innocent (pure a : Crossing α) := trivial

theorem throw {e : BridgeError} : Innocent (throw e : Crossing α) := trivial

theorem note {event : Event} : Innocent (note event) := trivial

theorem ask {r : Request} (h : r.harmless = true) : Innocent (ask r) := ⟨h, fun _ _ _ => trivial⟩

theorem bind {c : Crossing α} {f : α → Crossing β} (hc : Innocent c) (hf : ∀ a, Innocent (f a)) :
    Innocent (c >>= f) := by
  unfold Innocent
  rw [follows_bind]
  exact follows_mono (fun a _ _ => hf a) (fun _ _ h => h) hc

theorem follows_releaseAll (refs : List Ref) {post : Unit → Unit → Prop} (h : post () ()) :
    (Program.releaseAll refs).Follows innocence post () := by
  induction refs with
  | nil => exact h
  | cons ref rest ih => exact ⟨rfl, fun _ _ _ => ih⟩

theorem releaseAll {refs : List Ref} : Innocent (releaseAll refs) := by
  unfold Innocent
  rw [Crossing.follows_releaseAll]
  exact follows_releaseAll refs trivial

theorem owningAll {refs : List Ref} {body : Crossing α} (hbody : Innocent body) :
    Innocent (owningAll refs body) := by
  unfold Innocent
  rw [follows_owningAll]
  exact follows_mono (fun _ _ _ => follows_releaseAll refs trivial)
    (fun _ _ _ => follows_releaseAll refs trivial) hbody

theorem keeping {refs : List Ref} {body : Crossing α} (hbody : Innocent body) :
    Innocent (keeping refs body) := by
  unfold Innocent
  rw [follows_keeping]
  exact follows_mono (fun _ _ h => h) (fun _ _ _ => follows_releaseAll refs trivial) hbody

theorem acquireEach {acquire : β → Crossing Ref} (hacquire : ∀ x, Innocent (acquire x))
    (xs : List β) : Innocent (acquireEach acquire xs) := by
  induction xs with
  | nil => exact pure
  | cons x xs ih =>
      apply bind (hacquire x)
      intro ref
      exact bind (keeping ih) fun _ => pure

end Innocent
end Crossing

namespace Context

open Crossing

variable (ctx : Context)

theorem innocent_fail (operation : Operation) (diagnostic : Option Diagnostic) :
    Innocent (ctx.fail operation diagnostic : Crossing α) := by
  unfold fail
  cases ctx.settings.debug with
  | false => exact Innocent.throw
  | true => exact Innocent.bind Innocent.note fun _ => Innocent.throw

theorem innocent_checkRef (operation : Operation) (answer : Option Ref) :
    Innocent (ctx.checkRef operation answer) := by
  unfold checkRef
  apply Innocent.bind (Innocent.ask rfl)
  intro pending
  cases pending with
  | true =>
      apply Innocent.bind (Innocent.ask rfl)
      intro diagnostic
      apply Innocent.bind Innocent.releaseAll
      intro _
      exact ctx.innocent_fail operation diagnostic
  | false =>
      cases answer with
      | some ref => exact Innocent.pure
      | none => exact ctx.innocent_fail operation none

theorem innocent_scalarToForeign (s : Scalar) : Innocent (ctx.scalarToForeign s) := by
  unfold scalarToForeign
  apply Innocent.bind Innocent.note
  intro _
  exact Innocent.bind (Innocent.ask rfl) fun answer => ctx.innocent_checkRef _ answer

theorem innocent_textToForeign (text : String) : Innocent (ctx.textToForeign text) :=
  Innocent.bind (Innocent.ask rfl) fun answer => ctx.innocent_checkRef _ answer

theorem innocent_buildTuple (items : List Ref) : Innocent (ctx.buildTuple items) :=
  Innocent.owningAll (Innocent.bind (Innocent.ask rfl) fun answer => ctx.innocent_checkRef _ answer)

theorem innocent_matrixToForeign (m : Matrix) : Innocent (ctx.matrixToForeign m) := by
  unfold matrixToForeign
  cases m.rows? with
  | none => exact Innocent.throw
  | some rows =>
      have hrow : ∀ leaves : List Scalar,
          Innocent (acquireEach ctx.scalarToForeign leaves >>= ctx.buildTuple) := fun leaves =>
        Innocent.bind (Innocent.acquireEach ctx.innocent_scalarToForeign leaves)
          ctx.innocent_buildTuple
      exact Innocent.bind (Innocent.acquireEach hrow rows) ctx.innocent_buildTuple

theorem innocent_handleToForeign (h : Handle) : Innocent (ctx.handleToForeign h) := by
  unfold handleToForeign
  by_cases hown : h.context = ctx.id
  · rw [if_pos hown]
    exact Innocent.bind (Innocent.ask rfl) fun _ => Innocent.pure
  · rw [if_neg hown]
    exact Innocent.throw

mutual

theorem innocent_toForeign (v : Value) : Innocent (ctx.toForeign v) := by
  cases v with
  | undefined =>
      unfold toForeign
      exact Innocent.ask rfl
  | scalar s =>
      unfold toForeign
      exact ctx.innocent_scalarToForeign s
  | text s =>
      unfold toForeign
      exact ctx.innocent_textToForeign s
  | cell items =>
      unfold toForeign
      cases allTexts? items with
      | some texts =>
          exact Innocent.bind (Innocent.acquireEach ctx.innocent_textToForeign texts)
            ctx.innocent_buildTuple
      | none => exact Innocent.bind (innocent_toForeignEach items) ctx.innocent_buildTuple
  | matrix m =>
      unfold toForeign
      exact ctx.innocent_matrixToForeign m
  | foreign h =>
      unfold toForeign
      exact ctx.innocent_handleToForeign h

theorem innocent_toForeignEach (values : List Value) : Innocent (ctx.toForeignEach values) := by
  cases values with
  | nil =>
      unfold toForeignEach
      exact Innocent.pure
  | cons value values =>
      unfold toForeignEach
      apply Innocent.bind (innocent_toForeign value)
      intro ref
      exact Innocent.bind (Innocent.keeping (innocent_toForeignEach values)) fun _ => Innocent.pure

end

end Context

namespace Simulation

open Attempt

variable {first s s' : Simulation} {base held : Multiset Ref} {depth : Nat}

/-- What neither writes nor runs code calls no function. -/
theorem keptBy_innocence (calls : List Ref) (depth : Nat) :
    innocence.KeptBy (answer (run depth)) (fun _ s => s.called = calls) fun _ => True := by
  constructor
  · rintro g s r hs hharmless
    have hserved : (serve (run depth) r).Returns s fun _ s' => s'.called = calls := by
      cases hreading : reading r with
      | true =>
          have hread : Read s true s s := Read.refl nofun
          refine returns_mono (fun _ s' h => h.called.trans hs)
            ((upholds_serve_of_reading (mild_read s true s) hreading).returns hread)
      | false =>
          cases r with
          | release ref =>
              refine returns_mono (fun _ s' h => ?_) (returns_release_eq ref)
              rw [h]
              exact hs
          | takeError => exact hs
          | setAttr _ _ _ | setItem _ _ _ | call _ _ => cases hharmless
          | _ => cases hreading
    have hanswer : (answer (run depth) r).Returns s fun _ s' => s'.called = calls := by
      unfold answer
      rw [returns_bind]
      refine returns_mono (fun _ s' h => ?_) (returns_requireRunning r.method)
      rw [h.1]
      exact hserved
    unfold Returns at hanswer
    rcases houtcome : (answer (run depth) r).outcome s with ⟨outcome, s'⟩
    rw [houtcome] at hanswer
    cases outcome with
    | ok given => exact ⟨(), trivial, hanswer⟩
    | error panic => exact ⟨trivial, trivial⟩
  · exact fun _ _ _ => trivial
  · exact fun _ _ _ => trivial

/-!
# What is known meanwhile
-/

/-- What is held lives. -/
theorem Sound.exists_held (hs : s.Sound held) {ref : Ref} (href : ref ∈ held) :
    ∃ object, s.heap.get? ref = some object := by
  apply exists_get? hs.balanced
  exact Multiset.mem_add.2 (.inr (Multiset.mem_add.2 (.inr href)))

/-- A runtime of which some references are held beyond those that were held at first. -/
structure Holds (first : Simulation) (base held : Multiset Ref) (s : Simulation) : Prop where
  sound : s.Sound (held + base)
  ready : s.Ready
  called : s.called = first.called
  intact : Intact first s

namespace Holds

theorem refl (hs : s.Sound base) (hready : s.Ready) : Holds s base 0 s := by
  refine ⟨?_, hready, rfl, Intact.refl s⟩
  rw [zero_add]
  exact hs

theorem of_eq {held' : Multiset Ref} (h : Holds first base held s) (heq : held = held') :
    Holds first base held' s := heq ▸ h

/-- Everything that was there at first is there. -/
theorem get? (h : Holds first base held s) {ref : Ref} {object : Object}
    (hget : first.heap.get? ref = some object) : s.heap.get? ref = some object := by
  rw [h.intact.goesOn.same ref (Heap.id_lt_size hget)]
  exact hget

theorem retain (h : Holds first base held s) {ref : Ref} {object : Object}
    (hget : s.heap.get? ref = some object) :
    ∃ s', (Simulation.retain ref).outcome s = (.ok (), s') ∧ Holds first base ({ref} + held) s' := by
  rcases Option.map_eq_some_iff.1 hget with ⟨slot, hslot, -⟩
  have hretain : s.heap.retain? ref =
      some (s.heap.setSlot ref (some ⟨slot.owners + 1, slot.content, Nat.succ_pos _⟩)) := by
    unfold Heap.retain?
    rw [hslot]
    rfl
  have houtcome : (Simulation.retain ref).outcome (s.withHeap s.heap) = _ := outcome_retain hretain
  have hs' := returns_of_outcome (returns_retain ref h.sound) houtcome
  refine ⟨_, houtcome, ?_, ⟨h.ready.running, h.ready.quiet⟩, h.called, h.intact.modules,
    h.intact.goesOn.retain hretain⟩
  rw [add_assoc]
  exact hs'.1

theorem lend (h : Holds first base held s) {ref : Ref} {object : Object}
    (hget : s.heap.get? ref = some object) :
    ∃ s', (Simulation.lend ref).outcome s = (.ok (some ref), s') ∧
      Holds first base ({ref} + held) s' := by
  rcases h.retain hget with ⟨s', houtcome, hs'⟩
  refine ⟨s', ?_, hs'⟩
  unfold Simulation.lend
  rw [outcome_bind, houtcome]
  rfl

theorem release (hfirst : first.Sound base) {ref : Ref} (h : Holds first base ({ref} + held) s) :
    ∃ s', (Simulation.release ref).outcome s = (.ok (), s') ∧ Holds first base held s' := by
  have hs := h.sound
  rw [add_assoc] at hs
  have houtcome := outcome_release hs
  have hs' := returns_of_outcome (keeps_release ref s _ hs) houtcome
  rw [zero_add] at hs'
  exact ⟨_, houtcome, hs', ⟨h.ready.running, h.ready.quiet⟩, h.called, h.intact.release hfirst hs⟩

/-- A new object takes over the references inside it. -/
theorem allocate {object : Object} (h : Holds first base ((object.children : List Ref) + held) s)
    (hobject : object.Honest) :
    ∃ ref s', (Simulation.allocate object).outcome s = (.ok ref, s') ∧
      Holds first base ({ref} + held) s' ∧ s'.heap.get? ref = some object := by
  have hs := h.sound
  rw [add_assoc] at hs
  have houtcome : (Simulation.allocate object).outcome (s.withHeap s.heap) = _ :=
    outcome_allocate object
  have hs' := returns_of_outcome (keeps_allocate object hobject s _ hs) houtcome
  refine ⟨_, _, houtcome, ⟨?_, ⟨h.ready.running, h.ready.quiet⟩, h.called, h.intact.modules, ?_⟩,
    Heap.get?_allocate _ _⟩
  · rw [add_assoc]
    exact hs'
  · apply h.intact.goesOn.allocate
    intro child hchild
    rcases hs.exists_held (Multiset.mem_add.2 (.inl hchild)) with ⟨found, hfound⟩
    exact Heap.id_lt_size hfound

end Holds

/-!
# Crossings
-/

theorem comes_served (hready : s.Ready) {r : Request} {given : r.Answer}
    (hserve : (serve (run depth) r).outcome s = (.ok given, s')) :
    (Crossing.ask r).Comes (answer (run depth)) s (.ok given) s' := by
  apply Crossing.Comes.ask
  rw [outcome_answer_of_running hready.running]
  exact hserve

theorem comes_errorPending (hready : s.Ready) :
    (Crossing.ask .errorPending).Comes (answer (run depth)) s (.ok false) s := by
  apply comes_served hready
  show (Except.ok s.pending.isSome, s) = _
  rw [hready.quiet]
  rfl

theorem comes_checkRef (ctx : Context) (hready : s.Ready) (operation : Operation) (ref : Ref) :
    (ctx.checkRef operation (some ref)).Comes (answer (run depth)) s (.ok ref) s :=
  Crossing.Comes.bind (comes_errorPending hready) Crossing.Comes.pure

theorem comes_retain (depth : Nat) (h : Holds first base held s) {ref : Ref} {object : Object}
    (hget : s.heap.get? ref = some object) :
    ∃ s', (Crossing.ask (.retain ref)).Comes (answer (run depth)) s (.ok ()) s' ∧
      Holds first base ({ref} + held) s' := by
  rcases h.retain hget with ⟨s', houtcome, hs'⟩
  exact ⟨s', comes_served h.ready houtcome, hs'⟩

theorem succeeds_release (hfirst : first.Sound base) {ref : Ref}
    (h : Holds first base ({ref} + held) s) :
    ∃ s', (Program.releaseAll [ref]).Succeeds (answer (run depth)) s () s' ∧
      Holds first base held s' := by
  rcases h.release hfirst with ⟨s', houtcome, hs'⟩
  have hanswer : (answer (run depth) (.release ref)).outcome s = (.ok (), s') := by
    rw [outcome_answer_of_running h.ready.running]
    exact houtcome
  exact ⟨s', .ask hanswer (.done () s'), hs'⟩

/-- A reference is given back after what is done with it. -/
theorem comes_owning (hfirst : first.Sound base) {ref : Ref} {c : Crossing α}
    {outcome : Except BridgeError α} (hc : c.Comes (answer (run depth)) s outcome s')
    (h : Holds first base ({ref} + held) s') :
    ∃ s'', (Crossing.owning ref c).Comes (answer (run depth)) s outcome s'' ∧
      Holds first base held s'' := by
  rcases succeeds_release hfirst h with ⟨s'', hrelease, hs''⟩
  exact ⟨s'', Crossing.Comes.owningAll hc hrelease, hs''⟩

/-- If a value has a counterpart, one more reference is held, and nothing else has happened. -/
theorem holds_toForeign (hfirst : first.Sound base) (ctx : Context) {v : Value} {ref : Ref}
    (h : Holds first base held s)
    (hcomes : (ctx.toForeign v).Comes (answer (run depth)) s (.ok ref) s') :
    Holds first base ({ref} + held) s' := by
  have htidy : Crossing.Tidy ctx false [] 0 (ctx.toForeign v) fun ref => {ref} :=
    ctx.tidy_toForeign v
  have howns := htidy.owns held
  have hattends : Tracks first base (some (0 + held, .calm, false)) s := by
    constructor
    · exact h.called
    · show s.Sound (0 + held + base)
      rw [zero_add]
      exact h.sound
    · rw [h.ready.quiet]
      rfl
    · exact fun _ => h.ready.running
    · exact fun _ => h.intact
  rcases Program.Succeeds.follows (keptBy_undoing hfirst depth) hcomes
    (Program.follows_orLost (Program.follows_beside howns htidy.reads)) hattends with
    ⟨moment, hmoment, htracks⟩
  rcases Program.Succeeds.follows (keptBy_innocence s.called depth) hcomes
    (ctx.innocent_toForeign v) rfl with ⟨-, -, hcalled⟩
  cases moment with
  | none => exact absurd (hcalled.trans h.called) htracks.2
  | some moment =>
      have howned : moment.1 = {ref} + held := (hmoment _ rfl).1
      have hcalm : moment.2 = (.calm, false) := (hmoment _ rfl).2
      have hattends' : Attends first base ({ref} + held, .calm, false) s' := by
        rw [← howned, ← hcalm]
        exact htracks
      have hsome : {ref} + held ≠ 0 := by
        intro hnone
        have hheld : ref ∈ {ref} + held :=
          Multiset.mem_add.2 (.inl (Multiset.mem_singleton_self ref))
        rw [hnone] at hheld
        exact Multiset.notMem_zero ref hheld
      exact ⟨hattends'.sound, ⟨hattends'.running hsome, hattends'.calm rfl⟩, hattends'.called,
        hattends'.intact rfl⟩

end Simulation
end ForeignBridge
