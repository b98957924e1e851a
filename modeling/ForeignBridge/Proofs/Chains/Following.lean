import ForeignBridge.Proofs.Chains.Reading

/-!
# Following chains

A walk on which nothing is called comes to the object that the chain leads to in the heap, or else to a
method that it bound itself.  Nothing is looked up in a method, so such a walk ends there.
-/

namespace ForeignBridge
namespace Simulation

open Attempt

def Object.isMethod : Object → Bool
  | boundMethod _ _ => true
  | _ => false

/-- Nothing on the way along a chain is called, neither an object that a link leads to nor a method that
a link binds. -/
def Looks (h : Heap Object) : Ref → List Accessor → Prop
  | _, [] => True
  | ref, link :: links =>
    (∀ arguments object, link = .call arguments → h.get? ref = some object →
      object.isCallable = false) ∧
      (∀ next, next? h ref link = some next → Looks h next links) ∧
      (next? h ref link = none → ∀ arguments, links.head? ≠ some (.call arguments))

variable {first s s' : Simulation} {base held : Multiset Ref} {depth : Nat} {target next : Ref}
  {object : Object}

/-!
# What is answered
-/

theorem Holds.outcome_complaint (h : Holds first base held s)
    (hget : s.heap.get? target = some object) (kind : String) (message : String → String) :
    ∃ s', (Simulation.displayType target >>= fun type =>
      failWith kind (message type) (none : Option Ref)).outcome s = (.ok none, s') := by
  rcases h.displayType hget with ⟨type, htype⟩
  rw [outcome_bind, htype]
  exact ⟨_, rfl⟩

/-- A method of a class is bound to an object. -/
theorem Holds.bindMethod (h : Holds first base held s) {function : Ref} {found : Object}
    (hget : s.heap.get? target = some object) (hfunction : s.heap.get? function = some found) :
    ∃ method s', (Simulation.retain target >>= fun _ => Simulation.retain function >>= fun _ =>
        Simulation.allocate (.boundMethod target function) >>= fun ref =>
          pure (some ref)).outcome s = (.ok (some method), s') ∧
      Holds first base ({method} + held) s' ∧
      s'.heap.get? method = some (.boundMethod target function) := by
  rcases h.retain hget with ⟨s₁, hretain, hs₁⟩
  have hlasts := Attempt.returns_of_outcome (returns_retain target h.sound) hretain
  rcases hs₁.retain ((hlasts.2 function).trans hfunction) with ⟨s₂, hretain', hs₂⟩
  have hchildren : ({function} : Multiset Ref) + ({target} + held) =
      ((Object.boundMethod target function).children : List Ref) + held := by
    rw [← add_assoc, add_comm ({function} : Multiset Ref)]
    rfl
  rcases (hs₂.of_eq hchildren).allocate trivial with ⟨method, s₃, hallocate, hs₃, hmethod⟩
  refine ⟨method, s₃, ?_, hs₃, hmethod⟩
  rw [outcome_bind, hretain]
  dsimp only
  rw [outcome_bind, hretain']
  dsimp only
  rw [outcome_bind, hallocate]
  rfl

/-- An attribute is what it is in the heap, or a method that was bound. -/
theorem Holds.of_getAttr (hfirst : first.Sound base) (h : Holds first base held s)
    (hget : first.heap.get? target = some object) {name : String}
    (houtcome : (Simulation.getAttr target name).outcome s = (.ok (some next), s')) :
    attribute? first.heap object name = some next ∨
      object.class?.isSome = true ∧ Holds first base ({next} + held) s' ∧
        ∃ method, s'.heap.get? next = some method ∧ method.isMethod = true := by
  have hclosed := closed_of_balanced hfirst.balanced
  rcases h.outcome_complaint (h.get? hget) "AttributeError"
    (fun type => s!"'{type}' object has no attribute '{name}'") with ⟨failed, hfailed⟩
  cases hattr : attribute? first.heap object name with
  | some found =>
      rcases h.getAttr hfirst hget hattr with ⟨s'', hfound, -⟩
      rw [hfound] at houtcome
      cases houtcome
      exact .inl rfl
  | none =>
      right
      rcases Option.or_eq_none_iff.1 hattr with ⟨hown, hinherited⟩
      unfold Simulation.getAttr at houtcome
      rw [outcome_look (h.get? hget), show object.attrs?.bind (·.find? name) = none from hown]
        at houtcome
      dsimp only at houtcome
      cases hcls : object.class? with
      | none =>
          have hnothing : (classAttr object name).outcome s = (.ok none, s) := by
            unfold classAttr
            rw [hcls]
            rfl
          rw [outcome_bind, hnothing] at houtcome
          dsimp only at houtcome
          rw [hfailed] at houtcome
          cases houtcome
      | some cls =>
          rcases hclosed target object hget cls (class_mem_children hcls) with ⟨owner, howner⟩
          have hentry : (classAttr object name).outcome s = (.ok (owner.at? (.field name)), s) := by
            unfold classAttr
            rw [hcls]
            exact outcome_look (h.get? howner) fun o => pure (o.attrs?.bind (·.find? name))
          rw [outcome_bind, hentry] at houtcome
          dsimp only at houtcome
          cases hfound : owner.at? (.field name) with
          | none =>
              rw [hfound] at houtcome
              dsimp only at houtcome
              rw [hfailed] at houtcome
              cases houtcome
          | some found =>
              rcases hclosed cls owner howner found (Object.mem_children_of_at? hfound) with
                ⟨value, hvalue⟩
              rw [hfound] at houtcome
              dsimp only at houtcome
              rw [outcome_look (h.get? hvalue)] at houtcome
              cases value with
              | function body name =>
                  rcases h.bindMethod (h.get? hget) (h.get? hvalue) with
                    ⟨method, s'', hbound, hs'', hmethod⟩
                  rw [hbound] at houtcome
                  cases houtcome
                  exact ⟨rfl, hs'', _, hmethod, rfl⟩
              | _ =>
                  unfold inherited? at hinherited
                  simp only [Option.bind_eq_bind] at hinherited
                  rw [hcls, Option.bind_some, howner, Option.bind_some, hfound, Option.bind_some,
                    hvalue, Option.bind_some] at hinherited
                  cases hinherited

theorem position_of_resolveIndex {index : Int} {count position : Nat} (hindex : 0 ≤ index)
    (hresolve : resolveIndex index count = some position) :
    position = index.toNat ∧ index.toNat < count := by
  unfold resolveIndex at hresolve
  rw [if_neg (Int.not_lt.2 hindex)] at hresolve
  rcases Option.ite_none_right_eq_some.1 hresolve with ⟨hrange, hposition⟩
  cases hposition
  exact ⟨rfl, by omega⟩

theorem text?_of_int? {key : Object} {index : Int} (hkey : key.int? = some index) :
    key.text? = none := by
  cases key with
  | int _ _ => rfl
  | _ => cases hkey

/-- An item that is answered for a position is the one in the heap. -/
theorem Holds.of_getItem (h : Holds first base held s) {key : Ref} {number : Object} {index : Int}
    (hindex : 0 ≤ index) (hget : first.heap.get? target = some object)
    (hkey : s.heap.get? key = some number) (hnumber : number.int? = some index)
    (houtcome : (Simulation.getItem target key).outcome s = (.ok (some next), s')) :
    object.at? (.slot index.toNat) = some next := by
  rcases h.displayType (h.get? hget) with ⟨type, htype⟩
  unfold Simulation.getItem at houtcome
  rw [outcome_bind, htype] at houtcome
  dsimp only at houtcome
  rw [outcome_look hkey, outcome_look (h.get? hget)] at houtcome
  have hitem : ∀ items, object.items? = some items →
      (((resolveIndex index items.length).bind (items[·]?)).elim
        (failWith "IndexError" s!"{type} index out of range" none) Simulation.lend).outcome s =
          (.ok (some next), s') → object.at? (.slot index.toNat) = some next := by
    intro items hitems hlent
    cases hfound : (resolveIndex index items.length).bind (items[·]?) with
    | none =>
        rw [hfound] at hlent
        cases hlent
    | some item =>
        rw [hfound] at hlent
        rcases Option.bind_eq_some_iff.1 hfound with ⟨position, hresolve, hposition⟩
        rw [(position_of_resolveIndex hindex hresolve).1] at hposition
        have hreturns : (Simulation.lend item).Returns s fun given _ => given = some item := by
          unfold Simulation.lend
          rw [returns_bind]
          exact returns_mono (fun _ _ _ => rfl) (returns_retain_heap item)
        cases returns_of_outcome hreturns hlent
        show object.items?.bind _ = _
        rw [hitems]
        exact hposition
  cases object with
  | tuple items | list items =>
      dsimp only at houtcome
      rw [hnumber] at houtcome
      dsimp only at houtcome
      refine hitem items rfl (Eq.trans ?_ houtcome)
      cases (resolveIndex index items.length).bind (items[·]?) with
      | none => rfl
      | some item => rfl
  | bag attrs =>
      dsimp only at houtcome
      rw [text?_of_int? hnumber] at houtcome
      cases houtcome
  | _ => cases houtcome

/-- What is left when a reference is given back. -/
theorem eq_of_released {ref : Ref} (hs : s.Sound ({ref} + held)) (hready : s.Ready)
    (hsucceeds : (Program.releaseAll [ref]).Succeeds (answer (run depth)) s () s') :
    s' = { s with heap := (s.heap.release ref).heap } := by
  have houtcome : (serve (run depth) (.release ref)).outcome s = _ := outcome_release hs
  rw [← outcome_answer_of_running hready.running] at houtcome
  exact (hsucceeds.unique (.ask houtcome (.done () _))).2

theorem Holds.released (hfirst : first.Sound base) {ref : Ref}
    (h : Holds first base ({ref} + held) s)
    (hsucceeds : (Program.releaseAll [ref]).Succeeds (answer (run depth)) s () s') :
    Holds first base held s' ∧ s.heap.Older s'.heap := by
  have hs := h.sound
  rw [add_assoc] at hs
  rcases succeeds_release hfirst h with ⟨s'', hsucceeds', hs''⟩
  rcases hsucceeds.unique hsucceeds' with ⟨-, rfl⟩
  refine ⟨hs'', ?_⟩
  rw [eq_of_released hs h.ready hsucceeds]
  exact Heap.Older.releaseAll s.heap [ref]

/-- Nothing is looked up in a method. -/
theorem next?_of_isMethod {h : Heap Object} {ref : Ref} (hget : h.get? ref = some object)
    (hmethod : object.isMethod = true) (link : Accessor) : next? h ref link = none := by
  unfold next?
  rw [hget, Option.bind_eq_bind, Option.bind_some]
  cases object with
  | boundMethod receiver function =>
      cases link with
      | field name => rfl
      | call arguments => rfl
      | index arguments =>
          dsimp only
          cases hslot : slotOf? arguments with
          | none => rfl
          | some place =>
              rcases exists_of_slotOf? hslot with ⟨position, -, rfl⟩
              rfl
  | _ => cases hmethod

end Simulation

namespace Context

open Simulation Crossing

variable (ctx : Context) {α : Type} {first s s' : Simulation} {base held : Multiset Ref} {depth : Nat}
  {target next : Ref} {object : Simulation.Object}

/-!
# Crossings that succeed
-/

theorem not_fail {operation : Operation} {diagnostic : Option Diagnostic} {a : α} :
    ¬ (ctx.fail operation diagnostic : Crossing α).Comes (answer (run depth)) s (.ok a) s' := by
  intro hcomes
  unfold fail at hcomes
  cases hdebug : ctx.settings.debug with
  | false =>
      rw [hdebug] at hcomes
      exact Comes.not_throw hcomes
  | true =>
      rw [hdebug] at hcomes
      rcases hcomes.of_bind with ⟨_, s'', -, hthrow⟩
      exact Comes.not_throw hthrow

theorem not_refuseKind {fault : ForeignKind → Unsupported} {a : α} :
    ¬ (refuseKind target fault : Crossing α).Comes (answer (run depth)) s (.ok a) s' := by
  intro hcomes
  rcases hcomes.of_bind with ⟨_, s'', -, hthrow⟩
  exact Comes.not_throw hthrow

/-- A reference that comes through a check was answered. -/
theorem of_checkRef {operation : Operation} {given : Option Ref}
    (hcomes : (ctx.checkRef operation given).Comes (answer (run depth)) s (.ok next) s') :
    given = some next := by
  rcases hcomes.of_bind with ⟨pending, s₁, -, hrest⟩
  cases pending with
  | true =>
      rcases hrest.of_bind with ⟨diagnostic, s₂, -, hrest⟩
      rcases hrest.of_bind with ⟨_, s₃, -, hfail⟩
      exact absurd hfail (not_fail ctx)
  | false =>
      cases given with
      | none => exact absurd hrest (not_fail ctx)
      | some found => rw [hrest.of_pure.1]

/-- What comes through a check was answered. -/
theorem of_checkValue {operation : Operation} {given : Option α} {a : α}
    (hcomes : (ctx.checkValue operation given).Comes (answer (run depth)) s (.ok a) s') :
    given = some a := by
  rcases hcomes.of_bind with ⟨pending, s₁, -, hrest⟩
  cases pending with
  | true =>
      rcases hrest.of_bind with ⟨diagnostic, s₂, -, hfail⟩
      exact absurd hfail (not_fail ctx)
  | false =>
      cases given with
      | none => exact absurd hrest (not_fail ctx)
      | some found => rw [hrest.of_pure.1]

theorem of_getItem (h : Holds first base held s) (hget : first.heap.get? target = some object)
    {arguments : List Value}
    (hcomes : (ctx.getItem target arguments).Comes (answer (run depth)) s (.ok next) s') :
    (slotOf? arguments).bind object.at? = some next := by
  rcases hcomes.of_bind with ⟨key, s₁, hmade, hrest⟩
  cases hposition : positionOf arguments with
  | error fault =>
      unfold keyToForeign at hmade
      rw [hposition] at hmade
      exact absurd hmade Comes.not_throw
  | ok index =>
      rcases ctx.comes_keyToForeign depth h hposition with
        ⟨key', number, s₂, hmade', hs₂, hkey, hnumber⟩
      rcases hmade.unique hmade' with ⟨hsame, rfl⟩
      cases hsame
      rcases hrest.of_owningAll with ⟨s₃, hbody, -⟩
      rcases (hbody.of_bind_of_comes Comes.note).of_bind with ⟨given, s₄, hask, hcheck⟩
      have houtcome := hask.of_ask
      rw [outcome_answer_of_running hs₂.ready.running, ctx.of_checkRef hcheck] at houtcome
      have hitem := hs₂.of_getItem (position_within arguments index hposition).1 hget hkey hnumber
        houtcome
      unfold slotOf?
      rw [hposition]
      exact hitem

theorem of_lookup (h : Holds first base held s) (hget : first.heap.get? target = some object)
    {arguments : List Value} {fault : ForeignKind → Unsupported}
    (hcomes : (do
      if ← Crossing.ask (.supportsIndexing target) then ctx.getItem target arguments
      else refuseKind target fault : Crossing Ref).Comes (answer (run depth)) s (.ok next) s') :
    (slotOf? arguments).bind object.at? = some next := by
  have hrest := hcomes.of_bind_of_comes (comes_supportsIndexing h hget)
  cases hindexing : object.supportsIndexing with
  | false =>
      rw [hindexing] at hrest
      exact absurd hrest not_refuseKind
  | true =>
      rw [hindexing] at hrest
      exact ctx.of_getItem h hget hrest

/-- A link that calls nothing leads to where it leads in the heap, or to a method that it binds. -/
theorem of_step (hfirst : first.Sound base) (h : Holds first base held s)
    (hget : first.heap.get? target = some object) {link : Accessor}
    (hlooks : ∀ arguments, link = .call arguments → object.isCallable = false)
    (hcomes : (ctx.step target link).Comes (answer (run depth)) s (.ok next) s') :
    next? first.heap target link = some next ∨
      object.class?.isSome = true ∧ Holds first base ({next} + held) s' ∧
        ∃ method, s'.heap.get? next = some method ∧ method.isMethod = true := by
  cases link with
  | field name =>
      rcases (hcomes.of_bind_of_comes Comes.note).of_bind with ⟨given, s₁, hask, hcheck⟩
      rw [ctx.of_checkRef hcheck] at hask hcheck
      have houtcome := hask.of_ask
      rw [outcome_answer_of_running h.ready.running] at houtcome
      rcases h.of_getAttr hfirst hget houtcome with hattr | ⟨hclass, hs₁, hmethod⟩
      · left
        unfold next?
        rw [hget]
        exact hattr
      · right
        rcases hcheck.unique (comes_checkRef ctx hs₁.ready _ next) with ⟨-, rfl⟩
        exact ⟨hclass, hs₁, hmethod⟩
  | call arguments =>
      left
      have hrest := hcomes.of_bind_of_comes (comes_isCallable h hget)
      unfold next?
      rw [hget, Option.bind_eq_bind, Option.bind_some]
      dsimp only
      rw [hlooks arguments rfl] at hrest ⊢
      exact ctx.of_lookup h hget hrest
  | index arguments =>
      left
      unfold next?
      rw [hget]
      exact ctx.of_lookup h hget hcomes

/-- No link leads on from a method that is not called. -/
theorem not_step_of_isMethod (hs : s.Sound base) (hready : s.Ready)
    (hget : s.heap.get? target = some object) (hmethod : object.isMethod = true) {link : Accessor}
    (hlooks : ∀ arguments, link ≠ .call arguments) :
    ¬ (ctx.step target link).Comes (answer (run depth)) s (.ok next) s' := by
  intro hcomes
  rcases ctx.of_step hs (Holds.refl hs hready) hget
    (fun arguments hcall => absurd hcall (hlooks arguments)) hcomes with hnext | ⟨hclass, -⟩
  · rw [next?_of_isMethod hget hmethod] at hnext
    cases hnext
  · cases object with
    | boundMethod receiver function => cases hclass
    | _ => cases hmethod

/-- A walk that calls nothing comes to where the chain leads in the heap, or to a method that its last
link binds. -/
theorem of_walk (hfirst : first.Sound base) {chain : List Accessor} {last : Ref}
    (h : Holds first base {target} s) (hget : first.heap.get? target = some object)
    (hlooks : Looks first.heap target chain)
    (hcomes : (ctx.walk target chain).Comes (answer (run depth)) s (.ok last) s') :
    follow? first.heap target chain = some last ∨
      Holds first base {last} s' ∧ ∃ method, s'.heap.get? last = some method ∧
        method.isMethod = true := by
  induction chain generalizing target object s with
  | nil =>
      rw [hcomes.of_pure.1]
      exact .inl rfl
  | cons link rest ih =>
      rcases hcomes.of_bind with ⟨next, s₂, howned, hwalk⟩
      rcases howned.of_owningAll with ⟨s₁, hstep, hreleased⟩
      cases hnext : next? first.heap target link with
      | some found =>
          rcases ctx.comes_step depth hfirst h hnext with ⟨s₁', hstep', hs₁⟩
          rcases hstep.unique hstep' with ⟨hsame, rfl⟩
          cases hsame
          have hs₂ := ((hs₁.of_eq (add_comm _ _)).released hfirst hreleased).1
          rcases exists_next (closed_of_balanced hfirst.balanced) hnext with ⟨content, hcontent⟩
          unfold follow?
          rw [hnext, Option.bind_some]
          exact ih hs₂ hcontent (hlooks.2.1 next hnext) hwalk
      | none =>
          have hcallable : ∀ arguments, link = .call arguments → object.isCallable = false :=
            fun arguments hcall => hlooks.1 arguments object hcall hget
          rcases ctx.of_step hfirst h hget hcallable hstep with hnext' | ⟨-, hs₁, method, hmethod, his⟩
          · rw [hnext] at hnext'
            cases hnext'
          · rcases (hs₁.of_eq (add_comm _ _)).released hfirst hreleased with ⟨hs₂, holder⟩
            have hlasts := holder.get?_of_live hmethod
              (hs₂.sound.exists_held (Multiset.mem_add.2 (.inl (Multiset.mem_singleton_self next))))
            cases rest with
            | nil =>
                rcases hwalk.of_pure with ⟨rfl, rfl⟩
                exact .inr ⟨hs₂, method, hlasts, his⟩
            | cons link' links =>
                rcases hwalk.of_bind with ⟨next', s₃, howned', -⟩
                rcases howned'.of_owningAll with ⟨s₄, hstep', -⟩
                refine absurd hstep' (ctx.not_step_of_isMethod hs₂.sound hs₂.ready hlasts his ?_)
                intro arguments hcall
                exact hlooks.2.2 hnext arguments (congrArg some hcall)

end Context
end ForeignBridge
