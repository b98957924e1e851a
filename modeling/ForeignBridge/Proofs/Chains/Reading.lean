import ForeignBridge.Proofs.Chains.Places
import ForeignBridge.Proofs.Reading.Requests
import ForeignBridge.Proofs.Simulation.Holding

/-!
# Reading through chains

A bridge that reads through a chain of lookups comes to the object that the chain leads to in the
heap.  On the way it holds one object at a time, and it makes a number for each position, which it
gives back.  When the last object is converted, it is therefore all that is held, and the heap has
the contents that it had at first.
-/

namespace ForeignBridge
namespace Simulation

/-!
# Values by contents

The value of an object depends on the contents of the heap only.
-/

section Contents

variable {h h' : Heap Object}

theorem contentOf_congr (hsame : ∀ ref, h'.get? ref = h.get? ref) : contentOf h' = contentOf h := by
  funext ref
  unfold contentOf
  rw [hsame]

variable (hc : contentOf h' = contentOf h)

include hc

theorem className_congr (ref : Ref) : className h' ref = className h ref := by
  have htype : typeText h' ref = typeText h ref := by
    unfold typeText
    rw [hc]
  unfold className nameText
  rw [hc, htype]

theorem plainValue_congr (context : Nat) (ref : Ref) :
    plainValue h' context ref = plainValue h context ref := by
  unfold plainValue
  rw [hc, className_congr hc]

theorem elementValue_congr (context : Nat) (ref : Ref) :
    elementValue h' context ref = elementValue h context ref := by
  have hplain : plainValue h' context = plainValue h context := funext (plainValue_congr hc context)
  unfold elementValue
  rw [hc, hplain]

theorem matrix_congr (items : List Ref) :
    (rectangle? h' items).map Rectangle.matrix = (rectangle? h items).map Rectangle.matrix := by
  have hrows : rows? h' items = rows? h items := by
    unfold rows?
    rw [hc]
  unfold rectangle?
  rw [hrows]
  cases rows? h items with
  | none => rfl
  | some rows =>
      dsimp only
      by_cases fits : (∀ row ∈ rows, row.length = widthOf rows) ∧
          ∀ row ∈ rows, ∀ ref ∈ row, (contentOf h ref).kind.isNumeric = true
      · have fits' : (∀ row ∈ rows, row.length = widthOf rows) ∧
            ∀ row ∈ rows, ∀ ref ∈ row, (contentOf h' ref).kind.isNumeric = true := by
          rw [hc]
          exact fits
        rw [dif_pos fits, dif_pos fits', Option.map_some, Option.map_some]
        simp only [Rectangle.matrix, hc]
      · have fits' : ¬ ((∀ row ∈ rows, row.length = widthOf rows) ∧
            ∀ row ∈ rows, ∀ ref ∈ row, (contentOf h' ref).kind.isNumeric = true) := by
          rw [hc]
          exact fits
        rw [dif_neg fits, dif_neg fits']
        rfl

theorem hostValue_congr (context : Nat) (autoconversion : Bool) (ref : Ref) :
    hostValue h' context autoconversion ref = hostValue h context autoconversion ref := by
  have helement : elementValue h' context = elementValue h context :=
    funext (elementValue_congr hc context)
  have hsequence : ∀ items, sequenceValue h' context autoconversion items =
      sequenceValue h context autoconversion items := by
    intro items
    have hmatrix := matrix_congr hc items
    unfold sequenceValue
    rw [helement]
    cases hrectangle : rectangle? h items with
    | none =>
        rw [hrectangle, Option.map_none, Option.map_eq_none_iff] at hmatrix
        rw [hmatrix]
    | some r =>
        rw [hrectangle, Option.map_some] at hmatrix
        rcases Option.map_eq_some_iff.1 hmatrix with ⟨r', hrectangle', hsame⟩
        rw [hrectangle']
        dsimp only
        rw [hsame]
  unfold hostValue
  rw [hc, plainValue_congr hc]
  cases (contentOf h ref).items? with
  | none => rfl
  | some items => exact hsequence items

end Contents

/-!
# Steps
-/

theorem closed_of_balanced {h : Heap Object} {held : Multiset Ref} (hb : h.Balanced held) :
    Closed h := fun _ _ hget _ hchild => exists_child hb hget hchild

theorem resolveIndex_of_nonneg {index : Int} {count : Nat} (hindex : 0 ≤ index)
    (hlt : index.toNat < count) : resolveIndex index count = some index.toNat := by
  unfold resolveIndex
  rw [if_neg (Int.not_lt.2 hindex), if_pos ⟨hindex, by omega⟩]

variable {first s : Simulation} {base held : Multiset Ref} {depth : Nat} {target next : Ref}
  {object : Object}

theorem Holds.displayType (h : Holds first base held s) {ref : Ref}
    (hget : s.heap.get? ref = some object) :
    ∃ name, (Simulation.displayType ref).outcome s = (.ok name, s) := by
  have hnamed : ∃ name, (Simulation.displayType ref).outcome (s.withHeap s.heap) =
      (.ok name, s.withHeap s.heap) := exists_displayType h.sound.balanced hget
  exact hnamed

theorem outcome_look {α : Type} {ref : Ref} (hget : s.heap.get? ref = some object)
    (f : Object → Attempt Simulation α) :
    (Simulation.access ref >>= f).outcome s = (f object).outcome s := by
  have hlooked : (Simulation.access ref >>= f).outcome (s.withHeap s.heap) =
      (f object).outcome (s.withHeap s.heap) := outcome_access_bind hget f
  exact hlooked

/-- An attribute that is no function of the class is lent. -/
theorem Holds.getAttr (hfirst : first.Sound base) (h : Holds first base held s) {name : String}
    (hget : first.heap.get? target = some object)
    (hattr : attribute? first.heap object name = some next) :
    ∃ s', (Simulation.getAttr target name).outcome s = (.ok (some next), s') ∧
      Holds first base ({next} + held) s' := by
  have hclosed := closed_of_balanced hfirst.balanced
  unfold Simulation.getAttr
  rw [outcome_look (h.get? hget)]
  unfold attribute? at hattr
  cases hown : object.attrs?.bind (·.find? name) with
  | some own =>
      rw [show object.at? (.field name) = some own from hown] at hattr
      cases hattr
      rcases hclosed target object hget next (mem_children_of_find? hown) with ⟨found, hfound⟩
      exact h.lend (h.get? hfound)
  | none =>
      rw [show object.at? (.field name) = none from hown] at hattr
      rcases Option.bind_eq_some_iff.1 hattr with ⟨cls, hcls, hrest⟩
      rcases Option.bind_eq_some_iff.1 hrest with ⟨owner, howner, hrest⟩
      rcases Option.bind_eq_some_iff.1 hrest with ⟨found, hfound, hrest⟩
      rcases Option.bind_eq_some_iff.1 hrest with ⟨value, hvalue, hrest⟩
      rcases Option.ite_none_left_eq_some.1 hrest with ⟨hplain, hsame⟩
      cases hsame
      have hinherited : (classAttr object name).outcome s = (.ok (some next), s) := by
        unfold classAttr
        rw [hcls]
        show (Simulation.access cls >>= fun o => pure (o.attrs?.bind (·.find? name))).outcome s = _
        rw [outcome_look (h.get? howner), show owner.attrs?.bind (·.find? name) = some next from hfound]
        rfl
      dsimp only
      rw [Attempt.outcome_bind, hinherited]
      dsimp only
      rw [outcome_look (h.get? hvalue)]
      cases value with
      | function _ _ => exact absurd rfl hplain
      | _ => exact h.lend (h.get? hvalue)

/-- An item at a position is lent. -/
theorem Holds.getItem (hfirst : first.Sound base) (h : Holds first base held s) {key : Ref}
    {number : Object} {index : Int} (hindex : 0 ≤ index)
    (hget : first.heap.get? target = some object) (hkey : s.heap.get? key = some number)
    (hnumber : number.int? = some index) (hitem : object.at? (.slot index.toNat) = some next) :
    ∃ s', (Simulation.getItem target key).outcome s = (.ok (some next), s') ∧
      Holds first base ({next} + held) s' := by
  rcases closed_of_balanced hfirst.balanced target object hget next
    (Object.mem_children_of_at? hitem) with ⟨found, hfound⟩
  rcases h.displayType (h.get? hget) with ⟨type, htype⟩
  have hresolve : ∀ items, object.items? = some items →
      (resolveIndex index items.length).bind (items[·]?) = some next := by
    intro items hitems
    have hat : items[index.toNat]? = some next := by
      unfold Object.at? at hitem
      rw [hitems] at hitem
      exact hitem
    rw [resolveIndex_of_nonneg hindex (List.getElem?_eq_some_iff.1 hat).1, Option.bind_some]
    exact hat
  unfold Simulation.getItem
  rw [Attempt.outcome_bind, htype]
  dsimp only
  rw [outcome_look hkey, outcome_look (h.get? hget)]
  cases object with
  | tuple items | list items =>
      dsimp only
      rw [hnumber]
      dsimp only
      rw [hresolve items rfl]
      exact h.lend (h.get? hfound)
  | _ => cases hitem

theorem Undone.get? (h : Undone first s) (ref : Ref) : s.heap.get? ref = first.heap.get? ref := by
  unfold Heap.get?
  rw [h.objects]

/-- Where all objects are as they were, they can be read as before. -/
theorem Undone.readable (h : Undone first s) (hreadable : first.Readable) (hready : s.Ready) :
    s.Readable := by
  have hcontents := contentOf_congr h.get?
  refine ⟨hready, fun ref child hchild => ?_, fun ref => ?_⟩
  · rw [hcontents] at hchild
    unfold Heap.isLive
    rw [h.objects]
    exact hreadable.closed ref child hchild
  · rw [hcontents]
    exact hreadable.tagged ref

theorem Holds.undone (hfirst : first.Sound base) (h : Holds first base 0 s) : Undone first s := by
  have hs := h.sound
  rw [zero_add] at hs
  exact h.intact.undone hfirst hs h.ready.quiet

/-- If one reference is held to an object that was there at first, it is lent by a runtime in which
nothing is held. -/
theorem Holds.exists_lending (hfirst : first.Sound base) (h : Holds first base {target} s)
    (hget : first.heap.get? target = some object) :
    ∃ start : Simulation, s = start.lending {target} ∧ Holds first base 0 start := by
  have hs := h.of_eq (add_zero {target}).symm
  have hsound := hs.sound
  rw [add_assoc] at hsound
  rcases hs.release hfirst with ⟨start, houtcome, hstart⟩
  rw [outcome_release hsound] at houtcome
  cases houtcome
  refine ⟨_, ?_, hstart⟩
  rcases Option.map_eq_some_iff.1 (h.get? hget) with ⟨slot, hslot, -⟩
  have hshared : slot.owners ≠ 1 := by
    intro hlast
    have hbalanced := hsound.balanced
    have hroots : s.roots + ({target} + (0 + base)) = {target} + (0 + (first.roots + base)) := by
      unfold roots
      rw [h.intact.modules]
      abel
    rw [hroots] at hbalanced
    exact absurd (Heap.id_lt_size hget)
      (Nat.not_lt.2 (h.intact.goesOn.le_of_last hfirst.balanced hbalanced hslot hlast))
  have hheap := Heap.lent_release hslot hshared
  unfold lending withHeap
  dsimp only
  rw [hheap]

end Simulation

namespace Context

open Simulation Crossing

variable (ctx : Context) {first s : Simulation} {base held : Multiset Ref} {depth : Nat}
  {target next : Ref} {object : Simulation.Object}

theorem comes_getAttr (hfirst : first.Sound base) (h : Holds first base held s) {name : String}
    (hget : first.heap.get? target = some object)
    (hattr : attribute? first.heap object name = some next) :
    ∃ s', (ctx.getAttr target name).Comes (answer (run depth)) s (.ok next) s' ∧
      Holds first base ({next} + held) s' := by
  rcases h.getAttr hfirst hget hattr with ⟨s', houtcome, hs'⟩
  refine ⟨s', ?_, hs'⟩
  exact Comes.bind Comes.note
    (Comes.bind (comes_served h.ready houtcome) (comes_checkRef ctx hs'.ready _ next))

/-- The number of a position is made. -/
theorem comes_keyToForeign (depth : Nat) (h : Holds first base held s) {arguments : List Value} {index : Int}
    (hposition : positionOf arguments = .ok index) :
    ∃ key number s', (ctx.keyToForeign arguments).Comes (answer (run depth)) s (.ok key) s' ∧
      Holds first base ({key} + held) s' ∧ s'.heap.get? key = some number ∧
      number.int? = some index := by
  rcases position_within arguments index hposition with ⟨-, key, hkey, hvalue⟩
  have hnumber : Simulation.Object.Honest (.ofScalar (.int key)) := trivial
  rcases (h.of_eq (zero_add held).symm).allocate hnumber with ⟨ref, s', houtcome, hs', hget⟩
  have hserve : (Simulation.serve (run depth) (.newScalar (.int key))).outcome s = (.ok (some ref), s') := by
    show (Simulation.allocate _ >>= fun ref => pure (some ref)).outcome s = _
    rw [Attempt.outcome_bind, houtcome]
    rfl
  refine ⟨ref, _, s', ?_, hs', hget, congrArg some hvalue⟩
  unfold keyToForeign
  rw [hposition]
  dsimp only
  rw [hkey]
  exact Comes.bind Comes.note
    (Comes.bind (comes_served h.ready hserve) (comes_checkRef ctx hs'.ready _ ref))

theorem comes_getItem (depth : Nat) (hfirst : first.Sound base) (h : Holds first base held s)
    {arguments : List Value} (hget : first.heap.get? target = some object)
    (hitem : (slotOf? arguments).bind object.at? = some next) :
    ∃ s', (ctx.getItem target arguments).Comes (answer (run depth)) s (.ok next) s' ∧
      Holds first base ({next} + held) s' := by
  rcases Option.bind_eq_some_iff.1 hitem with ⟨place, hplace, hat⟩
  rcases exists_of_slotOf? hplace with ⟨index, hposition, rfl⟩
  rcases ctx.comes_keyToForeign depth h hposition with
    ⟨key, number, s₁, hmade, hs₁, hkey, hnumber⟩
  rcases hs₁.getItem hfirst (position_within arguments index hposition).1 hget hkey hnumber hat with
    ⟨s₂, houtcome, hs₂⟩
  have hlent : (do
      Crossing.note (.gettingItem target)
      ctx.checkRef .index (← Crossing.ask (.getItem target key)) : Crossing Ref).Comes
        (answer (run depth)) s₁ (.ok next) s₂ :=
    Comes.bind Comes.note
      (Comes.bind (comes_served hs₁.ready houtcome) (comes_checkRef ctx hs₂.ready _ next))
  rcases comes_owning hfirst hlent (hs₂.of_eq (add_left_comm _ _ _)) with ⟨s₃, howned, hs₃⟩
  exact ⟨s₃, Comes.bind hmade howned, hs₃⟩

theorem comes_isCallable (h : Holds first base held s)
    (hget : first.heap.get? target = some object) :
    (Crossing.ask (.isCallable target)).Comes (answer (run depth)) s (.ok object.isCallable) s :=
  comes_served h.ready (outcome_look (h.get? hget) fun o => pure o.isCallable)

theorem comes_supportsIndexing (h : Holds first base held s)
    (hget : first.heap.get? target = some object) :
    (Crossing.ask (.supportsIndexing target)).Comes (answer (run depth)) s
      (.ok object.supportsIndexing) s :=
  comes_served h.ready (outcome_look (h.get? hget) fun o => pure o.supportsIndexing)

theorem supportsIndexing_of_item {arguments : List Value}
    (hitem : (slotOf? arguments).bind object.at? = some next) : object.supportsIndexing = true := by
  rcases Option.bind_eq_some_iff.1 hitem with ⟨place, hplace, hat⟩
  rcases exists_of_slotOf? hplace with ⟨index, -, rfl⟩
  cases object with
  | tuple _ | list _ => rfl
  | _ => cases hat

/-- A link leads to the object that it leads to in the heap. -/
theorem comes_step (depth : Nat) (hfirst : first.Sound base) (h : Holds first base held s) {link : Accessor}
    (hnext : next? first.heap target link = some next) :
    ∃ s', (ctx.step target link).Comes (answer (run depth)) s (.ok next) s' ∧
      Holds first base ({next} + held) s' := by
  rcases Option.bind_eq_some_iff.1 hnext with ⟨object, hget, hlink⟩
  cases link with
  | field name => exact ctx.comes_getAttr hfirst h hget hlink
  | call arguments =>
      rcases Option.ite_none_left_eq_some.1 hlink with ⟨hcallable, hitem⟩
      rcases ctx.comes_getItem depth hfirst h hget hitem with ⟨s', hcomes, hs'⟩
      refine ⟨s', Comes.bind (comes_isCallable h hget) ?_, hs'⟩
      rw [if_neg hcallable]
      apply Comes.bind (comes_supportsIndexing h hget)
      rw [supportsIndexing_of_item hitem]
      exact hcomes
  | index arguments =>
      rcases ctx.comes_getItem depth hfirst h hget hlink with ⟨s', hcomes, hs'⟩
      refine ⟨s', Comes.bind (comes_supportsIndexing h hget) ?_, hs'⟩
      rw [supportsIndexing_of_item hlink]
      exact hcomes

/-- A walk along a chain of lookups holds only the object that it came to. -/
theorem comes_walk (depth : Nat) (hfirst : first.Sound base) {chain : List Accessor} {last : Ref}
    (h : Holds first base {target} s) (hfollow : follow? first.heap target chain = some last) :
    ∃ s', (ctx.walk target chain).Comes (answer (run depth)) s (.ok last) s' ∧
      Holds first base {last} s' := by
  induction chain generalizing target s with
  | nil =>
      cases hfollow
      exact ⟨s, Comes.pure, h⟩
  | cons link rest ih =>
      rcases Option.bind_eq_some_iff.1 hfollow with ⟨next, hnext, hrest⟩
      rcases ctx.comes_step depth hfirst h hnext with ⟨s₁, hstep, hs₁⟩
      rcases comes_owning hfirst hstep (hs₁.of_eq (add_comm _ _)) with ⟨s₂, howned, hs₂⟩
      rcases ih hs₂ hrest with ⟨s₃, hwalk, hs₃⟩
      exact ⟨s₃, Comes.bind howned hwalk, hs₃⟩

/-!
# Reading
-/

theorem comes_requireOwn {root : Handle} (hown : root.context = ctx.id) :
    (ctx.requireOwn root).Comes (answer (run depth)) s (.ok ()) s := by
  unfold requireOwn
  rw [if_pos hown]
  exact Comes.pure

/-- A read through a chain of lookups comes to the value of the object that the chain leads to. -/
theorem comes_read (depth : Nat) (hs : s.Sound base) (hreadable : s.Readable) {root : Handle}
    (hown : root.context = ctx.id) {chain : List Accessor} (hchain : chain ≠ []) {ref : Ref}
    (hfollow : follow? s.heap root.ref chain = some ref) :
    ∃ s', (ctx.serve (.read root chain)).Comes (answer (run depth)) s
      ((hostValue s.heap ctx.id ctx.settings.matrixAutoconversion ref).map Reply.value) s' := by
  rcases exists_root hchain hfollow with ⟨first, hfirst⟩
  rcases exists_last (closed_of_balanced hs.balanced) hfollow hfirst with ⟨object, hget⟩
  rcases comes_retain depth (Holds.refl hs hreadable.ready) hfirst with
    ⟨s₁, hretain, hs₁⟩
  rcases ctx.comes_walk depth hs (hs₁.of_eq (add_zero _)) hfollow with ⟨s₂, hwalk, hs₂⟩
  rcases hs₂.exists_lending hs hget with ⟨s₃, hlending, hs₃⟩
  -- What is held at the end of the walk is lent by a runtime with the contents of the first one.
  have hundone := hs₃.undone hs
  have hcontents := contentOf_congr hundone.get?
  have hlive : s₃.heap.isLive ref = true := Heap.isLive_of_get? ((hundone.get? ref).trans hget)
  have hvalue : s₃.Lends depth (ctx.toHost ref) {ref} _ _ :=
    Simulation.lends_toHost (hundone.readable hreadable hs₃.ready) ctx hlive
  rw [hostValue_congr hcontents] at hvalue
  have hread : (ctx.readChain root chain).Comes (answer (run depth)) s
      (hostValue s.heap ctx.id ctx.settings.matrixAutoconversion ref)
      (s₃.lending (lentBy Value.refs 0
        (hostValue s.heap ctx.id ctx.settings.matrixAutoconversion ref))) := by
    unfold readChain
    apply Comes.bind (Comes.bind hretain Comes.pure)
    cases chain with
    | nil => exact absurd rfl hchain
    | cons link rest =>
        apply Comes.bind hwalk
        rw [hlending]
        exact hvalue
  exact ⟨_, Comes.bind (ctx.comes_requireOwn hown) hread.map⟩

end Context
end ForeignBridge
