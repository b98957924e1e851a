import ForeignBridge.Crossing.Chain
import ForeignBridge.Proofs.Heap.Undoing
import ForeignBridge.Proofs.Simulation.Conservation
import ForeignBridge.Proofs.Simulation.Requests

/-!
# Places

A link of a chain names a place: an attribute, or a position among items.  A chain of lookups leads
from one object of a heap to another, through attributes of objects and of their classes and through
items of sequences.  It leads nowhere if anything on the way is called, or is a function of a class,
which is bound to an object that is not in the heap yet.

A heap is rewritten in one place if of all its objects that live on only one has other contents, and
only in that place.  A chain that does not read the place leads to the same object as before, and
everything on the way lives on if the object does that it begins with.
-/

namespace ForeignBridge

namespace Context

theorem wordOf_lt {scalar : Scalar} {n : Int} (h : wordOf scalar = some n) : n < 2 ^ 63 := by
  cases scalar with
  | bool b => cases h
  | int i =>
      unfold wordOf at h
      dsimp only at h
      split at h
      · rename_i hholds
        cases h
        exact Int.lt_of_le_of_lt hholds.2.2 (by decide)
      · cases h
  | real x =>
      unfold wordOf at h
      dsimp only at h
      split at h
      · split at h
        · cases h
          omega
        · cases h
      · cases h

theorem position_within (arguments : List Value) (position : Int)
    (h : positionOf arguments = .ok position) :
    0 ≤ position ∧ ∃ key, HostInt.ofInt .int64 position = .ok key ∧ key.value = position := by
  unfold positionOf at h
  split at h
  · rename_i argument
    cases hword : argument.scalar?.bind wordOf with
    | none =>
        rw [hword] at h
        cases h
    | some n =>
        rw [hword] at h
        dsimp only at h
        split at h
        · rename_i hpositive
          cases h
          rcases Option.bind_eq_some_iff.1 hword with ⟨scalar, -, hscalar⟩
          have hless := wordOf_lt hscalar
          have hholds : NumericKind.int64.Holds (n - 1) := by
            refine ⟨rfl, ?_, ?_⟩
            · exact Int.le_trans (by decide) (Int.sub_nonneg_of_le hpositive)
            · show n - 1 ≤ 2 ^ 63 - 1
              omega
          refine ⟨Int.sub_nonneg_of_le hpositive, ⟨.int64, n - 1, hholds⟩, ?_, rfl⟩
          unfold HostInt.ofInt
          rw [if_pos hholds.1, dif_pos hholds]
        · cases h
  · cases h

end Context

/-- A place for a reference in an object. -/
inductive Place where
  /-- An attribute. -/
  | field (name : String)
  /-- A position among items, counted from zero. -/
  | slot (position : Nat)
  deriving DecidableEq

/-- The place that the arguments of a lookup name, if they are a position. -/
def slotOf? (arguments : List Value) : Option Place :=
  match Context.positionOf arguments with
  | .ok position => some (.slot position.toNat)
  | .error _ => none

theorem exists_of_slotOf? {arguments : List Value} {place : Place}
    (h : slotOf? arguments = some place) :
    ∃ position, Context.positionOf arguments = .ok position ∧ place = .slot position.toNat := by
  unfold slotOf? at h
  cases hposition : Context.positionOf arguments with
  | ok position =>
      rw [hposition] at h
      cases h
      exact ⟨position, rfl, rfl⟩
  | error fault =>
      rw [hposition] at h
      cases h

/-- The place that a link names. -/
def Accessor.place? : Accessor → Option Place
  | .field name => some (.field name)
  | .call arguments | .index arguments => slotOf? arguments

namespace Simulation

namespace Object

/-- The reference in a place. -/
def at? (object : Object) : Place → Option Ref
  | .field name => object.attrs?.bind (·.find? name)
  | .slot position => object.items?.bind (·[position]?)

/-- Whether something can be written into a place of an object: into any attribute if it has
attributes, and into the positions of a list. -/
def Takes (object : Object) : Place → Prop
  | .field _ => object.attrs?.isSome = true
  | .slot position => ∃ items, object = .list items ∧ position < items.length

/-- The object with a reference in a place. -/
def put (ref : Ref) (object : Object) : Place → Object
  | .field name => object.withAttrs ((object.attrs?.getD .empty).insert name ref)
  | .slot position =>
    match object with
    | .list items => .list (items.set position ref)
    | other => other

def isFunction : Object → Bool
  | function _ _ => true
  | _ => false

theorem mem_children_of_at? {object : Object} {place : Place} {ref : Ref}
    (h : object.at? place = some ref) : ref ∈ object.children := by
  cases place with
  | field name => exact mem_children_of_find? h
  | slot position =>
      rcases Option.bind_eq_some_iff.1 h with ⟨items, hitems, hposition⟩
      rw [children_of_items hitems]
      exact List.mem_of_getElem? hposition

theorem attrs?_withAttrs {object : Object} (h : object.attrs?.isSome = true) (attrs : Table Ref) :
    (object.withAttrs attrs).attrs? = some attrs := by
  cases object with
  | bag _ | moduleOf _ _ | classOf _ _ | instanceOf _ _ => rfl
  | _ => cases h

theorem items?_withAttrs (object : Object) (attrs : Table Ref) :
    (object.withAttrs attrs).items? = object.items? := by
  cases object with
  | _ => rfl

/-- What was written into a place is there. -/
theorem at?_put_self {object : Object} {place : Place} (h : object.Takes place) (ref : Ref) :
    (object.put ref place).at? place = some ref := by
  cases place with
  | field name =>
      show ((object.withAttrs _).attrs?.bind (·.find? name)) = _
      rw [attrs?_withAttrs h, Option.bind_some, Table.find?_insert, if_pos rfl]
  | slot position =>
      rcases h with ⟨items, rfl, hposition⟩
      show (items.set position ref)[position]? = _
      rw [List.getElem?_set_self hposition]

/-- All other places are as they were. -/
theorem at?_put_of_ne {object : Object} {place other : Place} (hne : other ≠ place) (ref : Ref) :
    (object.put ref place).at? other = object.at? other := by
  cases place with
  | field name =>
      cases other with
      | slot position =>
          show (object.withAttrs _).items?.bind _ = _
          rw [items?_withAttrs]
          rfl
      | field other =>
          have hname : other ≠ name := fun heq => hne (congrArg Place.field heq)
          show (object.withAttrs _).attrs?.bind _ = object.attrs?.bind _
          cases hattrs : object.attrs? with
          | none =>
              cases object with
              | bag _ | moduleOf _ _ | classOf _ _ | instanceOf _ _ => cases hattrs
              | _ => rfl
          | some attrs =>
              rw [attrs?_withAttrs (by rw [hattrs]; rfl), Option.bind_some, Option.bind_some,
                Option.getD_some, Table.find?_insert, if_neg hname]
  | slot position =>
      cases object with
      | list items =>
          cases other with
          | field name => rfl
          | slot other =>
              have hposition : position ≠ other := fun heq => hne (congrArg Place.slot heq.symm)
              exact List.getElem?_set_ne hposition
      | _ => rfl

section Put

variable (object : Object) (place : Place) (ref : Ref)

theorem class?_put : (object.put ref place).class? = object.class? := by
  cases place with
  | _ =>
    cases object with
    | _ => rfl

theorem isCallable_put : (object.put ref place).isCallable = object.isCallable := by
  cases place with
  | _ =>
    cases object with
    | _ => rfl

theorem isFunction_put : (object.put ref place).isFunction = object.isFunction := by
  cases place with
  | _ =>
    cases object with
    | _ => rfl

end Put

end Object

/-!
# Chains of lookups
-/

/-- An attribute that an object has from its class.  A function is no such attribute. -/
def inherited? (h : Heap Object) (object : Object) (name : String) : Option Ref := do
  let cls ← object.class?
  let found ← (← h.get? cls).at? (.field name)
  let value ← h.get? found
  if value.isFunction then none else some found

/-- An attribute of an object itself, or else of its class. -/
def attribute? (h : Heap Object) (object : Object) (name : String) : Option Ref :=
  (object.at? (.field name)).or (inherited? h object name)

/-- The object that a link leads to. -/
def next? (h : Heap Object) (ref : Ref) (link : Accessor) : Option Ref := do
  let object ← h.get? ref
  match link with
  | .field name => attribute? h object name
  | .call arguments =>
    if object.isCallable then none else (slotOf? arguments).bind object.at?
  | .index arguments => (slotOf? arguments).bind object.at?

/-- The object that a chain leads to. -/
def follow? (h : Heap Object) : Ref → List Accessor → Option Ref
  | ref, [] => some ref
  | ref, link :: links => (next? h ref link).bind fun next => follow? h next links

/-- The class of the object behind a reference. -/
def classAt? (h : Heap Object) (ref : Ref) : Option Ref := (h.get? ref).bind Object.class?

/-- A link reads a place of an object, either there or, if it is an attribute, in an instance of it. -/
def Touches (h : Heap Object) (target : Ref) (place : Place) (ref : Ref) (link : Accessor) : Prop :=
  link.place? = some place ∧
    (ref = target ∨ (∃ name, place = .field name) ∧ classAt? h ref = some target)

/-- No link of a chain reads a place of an object. -/
def Spares (h : Heap Object) (target : Ref) (place : Place) : Ref → List Accessor → Prop
  | _, [] => True
  | ref, link :: links =>
    ¬ Touches h target place ref link ∧
      ∀ next, next? h ref link = some next → Spares h target place next links

theorem follow?_append (h : Heap Object) (ref : Ref) (chain links : List Accessor) :
    follow? h ref (chain ++ links) = (follow? h ref chain).bind fun next => follow? h next links := by
  induction chain generalizing ref with
  | nil => rfl
  | cons link rest ih =>
      show (next? h ref link).bind _ = ((next? h ref link).bind _).bind _
      rw [Option.bind_assoc]
      exact congrArg _ (funext ih)

/-- References inside objects are to objects. -/
def Closed (h : Heap Object) : Prop :=
  ∀ ref object, h.get? ref = some object → ∀ child ∈ object.children, ∃ found, h.get? child = some found

variable {h : Heap Object} {ref : Ref}

/-- An attribute from the class is there. -/
theorem exists_inherited {object : Object} {name : String} {next : Ref}
    (hnext : inherited? h object name = some next) : ∃ found, h.get? next = some found := by
  rcases Option.bind_eq_some_iff.1 hnext with ⟨cls, -, hrest⟩
  rcases Option.bind_eq_some_iff.1 hrest with ⟨owner, -, hrest⟩
  rcases Option.bind_eq_some_iff.1 hrest with ⟨attr, -, hrest⟩
  rcases Option.bind_eq_some_iff.1 hrest with ⟨value, hvalue, hrest⟩
  rcases Option.ite_none_left_eq_some.1 hrest with ⟨-, hsame⟩
  cases hsame
  exact ⟨value, hvalue⟩

/-- A link leads to an object. -/
theorem exists_next (hclosed : Closed h) {link : Accessor} {next : Ref}
    (hnext : next? h ref link = some next) : ∃ found, h.get? next = some found := by
  rcases Option.bind_eq_some_iff.1 hnext with ⟨object, hget, hlink⟩
  have hitem : ∀ arguments, (slotOf? arguments).bind object.at? = some next →
      ∃ found, h.get? next = some found := by
    intro arguments hitem
    rcases Option.bind_eq_some_iff.1 hitem with ⟨place, -, hat⟩
    exact hclosed ref object hget next (Object.mem_children_of_at? hat)
  cases link with
  | field name =>
      rcases Option.or_eq_some_iff.1 hlink with hown | ⟨-, hinherited⟩
      · exact hclosed ref object hget next (Object.mem_children_of_at? hown)
      · exact exists_inherited hinherited
  | call arguments => exact hitem arguments (Option.ite_none_left_eq_some.1 hlink).2
  | index arguments => exact hitem arguments hlink

/-- A chain leads to an object if it begins with one. -/
theorem exists_last (hclosed : Closed h) {chain : List Accessor} {last : Ref}
    (hfollow : follow? h ref chain = some last) {object : Object} (hget : h.get? ref = some object) :
    ∃ found, h.get? last = some found := by
  induction chain generalizing ref object with
  | nil =>
      cases hfollow
      exact ⟨object, hget⟩
  | cons link rest ih =>
      rcases Option.bind_eq_some_iff.1 hfollow with ⟨next, hnext, hrest⟩
      rcases exists_next hclosed hnext with ⟨found, hfound⟩
      exact ih hrest hfound

/-- A chain that is not empty leads from an object. -/
theorem exists_root {chain : List Accessor} (hchain : chain ≠ []) {last : Ref}
    (hfollow : follow? h ref chain = some last) : ∃ object, h.get? ref = some object := by
  cases chain with
  | nil => exact absurd rfl hchain
  | cons link rest =>
      rcases Option.bind_eq_some_iff.1 hfollow with ⟨next, hnext, -⟩
      rcases Option.bind_eq_some_iff.1 hnext with ⟨object, hget, -⟩
      exact ⟨object, hget⟩

/-!
# Writing
-/

/-- Of the objects that live on, one has another reference in a place, and the others are the same. -/
structure Rewritten (h : Heap Object) (target : Ref) (place : Place) (value : Ref)
    (h' : Heap Object) : Prop where
  grows : h.slots.size ≤ h'.slots.size
  written : ∃ object, h.get? target = some object ∧ object.Takes place ∧
    ∀ found, h'.get? target = some found → found = object.put value place
  others : ∀ ref object found, ref ≠ target → h.get? ref = some object → h'.get? ref = some found →
    found = object

namespace Rewritten

variable {h' : Heap Object} {target value : Ref} {place : Place}

/-- New content, in a heap that has the contents of another one. -/
theorem setContent {object : Object} (hget : h.get? target = some object)
    (htakes : object.Takes place) (hsize : h.slots.size = h'.slots.size)
    (hsame : ∀ ref, h'.get? ref = h.get? ref) :
    Rewritten h target place value (h'.setContent target (object.put value place)) := by
  have hcontents := Heap.get?_setContent ((hsame target).trans hget) (object.put value place)
  constructor
  · rw [Heap.size_setContent, hsize]
  · refine ⟨object, hget, htakes, fun found hfound => ?_⟩
    rw [hcontents, if_pos rfl] at hfound
    cases hfound
    rfl
  · intro ref old found hne hold hfound
    rw [hcontents, if_neg hne, hsame, hold] at hfound
    cases hfound
    rfl

/-- Where nothing more is written, nothing more is rewritten. -/
theorem older (hw : Rewritten h target place value h') {h'' : Heap Object} (hold : h'.Older h'') :
    Rewritten h target place value h'' := by
  have hearlier : ∀ {ref object found}, h.get? ref = some object → h''.get? ref = some found →
      h'.get? ref = some found := fun hget hfound =>
    hold.lasts _ _ (Nat.lt_of_lt_of_le (Heap.id_lt_size hget) hw.grows) hfound
  constructor
  · exact Nat.le_trans hw.grows hold.grows
  · rcases hw.written with ⟨object, hget, htakes, hnew⟩
    exact ⟨object, hget, htakes, fun found hfound => hnew found (hearlier hget hfound)⟩
  · exact fun ref object found hne hget hfound =>
      hw.others ref object found hne hget (hearlier hget hfound)

/-- What is rewritten of a later heap is rewritten of an earlier one with the same objects. -/
theorem of_goesOn (hw : Rewritten h target place value h') {first : Heap Object}
    (hon : first.GoesOn h) {object : Object} (hget : first.get? target = some object) :
    Rewritten first target place value h' := by
  have hlater : ∀ {ref object}, first.get? ref = some object → h.get? ref = some object := by
    intro ref object hget
    rw [hon.same ref (Heap.id_lt_size hget)]
    exact hget
  constructor
  · exact Nat.le_trans hon.grows hw.grows
  · rcases hw.written with ⟨old, hold, htakes, hnew⟩
    rw [hlater hget] at hold
    cases hold
    exact ⟨object, hget, htakes, hnew⟩
  · exact fun ref object found hne hget hfound =>
      hw.others ref object found hne (hlater hget) hfound

/-- An object before and after. -/
theorem cases (hw : Rewritten h target place value h') {object found : Object}
    (hget : h.get? ref = some object) (hfound : h'.get? ref = some found) :
    (ref = target ∧ found = object.put value place) ∨ (ref ≠ target ∧ found = object) := by
  by_cases href : ref = target
  · rcases hw.written with ⟨old, hold, -, hnew⟩
    rw [href] at hget hfound
    rw [hget] at hold
    cases hold
    exact .inl ⟨href, hnew found hfound⟩
  · exact .inr ⟨href, hw.others ref object found href hget hfound⟩

/-- What is read in another place is what was there. -/
theorem at? (hw : Rewritten h target place value h') {object found : Object} {other : Place}
    (hget : h.get? ref = some object) (hfound : h'.get? ref = some found)
    (hspared : ref = target → other ≠ place) : found.at? other = object.at? other := by
  rcases hw.cases hget hfound with ⟨href, rfl⟩ | ⟨-, rfl⟩
  · exact Object.at?_put_of_ne (hspared href) value
  · rfl

section Kinds

variable (hw : Rewritten h target place value h') {object found : Object}
  (hget : h.get? ref = some object) (hfound : h'.get? ref = some found)

include hw hget hfound

theorem class? : found.class? = object.class? := by
  rcases hw.cases hget hfound with ⟨-, rfl⟩ | ⟨-, rfl⟩
  · exact object.class?_put place value
  · rfl

theorem isCallable : found.isCallable = object.isCallable := by
  rcases hw.cases hget hfound with ⟨-, rfl⟩ | ⟨-, rfl⟩
  · exact object.isCallable_put place value
  · rfl

theorem isFunction : found.isFunction = object.isFunction := by
  rcases hw.cases hget hfound with ⟨-, rfl⟩ | ⟨-, rfl⟩
  · exact object.isFunction_put place value
  · rfl

end Kinds

/-- An attribute of a class is what it was, unless it was written. -/
theorem inherited? (hw : Rewritten h target place value h') (hclosed : Closed h')
    {object found : Object} {name : String} {next : Ref} (hget : h.get? ref = some object)
    (hfound : h'.get? ref = some found)
    (hspared : object.class? = some target → Place.field name ≠ place)
    (hnext : Simulation.inherited? h object name = some next) :
    Simulation.inherited? h' found name = some next ∧ ∃ value, h'.get? next = some value := by
  unfold Simulation.inherited? at hnext
  rcases Option.bind_eq_some_iff.1 hnext with ⟨cls, hcls, hrest⟩
  rcases Option.bind_eq_some_iff.1 hrest with ⟨class', hclass, hrest⟩
  rcases Option.bind_eq_some_iff.1 hrest with ⟨found', hattr, hrest⟩
  rcases Option.bind_eq_some_iff.1 hrest with ⟨old, hold, hrest⟩
  rcases Option.ite_none_left_eq_some.1 hrest with ⟨hplain, hsame⟩
  cases hsame
  have hcls' : found.class? = some cls := (hw.class? hget hfound).trans hcls
  rcases hclosed ref found hfound cls (class_mem_children hcls') with ⟨later, hlater⟩
  have hattr' : later.at? (.field name) = some next := by
    rw [hw.at? hclass hlater fun heq => hspared (by rw [hcls, heq])]
    exact hattr
  rcases hclosed cls later hlater next (Object.mem_children_of_at? hattr') with ⟨new, hnew⟩
  refine ⟨?_, new, hnew⟩
  unfold Simulation.inherited?
  simp only [Option.bind_eq_bind]
  rw [hcls', Option.bind_some, hlater, Option.bind_some, hattr', Option.bind_some, hnew,
    Option.bind_some, hw.isFunction hold hnew, if_neg hplain]

/-- A link that does not read the place leads to the same object, which lives on. -/
theorem next? (hw : Rewritten h target place value h') (hclosed : Closed h') {link : Accessor}
    {next : Ref} {found : Object} (hfound : h'.get? ref = some found)
    (hspared : ¬ Touches h target place ref link) (hnext : Simulation.next? h ref link = some next) :
    Simulation.next? h' ref link = some next ∧ ∃ value, h'.get? next = some value := by
  rcases Option.bind_eq_some_iff.1 hnext with ⟨object, hget, hlink⟩
  have hplace : ∀ other, link.place? = some other → found.at? other = object.at? other := by
    intro other hother
    apply hw.at? hget hfound
    intro href hsame
    exact hspared ⟨hother.trans (congrArg some hsame), .inl href⟩
  have hitem : link.place?.bind object.at? = some next →
      link.place?.bind found.at? = some next ∧ ∃ value, h'.get? next = some value := by
    intro hitem
    rcases Option.bind_eq_some_iff.1 hitem with ⟨other, hother, hat⟩
    rw [← hplace other hother] at hat
    refine ⟨?_, hclosed ref found hfound next (Object.mem_children_of_at? hat)⟩
    rw [hother, Option.bind_some, hat]
  unfold Simulation.next?
  rw [hfound, Option.bind_eq_bind, Option.bind_some]
  cases link with
  | field name =>
      have hown := hplace (.field name) rfl
      dsimp only at hlink ⊢
      unfold attribute? at hlink ⊢
      cases hat : object.at? (.field name) with
      | some own =>
          rw [hat] at hlink hown
          cases hlink
          rw [hown]
          exact ⟨rfl, hclosed ref found hfound next (Object.mem_children_of_at? hown)⟩
      | none =>
          rw [hat] at hlink hown
          rw [hown]
          apply hw.inherited? hclosed hget hfound _ hlink
          intro hclass hsame
          refine hspared ⟨congrArg some hsame, .inr ⟨⟨name, hsame.symm⟩, ?_⟩⟩
          unfold classAt?
          rw [hget]
          exact hclass
  | call arguments =>
      dsimp only at hlink ⊢
      rw [hw.isCallable hget hfound]
      rcases Option.ite_none_left_eq_some.1 hlink with ⟨hcallable, hlink⟩
      rw [if_neg hcallable]
      exact hitem hlink
  | index arguments => exact hitem hlink

/-- A chain that does not read the place leads to the same object, and all on the way live on. -/
theorem follow? (hw : Rewritten h target place value h') (hclosed : Closed h')
    {chain : List Accessor} {last : Ref} {found : Object} (hfound : h'.get? ref = some found)
    (hspared : Spares h target place ref chain)
    (hfollow : Simulation.follow? h ref chain = some last) :
    Simulation.follow? h' ref chain = some last ∧ ∃ value, h'.get? last = some value := by
  induction chain generalizing ref found with
  | nil =>
      cases hfollow
      exact ⟨rfl, found, hfound⟩
  | cons link rest ih =>
      rcases Option.bind_eq_some_iff.1 hfollow with ⟨next, hnext, hrest⟩
      rcases hw.next? hclosed hfound hspared.1 hnext with ⟨hnext', later, hlater⟩
      unfold Simulation.follow?
      rw [hnext', Option.bind_some]
      exact ih hlater (hspared.2 next hnext) hrest

/-- The link that names the place leads to what was written. -/
theorem next?_target (hw : Rewritten h target place value h') {link : Accessor} {found : Object}
    (hfound : h'.get? target = some found) (hplace : link.place? = some place) :
    Simulation.next? h' target link = some value := by
  rcases hw.written with ⟨object, -, htakes, hnew⟩
  have hat : found.at? place = some value := by
    rw [hnew found hfound]
    exact Object.at?_put_self htakes value
  have hitem : link.place?.bind found.at? = some value := by
    rw [hplace, Option.bind_some, hat]
  unfold Simulation.next?
  rw [hfound, Option.bind_eq_bind, Option.bind_some]
  cases link with
  | field name =>
      cases hplace
      dsimp only
      unfold attribute?
      rw [hat]
      rfl
  | call arguments =>
      rcases exists_of_slotOf? hplace with ⟨position, -, hslot⟩
      have hcallable : found.isCallable = false := by
        rw [hslot] at htakes
        rcases htakes with ⟨items, hlist, -⟩
        rw [hnew found hfound, hlist, Object.isCallable_put]
        rfl
      dsimp only
      rw [hcallable]
      exact hitem
  | index arguments => exact hitem

end Rewritten

end Simulation
end ForeignBridge
