import ForeignBridge.Proofs.Chains.Positions
import ForeignBridge.Proofs.Heap.Acquiring
import ForeignBridge.Proofs.Heap.Covering
import ForeignBridge.Proofs.Heap.Deferring

/-!
# Slots of lists

The items of a list are the slots of an array, each of which has two names: its position, and the
negative number that counts it from the end.  Every integer from minus the length on and below the
length is the name of one slot, and two of them name the same slot if they leave the same remainder
when divided by the length.  Other integers are names of no slot.

Only the books of the heap have to be in order for this.  An error may be pending, and the bodies of
functions may be dishonest.
-/

namespace ForeignBridge
namespace Simulation

open Attempt

/-!
# Names of slots
-/

/-- The integer is a name of a slot of a list of some length. -/
def NamesSlot (index : Int) (count : Nat) : Prop := -(count : Int) ≤ index ∧ index < count

instance (index : Int) (count : Nat) : Decidable (NamesSlot index count) :=
  inferInstanceAs (Decidable (_ ∧ _))

/-- The position of the slot that an integer names. -/
def slotAt (index : Int) (count : Nat) : Nat := (index % count).toNat

section Indices

variable {index other : Int} {count : Nat}

theorem coe_slotAt (h : NamesSlot index count) : (slotAt index count : Int) = index % count := by
  rcases h with ⟨hlow, hhigh⟩
  exact Int.toNat_of_nonneg (Int.emod_nonneg index (by omega))

theorem slotAt_lt (h : NamesSlot index count) : slotAt index count < count := by
  have hslot := coe_slotAt h
  rcases h with ⟨hlow, hhigh⟩
  have hless := Int.emod_lt_of_pos index (show 0 < (count : Int) by omega)
  omega

/-- Two names of one slot leave the same remainder. -/
theorem slotAt_eq_iff (h : NamesSlot index count) (hother : NamesSlot other count) :
    slotAt index count = slotAt other count ↔ index % count = other % count := by
  rw [← coe_slotAt h, ← coe_slotAt hother]
  exact Int.ofNat_inj.symm

/-- The shift of a negative index does not change its remainder. -/
theorem resolveIndex_of_namesSlot (h : NamesSlot index count) :
    resolveIndex index count = some (slotAt index count) := by
  rcases h with ⟨hlow, hhigh⟩
  have hposition : (if index < 0 then index + count else index) = index % count := by
    split
    · rw [← Int.add_emod_right, Int.emod_eq_of_lt (by omega) (by omega)]
    · rw [Int.emod_eq_of_lt (by omega) (by omega)]
  unfold resolveIndex
  rw [hposition]
  exact if_pos ⟨Int.emod_nonneg index (by omega), Int.emod_lt_of_pos index (by omega)⟩

theorem resolveIndex_of_not_namesSlot (h : ¬ NamesSlot index count) :
    resolveIndex index count = none := by
  unfold NamesSlot at h
  unfold resolveIndex
  apply if_neg
  split <;> omega

end Indices

theorem int?_int (index : Int) (kind : Option NumericKind) :
    (Object.int index kind).int? = some index := rfl

theorem items?_list (items : List Ref) : (Object.list items).items? = some items := rfl

variable {s : Simulation} {held : Multiset Ref} {depth : Nat} {list value key : Ref}
  {items : List Ref} {index : Int} {kind : Option NumericKind} {content : Object}

/-- The heap of a runtime that serves requests counts the references that the runtime holds itself and
those that are held from outside. -/
structure Conserves (s : Simulation) (held : Multiset Ref) : Prop where
  running : s.phase = .running
  balanced : s.heap.Balanced (s.roots + held)

namespace Conserves

variable {ref : Ref}

theorem counted (_ : s.Conserves held) (href : ref ∈ held) :
    ref ∈ s.heap.references + (s.roots + held) :=
  Multiset.mem_add.2 (.inr (Multiset.mem_add.2 (.inr href)))

theorem exists_held (hs : s.Conserves held) (href : ref ∈ held) :
    ∃ content, s.heap.get? ref = some content := exists_get? hs.balanced (hs.counted href)

end Conserves

/-!
# Reading
-/

/-- An object that is there can be lent. -/
theorem exists_lend {ref : Ref} (hget : s.heap.get? ref = some content) :
    ∃ s', (lend ref).outcome s = (.ok (some ref), s') := by
  rcases Heap.exists_retain? hget with ⟨h', hretain⟩
  have hretained : (retain ref).outcome (s.withHeap s.heap) = _ := outcome_retain hretain
  refine ⟨s.withHeap h', ?_⟩
  unfold lend
  rw [outcome_bind, show (retain ref).outcome s = _ from hretained]
  rfl

/-- An item is the object that the request for the slot comes to, under both names of the slot. -/
theorem outcome_getItem_within (hget : s.heap.get? list = some (.list items))
    (hkey : s.heap.get? key = some (.int index kind)) (hnames : NamesSlot index items.length)
    {item : Ref} (hitem : items[slotAt index items.length]? = some item) :
    (getItem list key).outcome s = (lend item).outcome s := by
  unfold getItem
  rw [outcome_bind, outcome_displayType_of_items hget rfl]
  dsimp only
  rw [outcome_look hkey, outcome_look hget]
  dsimp only
  rw [int?_int]
  dsimp only
  rw [resolveIndex_of_namesSlot hnames, Option.bind_some, hitem]

theorem outcome_getItem_outside (hget : s.heap.get? list = some (.list items))
    (hkey : s.heap.get? key = some (.int index kind)) (hnames : ¬ NamesSlot index items.length) :
    (getItem list key).outcome s = (.ok none, { s with pending := some (outOfRange "list") }) := by
  unfold getItem
  rw [outcome_bind, outcome_displayType_of_items hget rfl]
  dsimp only
  rw [outcome_look hkey, outcome_look hget]
  dsimp only
  rw [int?_int]
  dsimp only
  rw [resolveIndex_of_not_namesSlot hnames]
  rfl

theorem outcome_sequenceItem_within (hget : s.heap.get? list = some (.list items)) {position : Nat}
    {item : Ref} (hitem : items[position]? = some item) :
    (sequenceItem list position).outcome s = (lend item).outcome s := by
  unfold sequenceItem
  rw [outcome_look hget, items?_list, Option.bind_some, hitem]

/-- A list is read as an array of some items, each under its two names. -/
structure ReadsAs (s : Simulation) (depth : Nat) (list : Ref) (items : List Ref) : Prop where
  length : (answer (run depth) (.sequenceLength list)).outcome s = (.ok (some items.length), s)
  within : ∀ key index kind, s.heap.get? key = some (.int index kind) →
    NamesSlot index items.length → ∃ item s', items[slotAt index items.length]? = some item ∧
      (answer (run depth) (.getItem list key)).outcome s = (.ok (some item), s') ∧
      (answer (run depth) (.sequenceItem list (slotAt index items.length))).outcome s =
        (.ok (some item), s') ∧ s.heap.isLive item = true
  outside : ∀ key index kind, s.heap.get? key = some (.int index kind) →
    ¬ NamesSlot index items.length → (answer (run depth) (.getItem list key)).outcome s =
      (.ok none, { s with pending := some (outOfRange "list") })

theorem Conserves.readsAs (hs : s.Conserves held) (hget : s.heap.get? list = some (.list items))
    (depth : Nat) : s.ReadsAs depth list items := by
  constructor
  · rw [outcome_answer_of_running hs.running]
    exact outcome_look hget _
  · intro key index kind hkey hnames
    have hitem := List.getElem?_eq_getElem (slotAt_lt hnames)
    rcases exists_child hs.balanced hget (List.mem_of_getElem? hitem) with ⟨content, hcontent⟩
    rcases exists_lend hcontent with ⟨s', hlent⟩
    refine ⟨_, s', hitem, ?_, ?_, Heap.isLive_of_get? hcontent⟩
    · rw [outcome_answer_of_running hs.running]
      exact (outcome_getItem_within hget hkey hnames hitem).trans hlent
    · rw [outcome_answer_of_running hs.running]
      exact (outcome_sequenceItem_within hget hitem).trans hlent
  · intro key index kind hkey hnames
    rw [outcome_answer_of_running hs.running]
    exact outcome_getItem_outside hget hkey hnames

/-!
# Writing
-/

/-- The state after one item of a list was replaced. -/
structure Assigned (s : Simulation) (held : Multiset Ref) (list : Ref) (items : List Ref)
    (s' : Simulation) : Prop where
  conserves : s'.Conserves held
  written : s'.heap.get? list = some (.list items)
  others : ∀ ref content, ref ≠ list → s'.heap.get? ref = some content →
    s.heap.get? ref = some content

section Writing

variable (hs : s.Conserves held) (hlist : list ∈ held) (hvalue : value ∈ held)
  (hget : s.heap.get? list = some (.list items))
  (hkey : s.heap.get? key = some (.int index kind))

include hs hvalue hget hkey

/-- What the name of no slot is assigned to is retained and given back, and the heap is the same. -/
theorem outcome_setItem_outside (hnames : ¬ NamesSlot index items.length) :
    (setItem list key value).outcome s =
      (.ok false, { s with pending := some (outOfRange "list assignment") }) := by
  rcases exists_retain hs.balanced (hs.counted hvalue) with ⟨h₁, hretain, -, -⟩
  have hretained : (retain value).outcome (s.withHeap s.heap) = _ := outcome_retain hretain
  have hback := Heap.pays_iff.1 (Heap.Pays.of_retain hretain)
  have hreleased : (release value).outcome (s.withHeap h₁) = (.ok (), s) := by
    rw [outcome_release_of_dead (s := s.withHeap h₁) hback.2]
    show (_, s.withHeap (h₁.releaseAll [value]).heap) = _
    rw [hback.1]
    rfl
  have hget₁ : (s.withHeap h₁).heap.get? list = some (.list items) :=
    (Heap.get?_retain hretain list).trans hget
  unfold setItem
  rw [outcome_bind, outcome_displayType_of_items hget rfl]
  dsimp only
  rw [outcome_look hkey, outcome_bind, show (retain value).outcome s = _ from hretained]
  dsimp only
  rw [outcome_look hget₁]
  dsimp only
  rw [int?_int, Option.bind_some, resolveIndex_of_not_namesSlot hnames]
  dsimp only
  rw [outcome_bind, hreleased]
  rfl

include hlist

/-- A slot takes the new item, and gives back the reference on the one that it had. -/
theorem exists_setItem_within {position : Nat}
    (hresolve : resolveIndex index items.length = some position) :
    ∃ s', (setItem list key value).outcome s = (.ok true, s') ∧
      s.Assigned held list (items.set position value) s' := by
  have hposition := resolveIndex_lt hresolve
  have hat : items[position]? = some items[position] := List.getElem?_eq_getElem hposition
  rcases exists_retain hs.balanced (hs.counted hvalue) with ⟨h₁, hretain, hb₁, -⟩
  have hretained : (retain value).outcome (s.withHeap s.heap) = _ := outcome_retain hretain
  have hget₁ : h₁.get? list = some (.list items) := (Heap.get?_retain hretain list).trans hget
  have hmoved := coe_set hposition value
  rw [hat] at hmoved
  have hb₂ : (h₁.setContent list (Object.list (items.set position value))).Balanced
      (([items[position]] : List Ref) + (s.roots + held)) :=
    Heap.Balanced.setContent hget₁ hmoved hb₁
  have hcontents := Heap.get?_setContent hget₁ (Object.list (items.set position value))
  generalize hset : h₁.setContent list (.list (items.set position value)) = h₂ at hb₂ hcontents
  rcases hb₂.releaseAll with ⟨hdead, hb₃⟩
  refine ⟨s.withHeap (h₂.release items[position]).heap, ?_, ⟨hs.running, hb₃⟩, ?_, ?_⟩
  · unfold setItem
    rw [outcome_bind, outcome_displayType_of_items hget rfl]
    dsimp only
    rw [outcome_look hkey, outcome_bind, show (retain value).outcome s = _ from hretained]
    dsimp only
    rw [outcome_look (s := s.withHeap h₁) hget₁]
    dsimp only
    rw [int?_int, Option.bind_some, hresolve]
    dsimp only
    rw [hat, outcome_bind]
    show ((release _ >>= fun _ => pure true).outcome (s.withHeap (h₁.setContent _ _))) = _
    rw [hset, outcome_bind, outcome_release_of_dead (s := s.withHeap h₂) hdead]
    rfl
  · have hlive := exists_get? hb₃ (Multiset.mem_add.2 (.inr (Multiset.mem_add.2 (.inr hlist))))
    exact (Heap.Older.releaseAll h₂ _).get?_of_live ((hcontents list).trans (if_pos rfl)) hlive
  · intro ref content hother hfound
    have hfound₂ := Heap.get?_of_releaseAll hfound
    rw [hcontents, if_neg hother, Heap.get?_retain hretain] at hfound₂
    exact hfound₂

end Writing

/-!
# The array

A runtime is asked for one name of a slot and then for others.
-/

/-- What is read of a list after something was assigned to the slot that an index names: the value under
every name of that slot, under all names of other slots what was read before, and an error under what
is no name of a slot. -/
structure ReadsAssigned (s s' : Simulation) (depth : Nat) (list : Ref) (count : Nat) (index : Int)
    (value : Ref) : Prop where
  length : (answer (run depth) (.sequenceLength list)).outcome s' = (.ok (some count), s')
  same : ∀ key other kind, s'.heap.get? key = some (.int other kind) → NamesSlot other count →
    other % count = index % count → ∃ after,
      (answer (run depth) (.getItem list key)).outcome s' = (.ok (some value), after)
  others : ∀ key other kind, s'.heap.get? key = some (.int other kind) → NamesSlot other count →
    other % count ≠ index % count → ∃ item before after,
      (answer (run depth) (.getItem list key)).outcome s = (.ok (some item), before) ∧
      (answer (run depth) (.getItem list key)).outcome s' = (.ok (some item), after) ∧
      s'.heap.isLive item = true
  outside : ∀ key other kind, s'.heap.get? key = some (.int other kind) → ¬ NamesSlot other count →
    (answer (run depth) (.getItem list key)).outcome s' =
      (.ok none, { s' with pending := some (outOfRange "list") })

theorem Assigned.readsAssigned {s' : Simulation} (hs : s.Conserves held)
    (hget : s.heap.get? list = some (.list items)) (hnames : NamesSlot index items.length)
    (h : s.Assigned held list (items.set (slotAt index items.length) value) s') (depth : Nat) :
    s.ReadsAssigned s' depth list items.length index value := by
  have hbefore := hs.readsAs hget depth
  have hafter := h.conserves.readsAs h.written depth
  have hlength : (items.set (slotAt index items.length) value).length = items.length :=
    List.length_set
  constructor
  · rw [hafter.length, hlength]
  · intro key other kind hkey hother hsame
    rw [← hlength] at hother
    rcases hafter.within key other kind hkey hother with ⟨item, after, hitem, hread, -⟩
    rw [hlength, (slotAt_eq_iff (hlength ▸ hother) hnames).2 hsame,
      List.getElem?_set_self (slotAt_lt hnames)] at hitem
    cases hitem
    exact ⟨after, hread⟩
  · intro key other kind hkey hother hne
    have hslots : slotAt index items.length ≠ slotAt other items.length := fun heq =>
      hne ((slotAt_eq_iff hnames hother).1 heq).symm
    have hkeylist : key ≠ list := by
      intro heq
      rw [heq, h.written] at hkey
      cases hkey
    rcases hbefore.within key other kind (h.others key _ hkeylist hkey) hother with
      ⟨item, before, hitem, hread, -⟩
    rw [← hlength] at hother
    rcases hafter.within key other kind hkey hother with ⟨item', after, hitem', hread', -, hlive⟩
    rw [hlength, List.getElem?_set_ne hslots, hitem] at hitem'
    cases hitem'
    exact ⟨item, before, after, hread, hread', hlive⟩
  · intro key other kind hkey hother
    rw [← hlength] at hother
    exact hafter.outside key other kind hkey hother

/-- A list of a runtime whose books are in order is an array with two names for each slot.  An assignment
succeeds exactly under the names of slots, and is then read back under both names of its slot and
nowhere else.  Otherwise it fails as the runtime says, and nothing is different. -/
theorem setItem_assigns_slot (hs : s.Conserves held) (hlist : list ∈ held) (hvalue : value ∈ held)
    (hget : s.heap.get? list = some (.list items))
    (hkey : s.heap.get? key = some (.int index kind)) (depth : Nat) :
    s.ReadsAs depth list items ∧
    ∃ ok s', (answer (run depth) (.setItem list key value)).outcome s = (.ok ok, s') ∧
      (ok = true ↔ -(items.length : Int) ≤ index ∧ index < items.length) ∧
      (ok = false → s' =
        { s with pending := some ⟨"IndexError", "list assignment index out of range"⟩ }) ∧
      (ok = true → s'.Conserves held ∧
        (∀ ref ∈ held, ref ≠ list → s'.heap.get? ref = s.heap.get? ref) ∧
        s.ReadsAssigned s' depth list items.length index value) := by
  refine ⟨hs.readsAs hget depth, ?_⟩
  rw [outcome_answer_of_running hs.running]
  by_cases hnames : NamesSlot index items.length
  · rcases exists_setItem_within hs hlist hvalue hget hkey (resolveIndex_of_namesSlot hnames) with
      ⟨s', houtcome, hassigned⟩
    refine ⟨true, s', houtcome, iff_of_true rfl hnames, nofun, fun _ => ⟨hassigned.conserves, ?_,
      hassigned.readsAssigned hs hget hnames depth⟩⟩
    intro ref href hother
    rcases hassigned.conserves.exists_held href with ⟨content, hcontent⟩
    rw [hcontent, hassigned.others ref content hother hcontent]
  · exact ⟨false, _, outcome_setItem_outside hs hvalue hget hkey hnames,
      iff_of_false Bool.false_ne_true hnames, fun _ => rfl, nofun⟩

/-- A list of two texts, of which the last one is named by a number from the end, and a third text. -/
def sampleSlots : Simulation :=
  { fresh with
    phase := .running
    heap := ((((((Heap.singleton Object.null).allocate (.text "first")).2.allocate
      (.text "last")).2.allocate (.list [⟨2⟩, ⟨3⟩])).2.allocate (.text "new")).2.allocate
      (.int (-1) none)).2 }

theorem conserves_sampleSlots : sampleSlots.Conserves {⟨4⟩, ⟨5⟩, ⟨6⟩} := by
  refine ⟨rfl, ?_⟩
  rintro ⟨id⟩
  rcases id with _ | _ | _ | _ | _ | _ | _ | id
  · decide
  · decide
  · decide
  · decide
  · decide
  · decide
  · decide
  · rfl

/-- The number minus one names the last of two slots, to which the third text is assigned. -/
theorem setItem_assigns_last :
    sampleSlots.Conserves {⟨4⟩, ⟨5⟩, ⟨6⟩} ∧
    ∃ s', (answer (run 1) (.setItem ⟨4⟩ ⟨6⟩ ⟨5⟩)).outcome sampleSlots = (.ok true, s') ∧
      sampleSlots.ReadsAssigned s' 1 ⟨4⟩ 2 (-1) ⟨5⟩ := by
  have hlist : (⟨4⟩ : Ref) ∈ ({⟨4⟩, ⟨5⟩, ⟨6⟩} : Multiset Ref) := by decide
  have hvalue : (⟨5⟩ : Ref) ∈ ({⟨4⟩, ⟨5⟩, ⟨6⟩} : Multiset Ref) := by decide
  have hget : sampleSlots.heap.get? ⟨4⟩ = some (.list [⟨2⟩, ⟨3⟩]) := rfl
  have hkey : sampleSlots.heap.get? ⟨6⟩ = some (.int (-1) none) := rfl
  rcases setItem_assigns_slot conserves_sampleSlots hlist hvalue hget hkey 1 with
    ⟨-, ok, s', houtcome, hok, -, hassigned⟩
  have hnames : ok = true := hok.2 (by decide)
  rw [hnames] at houtcome
  exact ⟨conserves_sampleSlots, s', houtcome, (hassigned hnames).2.2⟩

end Simulation
end ForeignBridge
