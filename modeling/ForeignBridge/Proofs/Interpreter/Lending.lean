import ForeignBridge.Proofs.Heap.Lending
import ForeignBridge.Proofs.Interpreter.Words
import ForeignBridge.Proofs.Reading.Lender

/-!
# An interpreter that lends

An interpreter lends references to the objects that stand for host values, and shows them as objects
without kinds.  Whatever has no counterpart among host values is shown by the name of its type.
-/

namespace ForeignBridge

/-!
# Texts and numbers
-/

theorem CodePoints.any_isSurrogate_ofString (t : String) :
    (ofString t).any isSurrogate = false := by
  rw [List.any_eq_false]
  intro code hcode
  obtain ⟨c, -, rfl⟩ := List.mem_map.1 hcode
  simp only [isSurrogate, Bool.and_eq_true, decide_eq_true_iff, not_and, Nat.not_le]
  intro hlow
  rcases c.valid with hvalid | hvalid
  · exact absurd hvalid (Nat.not_lt.2 hlow)
  · exact hvalid.1

theorem CodePoints.toString?_ofString (t : String) : toString? (ofString t) = some t := by
  rw [toString?, any_isSurrogate_ofString, if_neg Bool.false_ne_true, ofString, List.map_map]
  simp [Function.comp_def]

theorem CodePoints.ofString_injective {a b : String} (h : ofString a = ofString b) : a = b := by
  have hsome := toString?_ofString a
  rw [h, toString?_ofString] at hsome
  exact (Option.some.inj hsome).symm

theorem NumericKind.wide (kind : NumericKind) :
    -0x8000000000000000 ≤ kind.least ∧ kind.greatest < 0x10000000000000000 := by
  cases kind <;> decide

theorem HostInt.wide (i : HostInt) :
    -0x8000000000000000 ≤ i.value ∧ i.value < 0x10000000000000000 := by
  obtain ⟨-, hleast, hgreatest⟩ := i.fits
  obtain ⟨hlow, hhigh⟩ := i.kind.wide
  omega

namespace Interpreter

variable {s : Interpreter} {ref : Ref}

/-!
# Objects that stand for values
-/

/-- An object that stands for a host value, together with those inside it. -/
inductive Known (h : Heap Object) : Ref → Prop where
  | null {ref : Ref} (hget : h.get? ref = some ⟨.null, none, none⟩) : Known h ref
  | scalar {ref : Ref} (s : Scalar) (hget : h.get? ref = some ⟨contentOfScalar s, none, none⟩) :
      Known h ref
  | text {ref : Ref} (t : String) (hget : h.get? ref = some ⟨.text (.ofString t), none, none⟩) :
      Known h ref
  | tuple {ref : Ref} (items : List Ref) (hget : h.get? ref = some ⟨.tuple items, none, none⟩)
      (hitems : ∀ item ∈ items, Known h item) : Known h ref
  | sealed {ref : Ref} (object : Object) (hget : h.get? ref = some object)
      (hkind : object.content.kind = .attributeBag ∨ object.content.kind = .object) : Known h ref

theorem Known.exists_get? {h : Heap Object} (hknown : Known h ref) :
    ∃ object, h.get? ref = some object := by
  cases hknown with
  | null hget | scalar _ hget | text _ hget | tuple _ hget _ | sealed _ hget _ => exact ⟨_, hget⟩

/-- The name that an object goes by. -/
def publicName (s : Interpreter) (ref : Ref) : String := ((publicTypeName ref).run s).1

/-- An object as the host sees it. -/
def Object.shown (name : String) (object : Object) : Simulation.Object :=
  match object.content with
  | .null => .null
  | .bool b => .bool b
  | .int value => .int value none
  | .float x => .float x none
  | .text codes => .text ((codes.toString?).getD "")
  | .tuple items => .tuple items
  | _ => .classOf name .empty

/-- The objects of an interpreter as the host sees them. -/
def shown (s : Interpreter) : Heap Simulation.Object :=
  ⟨s.heap.slots.mapIdx fun id slot => slot.map fun live =>
    ⟨live.owners, live.content.shown (s.publicName ⟨id⟩), live.owners_pos⟩⟩

theorem contentOf_shown {object : Object} (hget : s.heap.get? ref = some object) :
    Simulation.contentOf s.shown ref = object.shown (s.publicName ref) := by
  obtain ⟨slot, hslot, rfl⟩ := Option.map_eq_some_iff.1 hget
  have hentry : s.heap.slots[ref.id]? = some (some slot) := Option.join_eq_some_iff.1 hslot
  simp [Simulation.contentOf, Heap.get?, Heap.slot?, shown, Array.getElem?_mapIdx, hentry]

theorem shown_of_sealed {object : Object} (name : String)
    (hkind : object.content.kind = .attributeBag ∨ object.content.kind = .object) :
    object.shown name = .classOf name .empty := by
  obtain ⟨content, cls, attrs⟩ := object
  cases content with
  | null | bool _ | int _ | float _ | text _ | tuple _ => rcases hkind with h | h <;> cases h
  | _ => rfl

theorem shown_text {name : String} (t : String) :
    Object.shown name ⟨.text (.ofString t), none, none⟩ = .text t := by
  unfold Object.shown
  dsimp only
  rw [CodePoints.toString?_ofString, Option.getD_some]

/-!
# Lending
-/

/-- The interpreter after references to its objects were lent. -/
def lending (s : Interpreter) (held : Multiset Ref) : Interpreter := s.withHeap (s.heap.lent held)

def raising (s : Interpreter) (held : Multiset Ref) : Interpreter :=
  { s.lending held with pending := some ⟨"UnicodeEncodeError", "surrogates not allowed"⟩ }

def lender (base : Interpreter) : Lender Interpreter where
  answer := serving
  lending := base.lending
  raising := base.raising
  heap := base.shown
  Knows := Known base.heap

theorem get?_lending (s : Interpreter) (held : Multiset Ref) (ref : Ref) :
    (s.lending held).heap.get? ref = s.heap.get? ref := Heap.get?_lent s.heap held ref

theorem answers_of_run {r : Request} {held held' : Multiset Ref} {given : r.Answer}
    (hrun : (answer r).run (s.lending held) = (given, s.lending held')) :
    s.lender.Answers r held given held' := by
  show (serving r).outcome (s.lending held) = _
  rw [outcome_serving, hrun]
  rfl

theorem run_content_lending {found : Object} (hget : s.heap.get? ref = some found)
    (held : Multiset Ref) :
    (content ref).run (s.lending held) = (found.content, s.lending held) :=
  run_content_of_get? ((get?_lending s held ref).trans hget)

theorem lending_zero (s : Interpreter) : s.lending 0 = s := by
  show s.withHeap (s.heap.lent 0) = s
  rw [Heap.lent_zero]
  rfl

theorem classInfo?_lending (s : Interpreter) (held : Multiset Ref) (object : Object) :
    classInfo? (s.lending held).heap object = classInfo? s.heap object := by
  simp only [classInfo?, get?_lending]

theorem run_typeName (ref : Ref) (held : Multiset Ref) :
    (typeName ref).run (s.lending held) = (((typeName ref).run s).1, s.lending held) := by
  have hinfo := classInfo?_lending s held ((s.heap.get? ref).getD default)
  show ((((classInfo? (s.lending held).heap _).map Class.name).getD _), s.lending held) = _
  rw [get?_lending, hinfo]
  rfl

/-- What an object is called depends on the contents of the heap only. -/
theorem run_publicTypeName (ref : Ref) (held : Multiset Ref) :
    (publicTypeName ref).run (s.lending held) = (s.publicName ref, s.lending held) := by
  have hcontent : ∀ other, (content other).run (s.lending held) =
      (((content other).run s).1, s.lending held) := fun other => by
    rw [run_content, run_content, get?_lending]
  unfold publicName publicTypeName
  rw [run_bind, run_bind, hcontent]
  cases ((content ref).run s).1 with
  | function | primitive => rfl
  | method receiver target =>
      show ((content target >>= fun _ => _).run _) = _
      rw [run_bind, hcontent]
      show _ = (((content target >>= fun _ => _).run s).1, s.lending held)
      rw [run_bind, run_content]
      cases ((s.heap.get? target).getD default).content with
      | function => rfl
      | _ => exact run_typeName ref held
  | _ => exact run_typeName ref held

/-!
# Requests
-/

theorem answers_kindOf {object : Object} (hget : s.heap.get? ref = some object)
    (held : Multiset Ref) : s.lender.Answers (.kindOf ref) held object.content.kind held := by
  apply answers_of_run
  show (content ref >>= fun c => pure c.kind).run (s.lending held) = _
  rw [run_bind, run_content_lending hget]
  rfl

theorem shows_kind (hknown : Known s.heap ref) : ∃ object, s.heap.get? ref = some object ∧
    (Simulation.contentOf s.shown ref).Shows object.content.kind := by
  cases hknown with
  | null hget | text _ hget | tuple _ hget _ =>
      refine ⟨_, hget, .inl ?_⟩
      rw [contentOf_shown hget]
      rfl
  | scalar value hget =>
      refine ⟨_, hget, .inl ?_⟩
      rw [contentOf_shown hget]
      cases value <;> rfl
  | sealed object hget hkind =>
      refine ⟨object, hget, ?_⟩
      rw [contentOf_shown hget, shown_of_sealed _ hkind]
      rcases hkind with hkind | hkind
      · exact .inr ⟨rfl, hkind⟩
      · exact .inl hkind

/-- A sequence that is known is a tuple of what is known. -/
theorem Known.items {items : List Ref} (hknown : Known s.heap ref)
    (hitems : (Simulation.contentOf s.shown ref).items? = some items) :
    s.heap.get? ref = some ⟨.tuple items, none, none⟩ ∧ ∀ item ∈ items, Known s.heap item := by
  cases hknown with
  | null hget | text _ hget =>
      rw [contentOf_shown hget] at hitems
      cases hitems
  | scalar value hget =>
      rw [contentOf_shown hget] at hitems
      cases value <;> cases hitems
  | tuple others hget hothers =>
      rw [contentOf_shown hget] at hitems
      cases hitems
      exact ⟨hget, hothers⟩
  | sealed object hget hkind =>
      rw [contentOf_shown hget, shown_of_sealed _ hkind] at hitems
      cases hitems

/-- A number that is known is a number of the host. -/
theorem Known.exists_scalar (hknown : Known s.heap ref)
    (hnumeric : (Simulation.contentOf s.shown ref).kind.isNumeric = true) :
    ∃ value, s.heap.get? ref = some ⟨contentOfScalar value, none, none⟩ := by
  cases hknown with
  | scalar value hget => exact ⟨value, hget⟩
  | null hget | text _ hget | tuple _ hget _ =>
      rw [contentOf_shown hget] at hnumeric
      cases hnumeric
  | sealed object hget hkind =>
      rw [contentOf_shown hget, shown_of_sealed _ hkind] at hnumeric
      cases hnumeric

theorem answers_intValue {value : Int} {tag : Option NumericKind} (held : Multiset Ref)
    (hquiet : s.pending = none) (hknown : Known s.heap ref)
    (hcontent : Simulation.contentOf s.shown ref = .int value tag) :
    s.lender.Answers (.intValue ref) held (some value) held := by
  obtain ⟨number, hget⟩ := hknown.exists_scalar (by rw [hcontent]; rfl)
  rw [contentOf_shown hget] at hcontent
  cases number with
  | bool b => cases hcontent
  | real x => cases hcontent
  | int i =>
      cases hcontent
      obtain ⟨hlow, hhigh⟩ := i.wide
      apply answers_of_run
      have hinteger : (s.lending held).IsInteger (s.lending held) ref i.value :=
        ⟨⟨_, (get?_lending s held ref).trans hget, rfl⟩, _, rfl⟩
      exact run_intValue_words hquiet hinteger ⟨hlow, hhigh⟩

theorem answers_floatValue {x : Double} {tag : Option NumericKind} (held : Multiset Ref)
    (hknown : Known s.heap ref)
    (hcontent : Simulation.contentOf s.shown ref = .float x tag) :
    s.lender.Answers (.floatValue ref) held x held := by
  obtain ⟨number, hget⟩ := hknown.exists_scalar (by rw [hcontent]; rfl)
  rw [contentOf_shown hget] at hcontent
  cases number with
  | bool b => cases hcontent
  | int i => cases hcontent
  | real y =>
      cases hcontent
      apply answers_of_run
      apply run_settle
      unfold floatOf
      rw [run_lift_bind, run_content_lending hget]
      rfl

theorem answers_stringBytes {bytes : List UInt8} (held : Multiset Ref) (hknown : Known s.heap ref)
    (hbytes : (Simulation.contentOf s.shown ref).bytes? = some bytes) :
    s.lender.Answers (.stringBytes ref) held (some bytes) held := by
  cases hknown with
  | null hget | tuple _ hget _ =>
      rw [contentOf_shown hget] at hbytes
      cases hbytes
  | scalar value hget =>
      rw [contentOf_shown hget] at hbytes
      cases value <;> cases hbytes
  | sealed object hget hkind =>
      rw [contentOf_shown hget, shown_of_sealed _ hkind] at hbytes
      cases hbytes
  | text t hget =>
      have hencoded : CodePoints.encode (.ofString t) = .ok (Utf8.encode t) := by
        rw [CodePoints.encode, CodePoints.toString?_ofString]
      rw [contentOf_shown hget, shown_text] at hbytes
      cases hbytes
      have hread : (stringBytes ref).run.run (s.lending held) =
          (.ok (Utf8.encode t), s.lending held) := by
        unfold stringBytes
        rw [run_lift_bind, run_content_lending hget]
        dsimp only
        rw [hencoded]
        rfl
      exact answers_of_run (run_settle (run_map hread some))

/-!
# Tuples
-/

section Tuples

variable {items : List Ref} (hget : s.heap.get? ref = some ⟨.tuple items, none, none⟩)
  (held : Multiset Ref)

include hget

theorem run_object_tuple :
    (object ref).run (s.lending held) = (⟨.tuple items, none, none⟩, s.lending held) :=
  run_object ((get?_lending s held ref).trans hget)

theorem run_isPlainDict : (isPlainDict ref).run (s.lending held) = (false, s.lending held) := by
  unfold isPlainDict
  rw [run_bind, run_object_tuple hget]
  rfl

theorem answers_sequenceLength :
    s.lender.Answers (.sequenceLength ref) held (some items.length) held := by
  have hsize : (sizeOf ref).run.run (s.lending held) = (.ok items.length, s.lending held) := by
    unfold sizeOf
    rw [run_lift_bind, run_content_lending hget]
    rfl
  apply answers_of_run
  apply run_settle
  refine run_map ?_ some
  unfold sequenceLength
  rw [run_lift_bind, run_isPlainDict hget]
  dsimp only
  rw [if_neg Bool.false_ne_true]
  exact hsize

theorem answers_sequenceItem {index : Nat} (hlt : index < items.length)
    (hitem : ∃ object, s.heap.get? items[index] = some object) :
    s.lender.Answers (.sequenceItem ref index) held (some items[index])
      (items[index] ::ₘ held) := by
  obtain ⟨object, hobject⟩ := hitem
  have hclass : (classAttr ref "__getitem__").run (s.lending held) = (none, s.lending held) := by
    unfold classAttr
    rw [run_bind, run_object_tuple hget]
    rfl
  have hretain : (retain items[index]).run (s.lending held) =
      (items[index], s.lending (items[index] ::ₘ held)) :=
    run_retain (Heap.retain?_lent hobject held)
  have hposition : (positionIn items.length index).bind (items[·]?) = some items[index] := by
    unfold positionIn
    dsimp only
    rw [if_neg (Int.natCast_nonneg index).not_gt, if_pos (by omega), Int.toNat_natCast]
    exact List.getElem?_eq_getElem hlt
  have hread : (itemAt (.tuple items) index).run.run (s.lending held) =
      (.ok items[index], s.lending (items[index] ::ₘ held)) := by
    unfold itemAt
    dsimp only
    rw [hposition]
    show (Except.ok ((retain items[index]).run (s.lending held)).1,
      ((retain items[index]).run (s.lending held)).2) = _
    rw [hretain]
  have hfound : (sequenceItem ref index).run.run (s.lending held) =
      (.ok items[index], s.lending (items[index] ::ₘ held)) := by
    unfold sequenceItem
    dsimp only
    rw [run_lift_bind, hclass]
    dsimp only
    rw [if_neg (by simp), run_lift_bind, run_isPlainDict hget]
    dsimp only
    rw [if_neg Bool.false_ne_true, run_lift_bind, run_content_lending hget]
    exact hread
  exact answers_of_run (run_settle (run_map hfound some))

end Tuples

/-!
# Names
-/

theorem run_typeName_plain {content : Content}
    (hget : s.heap.get? ref = some ⟨content, none, none⟩) :
    ((typeName ref).run s).1 = content.builtin.name := by
  show ((classInfo? s.heap ((s.heap.get? ref).getD default)).map Class.name).getD
    ((s.heap.get? ref).getD default).content.builtin.name = _
  rw [hget]
  rfl

/-- What has no name of its own and is of no written class goes by its type. -/
theorem publicName_plain {content : Content} (hget : s.heap.get? ref = some ⟨content, none, none⟩)
    (hvalue : content.kind ≠ .object) : s.publicName ref = content.builtin.name := by
  unfold publicName publicTypeName
  rw [run_bind, run_content, hget]
  cases content with
  | function | primitive | method => exact absurd rfl hvalue
  | _ => exact run_typeName_plain hget

theorem nameText_shown (hknown : Known s.heap ref) :
    Simulation.nameText s.shown ref = s.publicName ref := by
  unfold Simulation.nameText Simulation.typeText
  cases hknown with
  | null hget | text _ hget | tuple _ hget _ =>
      rw [contentOf_shown hget, publicName_plain hget nofun]
      show (Simulation.contentOf s.shown ref).ownName?.getD _ = _
      rw [contentOf_shown hget]
      rfl
  | scalar value hget =>
      rw [contentOf_shown hget, publicName_plain hget (by cases value <;> exact nofun)]
      cases value with
      | bool _ | int _ | real _ =>
          show (Simulation.contentOf s.shown ref).ownName?.getD _ = _
          rw [contentOf_shown hget]
          rfl
  | sealed object hget hkind =>
      rw [contentOf_shown hget, shown_of_sealed _ hkind]
      show (Simulation.contentOf s.shown ref).ownName?.getD _ = _
      rw [contentOf_shown hget, shown_of_sealed _ hkind]
      rfl

/-!
# Giving back
-/

theorem answers_release (hknown : Known s.heap ref) (held : Multiset Ref) :
    s.lender.Answers (.release ref) (ref ::ₘ held) () held := by
  obtain ⟨object, hget⟩ := hknown.exists_get?
  have hreleased := Heap.release_lent hget held
  have hfreed : ((s.lending (ref ::ₘ held)).heap.release ref).freed = [] :=
    congrArg Released.freed hreleased
  have hrun : (release ref).run (s.lending (ref ::ₘ held)) = ((), s.lending held) := by
    have hrun : (release ref).run (s.withHeap (s.heap.lent (ref ::ₘ held))) =
        ((), s.withHeap ((s.heap.lent (ref ::ₘ held)).release ref).heap) :=
      run_release fun object hobject => absurd hobject (by rw [hreleased]; exact List.not_mem_nil)
    rw [hreleased] at hrun
    exact hrun
  exact answers_of_run hrun

/-!
# Serving
-/

/-- Nothing is said of the kind of a number. -/
theorem numericKind?_shown (name : String) (object : Object) :
    (object.shown name).numericKind? = none := by
  unfold Object.shown
  split <;> rfl

theorem shown_of_dead (hdead : s.heap.get? ref = none) :
    Simulation.contentOf s.shown ref = .null := by
  have hslot : s.heap.slots[ref.id]?.join = none := Option.map_eq_none_iff.1 hdead
  unfold Simulation.contentOf Heap.get? Heap.slot? shown
  dsimp only
  rw [Array.getElem?_mapIdx]
  cases hentry : s.heap.slots[ref.id]? with
  | none => rfl
  | some entry =>
      rw [hentry] at hslot
      cases hslot
      rfl

theorem exists_shown (s : Interpreter) (ref : Ref) :
    Simulation.contentOf s.shown ref = .null ∨ ∃ object : Object,
      Simulation.contentOf s.shown ref = object.shown (s.publicName ref) := by
  cases hget : s.heap.get? ref with
  | none => exact .inl (shown_of_dead hget)
  | some object => exact .inr ⟨object, contentOf_shown hget⟩

theorem untagged_shown (s : Interpreter) (ref : Ref) :
    (Simulation.contentOf s.shown ref).numericKind? = none := by
  rcases s.exists_shown ref with hnull | ⟨object, hobject⟩
  · rw [hnull]
    rfl
  · rw [hobject, numericKind?_shown]

theorem tagged_shown (s : Interpreter) (ref : Ref) : (Simulation.contentOf s.shown ref).Tagged := by
  have huntagged := s.untagged_shown ref
  cases hcontent : Simulation.contentOf s.shown ref with
  | int value tag | float x tag =>
      rw [hcontent] at huntagged
      cases huntagged
      trivial
  | _ => trivial

/-- An interpreter shows no text that cannot be encoded. -/
theorem encodable_shown (s : Interpreter) (ref : Ref) (codes : List UInt16) :
    Simulation.contentOf s.shown ref ≠ .units codes := by
  rcases s.exists_shown ref with hnull | ⟨object, hobject⟩
  · rw [hnull]
    exact nofun
  · rw [hobject]
    unfold Object.shown
    split <;> exact nofun

theorem answers_boolValue {b : Bool} (held : Multiset Ref) (hknown : Known s.heap ref)
    (hcontent : Simulation.contentOf s.shown ref = .bool b) :
    s.lender.Answers (.boolValue ref) held b held := by
  obtain ⟨number, hget⟩ := hknown.exists_scalar (by rw [hcontent]; rfl)
  rw [contentOf_shown hget] at hcontent
  cases number with
  | int _ | real _ => cases hcontent
  | bool b =>
      cases hcontent
      apply answers_of_run
      show (content ref >>= fun c => pure c.truth).run (s.lending held) = _
      rw [run_bind, run_content_lending hget]
      rfl

theorem answers_typeName (held : Multiset Ref) (hknown : Known s.heap ref) :
    s.lender.Answers (.typeName ref) held (some (Simulation.nameText s.shown ref)) held := by
  apply answers_of_run
  show (publicTypeName ref >>= fun name => pure (some name)).run (s.lending held) = _
  rw [run_bind, run_publicTypeName, nameText_shown hknown]
  rfl

/-- An interpreter with no error pending lends references to what stands for host values. -/
theorem serves_lender (hquiet : s.pending = none) : s.lender.Serves where
  knows_items hknown hitems := (hknown.items hitems).2
  tagged := s.tagged_shown
  kindOf held hknown := by
    obtain ⟨object, hget, hshows⟩ := shows_kind hknown
    exact ⟨_, hshows, answers_kindOf hget held⟩
  numericKind held hknown := by
    rw [show s.lender.heap = s.shown from rfl, untagged_shown]
    exact answers_of_run rfl
  boolValue held hknown hcontent := answers_boolValue held hknown hcontent
  intValue held hknown hcontent := answers_intValue held hquiet hknown hcontent
  floatValue held hknown hcontent := answers_floatValue held hknown hcontent
  stringBytes held hknown hbytes := answers_stringBytes held hknown hbytes
  sequenceLength held hknown hitems := answers_sequenceLength (hknown.items hitems).1 held
  sequenceItem held hknown hitems hlt :=
    answers_sequenceItem (hknown.items hitems).1 held hlt
      ((hknown.items hitems).2 _ (List.getElem_mem hlt)).exists_get?
  typeName held hknown := answers_typeName held hknown
  release held hknown := answers_release hknown held
  errorPending held := by
    show (Except.ok s.pending.isSome, s.lending held) = _
    rw [hquiet]
    rfl
  unencodable _ _ hcontent _ := absurd hcontent (s.encodable_shown _ _)
  errorPending_raising held := rfl
  takeError_raising held := by
    have hcleared : ({ s.raising held with pending := none } : Interpreter) = s.lending held := by
      cases s
      cases hquiet
      rfl
    show _ = (_, s.lending held)
    rw [← hcleared]
    rfl

end Interpreter
end ForeignBridge
