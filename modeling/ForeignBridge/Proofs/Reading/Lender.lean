import ForeignBridge.Proofs.Crossing.Success
import ForeignBridge.Proofs.Heap.Conservation
import ForeignBridge.Proofs.Reading.Classification
import ForeignBridge.Proofs.Simulation.Invariants

/-!
# Lending

While objects are converted a runtime lends references to them, and nothing else happens to it.  All
that it holds stays where it is, so what it answers can be said in terms of the heap that it shows,
whatever kind of runtime it is.
-/

namespace ForeignBridge

/-!
# Kinds
-/

namespace Simulation
namespace Object

/-- What an object may be said to be: one that is neither a plain value nor a sequence may as well
be an attribute bag. -/
def Shows (object : Object) (kind : ForeignKind) : Prop :=
  kind = object.kind ∨ object.kind = .object ∧ kind = .attributeBag

variable {object : Object} {kind : ForeignKind}

theorem Shows.eq (h : object.Shows kind) (hkind : object.kind ≠ .object) : kind = object.kind :=
  h.resolve_right fun hother => hkind hother.1

theorem Shows.isNumeric (h : object.Shows kind) : kind.isNumeric = object.kind.isNumeric := by
  rcases h with rfl | ⟨hkind, rfl⟩
  · rfl
  · rw [hkind]
    rfl

theorem kind_eq_sequence {items : List Ref} (hitems : object.items? = some items) :
    object.kind = .sequence := by
  cases object with
  | tuple _ | list _ => rfl
  | _ => cases hitems

theorem kind_ne_sequence (hitems : object.items? = none) : object.kind ≠ .sequence := by
  cases object with
  | tuple _ | list _ => cases hitems
  | _ => exact nofun

theorem Shows.eq_sequence (h : object.Shows kind) {items : List Ref}
    (hitems : object.items? = some items) : kind = .sequence := by
  have hkind := kind_eq_sequence hitems
  rw [h.eq (by simp [hkind]), hkind]

theorem Shows.ne_sequence (h : object.Shows kind) (hitems : object.items? = none) :
    kind ≠ .sequence := by
  rcases h with rfl | ⟨-, rfl⟩
  · exact kind_ne_sequence hitems
  · exact nofun

/-- The bytes of an object that has a form in UTF-8, or is one. -/
def bytes? : Object → Option (List UInt8)
  | bytes octets => some octets
  | text chars => some (Utf8.encode chars)
  | units codes => (Utf16.decode? codes).map Utf8.encode
  | _ => none

end Object

/-!
# What is lent in the end
-/

/-- What is lent after a conversion: the references in its result, if it has one. -/
def lentBy {α : Type} (refs : α → List Ref) (held : Multiset Ref) :
    Except BridgeError α → Multiset Ref
  | .ok a => (refs a : Multiset Ref) + held
  | .error _ => held

/-- Nothing is changed for what else is lent. -/
theorem lentBy_cons {α : Type} (refs : α → List Ref) (ref : Ref) (held : Multiset Ref)
    (outcome : Except BridgeError α) :
    lentBy refs (ref ::ₘ held) outcome = ref ::ₘ lentBy refs held outcome := by
  cases outcome with
  | ok a => exact Multiset.add_cons _ _ _
  | error error => rfl

end Simulation

open Simulation

/-!
# Runtimes that lend
-/

/-- A runtime that may lend references to some objects. -/
structure Lender (σ : Type) where
  answer : (r : Request) → Attempt σ r.Answer
  lending : Multiset Ref → σ
  /-- The runtime while it also reports that text cannot be encoded. -/
  raising : Multiset Ref → σ
  /-- The objects as the host sees them. -/
  heap : Heap Object
  Knows : Ref → Prop

namespace Lender

variable {σ α : Type} (L : Lender σ)

/-- What a request is answered while references are lent, and which ones are lent then. -/
def Answers (r : Request) (held : Multiset Ref) (given : r.Answer) (held' : Multiset Ref) : Prop :=
  (L.answer r).outcome (L.lending held) = (.ok given, L.lending held')

/-- What a crossing comes to while references are lent, and which ones are lent then. -/
abbrev Lends (c : Crossing α) (held : Multiset Ref) (outcome : Except BridgeError α)
    (held' : Multiset Ref) : Prop :=
  c.Comes L.answer (L.lending held) outcome (L.lending held')

/-- The runtime gives a reference back, at the end of which it need not lend any more. -/
def Ends (ref : Ref) (held : Multiset Ref) (t : σ) : Prop :=
  (L.answer (.release ref)).outcome (L.lending held) = (.ok (), t)

/-- The runtime answers by what it shows. -/
structure Serves : Prop where
  knows_items : ∀ {ref items}, L.Knows ref → (contentOf L.heap ref).items? = some items →
    ∀ item ∈ items, L.Knows item
  tagged : ∀ ref, (contentOf L.heap ref).Tagged
  kindOf : ∀ {ref} held, L.Knows ref →
    ∃ kind, (contentOf L.heap ref).Shows kind ∧ L.Answers (.kindOf ref) held kind held
  numericKind : ∀ {ref} held, L.Knows ref →
    L.Answers (.numericKind ref) held (contentOf L.heap ref).numericKind? held
  boolValue : ∀ {ref b} held, L.Knows ref → contentOf L.heap ref = .bool b →
    L.Answers (.boolValue ref) held b held
  intValue : ∀ {ref value tag} held, L.Knows ref → contentOf L.heap ref = .int value tag →
    L.Answers (.intValue ref) held (some value) held
  floatValue : ∀ {ref x tag} held, L.Knows ref → contentOf L.heap ref = .float x tag →
    L.Answers (.floatValue ref) held x held
  stringBytes : ∀ {ref bytes} held, L.Knows ref → (contentOf L.heap ref).bytes? = some bytes →
    L.Answers (.stringBytes ref) held (some bytes) held
  sequenceLength : ∀ {ref items} held, L.Knows ref → (contentOf L.heap ref).items? = some items →
    L.Answers (.sequenceLength ref) held (some items.length) held
  sequenceItem : ∀ {ref items index} held, L.Knows ref →
    (contentOf L.heap ref).items? = some items → (hlt : index < items.length) →
      L.Answers (.sequenceItem ref index) held (some items[index]) (items[index] ::ₘ held)
  typeName : ∀ {ref} held, L.Knows ref →
    L.Answers (.typeName ref) held (some (nameText L.heap ref)) held
  release : ∀ {ref} held, L.Knows ref → L.Answers (.release ref) (ref ::ₘ held) () held
  errorPending : ∀ held, L.Answers .errorPending held false held
  unencodable : ∀ {ref codes} held, L.Knows ref → contentOf L.heap ref = .units codes →
    Utf16.decode? codes = none →
      (L.answer (.stringBytes ref)).outcome (L.lending held) = (.ok none, L.raising held)
  errorPending_raising : ∀ held,
    (L.answer .errorPending).outcome (L.raising held) = (.ok true, L.raising held)
  takeError_raising : ∀ held, (L.answer .takeError).outcome (L.raising held) =
    (.ok (some ⟨"UnicodeEncodeError", "surrogates not allowed"⟩), L.lending held)

variable {L}

theorem Answers.lends {r : Request} {held held' : Multiset Ref} {given : r.Answer}
    (h : L.Answers r held given held') : L.Lends (Crossing.ask r) held (.ok given) held' :=
  Crossing.Comes.ask h

theorem Ends.unique {ref : Ref} {held : Multiset Ref} {t t' : σ} (h : L.Ends ref held t)
    (h' : L.Ends ref held t') : t = t' :=
  congrArg Prod.snd (h.symm.trans h')

variable (hL : L.Serves) {held : Multiset Ref} {ref : Ref}

include hL

/-- A reference that is lent for a conversion is given back in the end. -/
theorem Serves.ends (hknown : L.Knows ref) (refs : α → List Ref) (held : Multiset Ref)
    (outcome : Except BridgeError α) :
    L.Ends ref (lentBy refs (ref ::ₘ held) outcome) (L.lending (lentBy refs held outcome)) := by
  rw [lentBy_cons]
  exact hL.release _ hknown

/-- References that are lent can be given back. -/
theorem succeeds_releaseAll {refs : List Ref} (hknown : ∀ ref ∈ refs, L.Knows ref)
    (held : Multiset Ref) :
    (Program.releaseAll refs).Succeeds L.answer (L.lending ((refs : Multiset Ref) + held)) ()
      (L.lending held) := by
  induction refs with
  | nil =>
      rw [Multiset.coe_nil, zero_add]
      exact .done () _
  | cons ref rest ih =>
      rw [← Multiset.cons_coe, Multiset.cons_add]
      exact .ask (hL.release ((rest : Multiset Ref) + held) (hknown ref List.mem_cons_self))
        (ih (List.forall_mem_of_forall_mem_cons hknown))

end Lender
end ForeignBridge
