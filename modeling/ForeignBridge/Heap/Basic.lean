import ForeignBridge.Foreign.Panic

/-!
# A heap of counted objects

Objects are numbered from one in the order of their allocation, and a number is never given out
twice.  A live object counts the references that are owned on it, of which there is at least one.
Giving one back is in `ForeignBridge.Heap.Release`.
-/

namespace ForeignBridge

/-- A live object with the number of its owners. -/
structure Slot (α : Type) where
  owners : Nat
  content : α
  owners_pos : 0 < owners

/-- Contents that refer to other objects, once for each reference that they own. -/
class Linked (α : Type) where
  children : α → List Ref

/-- A heap: the slot of every number given out so far, empty if the object is dead.  Number zero is
never given out. -/
structure Heap (α : Type) where
  slots : Array (Option (Slot α))

namespace Heap

variable {α : Type}

def slot? (h : Heap α) (ref : Ref) : Option (Slot α) := (h.slots[ref.id]?).join

def get? (h : Heap α) (ref : Ref) : Option α := (h.slot? ref).map Slot.content

/-- The number of owners, zero for a dead object. -/
def owners (h : Heap α) (ref : Ref) : Nat := ((h.slot? ref).map Slot.owners).getD 0

def isLive (h : Heap α) (ref : Ref) : Bool := (h.slot? ref).isSome

def liveCount (h : Heap α) : Nat := h.slots.countP Option.isSome

/-- The heap of one object, numbered one and owned once. -/
def singleton (content : α) : Heap α := ⟨#[none, some ⟨1, content, Nat.one_pos⟩]⟩

/-- A new object, owned once. -/
def allocate (h : Heap α) (content : α) : Ref × Heap α :=
  (⟨h.slots.size⟩, ⟨h.slots.push (some ⟨1, content, Nat.one_pos⟩)⟩)

def setSlot (h : Heap α) (ref : Ref) (slot : Option (Slot α)) : Heap α :=
  ⟨h.slots.setIfInBounds ref.id slot⟩

def setContent (h : Heap α) (ref : Ref) (content : α) : Heap α :=
  match h.slot? ref with
  | some slot => h.setSlot ref (some { slot with content })
  | none => h

/-- The heap in which a live object has one owner more. -/
def retain? (h : Heap α) (ref : Ref) : Option (Heap α) :=
  (h.slot? ref).map fun slot =>
    h.setSlot ref (some ⟨slot.owners + 1, slot.content, Nat.succ_pos _⟩)

def totalOwners (h : Heap α) : Nat :=
  (h.slots.toList.map fun slot => (slot.map Slot.owners).getD 0).foldr (· + ·) 0

end Heap
end ForeignBridge
