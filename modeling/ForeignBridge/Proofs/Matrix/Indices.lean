import Mathlib.Data.List.Forall2
import ForeignBridge.Host.Matrix

/-!
# Indices of arrays

The indices of an array of any number of dimensions, in row-major order, and where an index stands
among them.  Dimensions that are one have no part in this: without them and the coordinates along
them an index stands at the same place.
-/

namespace ForeignBridge
namespace Matrix

/-- All indices of an array, of which the last coordinate varies fastest. -/
def indices : List Nat → List (List Nat)
  | [] => [[]]
  | n :: dims => (List.range n).flatMap fun i => (indices dims).map (i :: ·)

/-- The number of indices before one. -/
def offset : List Nat → List Nat → Nat
  | _ :: dims, i :: index => i * elementCount dims + offset dims index
  | _, _ => 0

/-- An index is one of an array. -/
abbrev Within (index dims : List Nat) : Prop := List.Forall₂ (· < ·) index dims

variable {index dims : List Nat} {n i : Nat}

theorem elementCount_cons : elementCount (n :: dims) = n * elementCount dims := rfl

/-!
# Order
-/

theorem mem_indices : index ∈ indices dims ↔ Within index dims := by
  induction dims generalizing index with
  | nil =>
      constructor
      · intro h
        rw [List.mem_singleton.1 h]
        exact .nil
      · rintro ⟨⟩
        exact List.mem_singleton_self []
  | cons n dims ih =>
      unfold indices
      constructor
      · intro h
        rcases List.mem_flatMap.1 h with ⟨i, hi, hindex⟩
        rcases List.mem_map.1 hindex with ⟨rest, hrest, rfl⟩
        exact .cons (List.mem_range.1 hi) (ih.1 hrest)
      · rintro (_ | ⟨hi, hrest⟩)
        exact List.mem_flatMap.2 ⟨_, List.mem_range.2 hi, List.mem_map.2 ⟨_, ih.2 hrest, rfl⟩⟩

/-- Blocks of numbers one after the other. -/
theorem flatMap_range (n count : Nat) :
    (List.range n).flatMap (fun i => (List.range count).map (i * count + ·)) =
      List.range (n * count) := by
  induction n with
  | zero => rw [Nat.zero_mul]; rfl
  | succ n ih =>
      rw [List.range_succ, List.flatMap_append, ih, Nat.succ_mul, List.range_add]
      exact congrArg _ (List.append_nil _)

/-- The indices stand in the order of their offsets. -/
theorem map_offset_indices (dims : List Nat) :
    (indices dims).map (offset dims) = List.range (elementCount dims) := by
  induction dims with
  | nil => rfl
  | cons n dims ih =>
      have hblock : ∀ i, ((indices dims).map (i :: ·)).map (offset (n :: dims)) =
          (List.range (elementCount dims)).map (i * elementCount dims + ·) := by
        intro i
        rw [← ih, List.map_map, List.map_map]
        rfl
      rw [indices, List.map_flatMap, elementCount_cons, ← flatMap_range]
      exact congrArg (List.flatMap · _) (funext hblock)

/-!
# Dimensions that are one
-/

/-- The parts of a list that stand along dimensions other than one. -/
def significant (dims parts : List Nat) : List Nat :=
  ((dims.zip parts).filter fun (n, _) => n != 1).map Prod.snd

theorem significant_one : significant (1 :: dims) (i :: index) = significant dims index := rfl

theorem significant_cons (hn : n ≠ 1) :
    significant (n :: dims) (i :: index) = i :: significant dims index := by
  have hkept : (n != 1) = true := bne_iff_ne.2 hn
  unfold significant
  rw [List.zip_cons_cons, List.filter_cons, if_pos hkept, List.map_cons]

theorem filter_cons (hn : n ≠ 1) : (n :: dims).filter (· != 1) = n :: dims.filter (· != 1) :=
  List.filter_cons_of_pos (bne_iff_ne.2 hn)

theorem elementCount_filter (dims : List Nat) :
    elementCount (dims.filter (· != 1)) = elementCount dims := by
  induction dims with
  | nil => rfl
  | cons n rest ih =>
      by_cases hn : n = 1
      · rw [hn, elementCount_cons, Nat.one_mul]
        exact ih
      · rw [filter_cons hn, elementCount_cons, elementCount_cons, ih]

/-- Along a dimension that is one an index can only be zero. -/
theorem within_significant (h : Within index dims) :
    Within (significant dims index) (dims.filter (· != 1)) ∧
      offset (dims.filter (· != 1)) (significant dims index) = offset dims index := by
  induction h with
  | nil => exact ⟨.nil, rfl⟩
  | @cons i n index dims hi _ ih =>
      by_cases hn : n = 1
      · subst hn
        rw [Nat.lt_one_iff.1 hi, significant_one]
        refine ⟨ih.1, ?_⟩
        show offset (dims.filter (· != 1)) _ = 0 * elementCount dims + offset dims index
        rw [Nat.zero_mul, Nat.zero_add]
        exact ih.2
      · rw [filter_cons hn, significant_cons hn]
        refine ⟨.cons hi ih.1, ?_⟩
        show i * elementCount (dims.filter (· != 1)) + _ = i * elementCount dims + offset dims index
        rw [elementCount_filter, ih.2]

end Matrix
end ForeignBridge
