import ForeignBridge.Proofs.Interpreter.Making

/-!
# The objects that a bare interpreter has

The objects that exist only once come in blocks, in the order of their numbers, and each of them is
in its place.
-/

namespace ForeignBridge
namespace Interpreter

theorem get?_bare (directories : List Directory) (n : Nat) :
    (bare directories).heap.get? ⟨n + 1⟩ =
      uniqueContents[n]?.map fun content => ⟨content, none, none⟩ := by
  unfold bare Heap.get? Heap.slot?
  dsimp only
  rw [List.getElem?_toArray, List.getElem?_cons_succ, List.getElem?_map]
  cases uniqueContents[n]? <;> rfl

/-!
# Blocks of objects
-/

def integers : List Content := (List.range 262).map fun (n : Nat) => .int (n - 5)

def letters : List Content := (List.range 256).map fun n => .text [n]

def octets : List Content := (List.range 256).map fun n => .bytes [UInt8.ofNat n]

theorem length_integers : integers.length = 262 := by
  rw [integers, List.length_map, List.length_range]

theorem length_letters : letters.length = 256 := by
  rw [letters, List.length_map, List.length_range]

theorem length_octets : octets.length = 256 := by
  rw [octets, List.length_map, List.length_range]

/-- The unique objects, block by block. -/
theorem uniqueContents_eq :
    uniqueContents = [.null, .bool false, .bool true] ++ (integers ++
      ([.tuple [], .text [], .bytes []] ++
        (letters ++ (octets ++ Builtin.all.map .builtinType)))) := by
  simp only [uniqueContents, integers, letters, octets, List.append_assoc]

/-- The objects of a block have their places in a row. -/
theorem getElem?_block {before block after : List Content} {start n : Nat}
    (hblocks : uniqueContents = before ++ (block ++ after)) (hstart : before.length = start)
    (hn : n < block.length) : uniqueContents[start + n]? = block[n]? := by
  rw [hblocks, ← hstart, List.getElem?_append_right (Nat.le_add_right _ _),
    Nat.add_sub_cancel_left, List.getElem?_append_left hn]

theorem place_integer {n : Nat} (hn : n < 262) :
    uniqueContents[3 + n]? = some (.int (n - 5)) := by
  have hstart : ([.null, .bool false, .bool true] : List Content).length = 3 := rfl
  rw [getElem?_block uniqueContents_eq hstart (by rwa [length_integers]), integers,
    List.getElem?_map, List.getElem?_range hn, Option.map_some]

theorem place_empty {n : Nat} (hn : n < 3) :
    uniqueContents[265 + n]? = [Content.tuple [], .text [], .bytes []][n]? := by
  have hblocks : uniqueContents = ([.null, .bool false, .bool true] ++ integers) ++
      ([.tuple [], .text [], .bytes []] ++
        (letters ++ (octets ++ Builtin.all.map .builtinType))) := by
    simp only [uniqueContents_eq, List.append_assoc]
  have hstart : ([.null, .bool false, .bool true] ++ integers : List Content).length = 265 := by
    simp only [List.length_append, length_integers, List.length_cons, List.length_nil]
  exact getElem?_block hblocks hstart hn

theorem place_letter {n : Nat} (hn : n < 256) :
    uniqueContents[268 + n]? = some (.text [n]) := by
  have hblocks : uniqueContents = ([.null, .bool false, .bool true] ++ integers ++
      [.tuple [], .text [], .bytes []]) ++
        (letters ++ (octets ++ Builtin.all.map .builtinType)) := by
    simp only [uniqueContents_eq, List.append_assoc]
  have hstart : ([.null, .bool false, .bool true] ++ integers ++
      [.tuple [], .text [], .bytes []] : List Content).length = 268 := by
    simp only [List.length_append, length_integers, List.length_cons, List.length_nil]
  rw [getElem?_block hblocks hstart (by rwa [length_letters]), letters, List.getElem?_map,
    List.getElem?_range hn, Option.map_some]

theorem place_octet (octet : UInt8) :
    uniqueContents[524 + octet.toNat]? = some (.bytes [octet]) := by
  have hblocks : uniqueContents = ([.null, .bool false, .bool true] ++ integers ++
      [.tuple [], .text [], .bytes []] ++ letters) ++
        (octets ++ Builtin.all.map .builtinType) := by
    simp only [uniqueContents_eq, List.append_assoc]
  have hstart : ([.null, .bool false, .bool true] ++ integers ++
      [.tuple [], .text [], .bytes []] ++ letters : List Content).length = 524 := by
    simp only [List.length_append, length_integers, length_letters, List.length_cons,
      List.length_nil]
  rw [getElem?_block hblocks hstart (by rw [length_octets]; exact octet.toNat_lt), octets,
    List.getElem?_map, List.getElem?_range octet.toNat_lt, Option.map_some, UInt8.ofNat_toNat]

theorem place_type (which : Builtin) :
    uniqueContents[780 + Builtin.all.idxOf which]? = some (.builtinType which) := by
  have hblocks : uniqueContents = ([.null, .bool false, .bool true] ++ integers ++
      [.tuple [], .text [], .bytes []] ++ letters ++ octets) ++
        (Builtin.all.map .builtinType ++ []) := by
    simp only [uniqueContents_eq, List.append_assoc, List.append_nil]
  have hstart : ([.null, .bool false, .bool true] ++ integers ++
      [.tuple [], .text [], .bytes []] ++ letters ++ octets : List Content).length = 780 := by
    simp only [List.length_append, length_integers, length_letters, length_octets,
      List.length_cons, List.length_nil]
  have hmem : which ∈ Builtin.all := by cases which <;> decide
  rw [getElem?_block hblocks hstart (by rw [List.length_map]; exact List.idxOf_lt_length_iff.2 hmem),
    List.getElem?_map, List.getElem?_idxOf hmem, Option.map_some]

/-- What exists only once has its place. -/
theorem exists_place {content : Content} {ref : Ref} (hunique : uniqueRef? content = some ref) :
    ∃ n, ref = ⟨n + 1⟩ ∧ uniqueContents[n]? = some content := by
  unfold uniqueRef? at hunique
  split at hunique
  · cases hunique
    exact ⟨0, rfl, rfl⟩
  · rename_i b
    cases hunique
    cases b
    · exact ⟨1, rfl, rfl⟩
    · exact ⟨2, rfl, rfl⟩
  · rename_i value
    split at hunique
    · rename_i hsmall
      cases hunique
      have hid : (value + 9).toNat = 3 + (value + 5).toNat + 1 := by omega
      have hvalue : ((value + 5).toNat : Int) - 5 = value := by omega
      have hplace := place_integer (n := (value + 5).toNat) (by omega)
      rw [hvalue] at hplace
      exact ⟨3 + (value + 5).toNat, by rw [hid], hplace⟩
    · cases hunique
  · cases hunique
    exact ⟨265, rfl, place_empty (n := 0) (by decide)⟩
  · cases hunique
    exact ⟨266, rfl, place_empty (n := 1) (by decide)⟩
  · cases hunique
    exact ⟨267, rfl, place_empty (n := 2) (by decide)⟩
  · rename_i code
    split at hunique
    · rename_i hsmall
      cases hunique
      exact ⟨268 + code, by rw [Nat.add_right_comm], place_letter hsmall⟩
    · cases hunique
  · rename_i octet
    cases hunique
    exact ⟨524 + octet.toNat, by rw [Nat.add_right_comm], place_octet octet⟩
  · rename_i which
    cases hunique
    exact ⟨780 + Builtin.all.idxOf which, by rw [Nat.add_right_comm], place_type which⟩
  · cases hunique

/-- An interpreter that has only the unique objects has them in their places. -/
theorem furnished_bare (directories : List Directory) : (bare directories).Furnished := by
  intro content ref hunique
  obtain ⟨n, rfl, hn⟩ := exists_place hunique
  rw [get?_bare, hn, Option.map_some]

end Interpreter
end ForeignBridge
