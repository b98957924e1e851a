import Mathlib.Tactic.Ring
import ForeignBridge.Host.Value
import ForeignBridge.Proofs.Heap.Acquiring
import ForeignBridge.Proofs.Reading.Settled

/-!
# Objects that are built for values

A runtime has its own objects for null, numbers, strings and tuples.  The object that is built for a
host value is structurally that value: a cell is a tuple of what is built for its elements, and a
matrix a tuple of tuples of its numbers, row by row.  All objects that are built are new ones, except
that a handle stands for the object that it names, and that a runtime may have some objects once
only, such as the null object.
-/

namespace ForeignBridge

/-!
# Encodings
-/

/-- The objects of a runtime for the parts of host values. -/
structure Encoding (Obj : Type) [Linked Obj] where
  null : Obj
  scalar : Scalar → Obj
  text : String → Obj
  tuple : List Ref → Obj
  /-- The object of a content that exists only once. -/
  unique? : Obj → Option Ref
  children_null : Linked.children null = []
  children_scalar : ∀ s, Linked.children (scalar s) = []
  children_text : ∀ t, Linked.children (text t) = []
  children_tuple : ∀ refs, Linked.children (tuple refs) = refs
  unique_tuple : ∀ refs, (unique? (tuple refs)).isSome → refs = []

namespace Encoding

variable {Obj : Type} [Linked Obj] (E : Encoding Obj) (first h : Heap Obj)

/-- An object is the only one of its content, or else it was not there at first. -/
def Made (content : Obj) (ref : Ref) : Prop :=
  h.get? ref = some content ∧
    (E.unique? content = some ref ∨ E.unique? content = none ∧ first.slots.size ≤ ref.id)

/-- Tuples of tuples of the numbers of a matrix, the entry in row `i` and column `j` being number
`i * columns + j`. -/
def BuildsMatrix (m : Matrix) (ref : Ref) : Prop :=
  ∃ rows columns rowRefs, m.shape? = some (rows, columns) ∧ E.Made first h (E.tuple rowRefs) ref ∧
    rowRefs.length = rows ∧
    ∀ i row, rowRefs[i]? = some row → ∃ leaves, E.Made first h (E.tuple leaves) row ∧
      leaves.length = columns ∧
      ∀ j leaf, leaves[j]? = some leaf → ∃ s, m.elements[i * columns + j]? = some s ∧
        s.kind = m.kind ∧ E.Made first h (E.scalar s) leaf

mutual

/-- The object at a reference is what is built for a value. -/
def Builds : Value → Ref → Prop
  | .undefined, ref => E.Made first h E.null ref
  | .scalar s, ref => E.Made first h (E.scalar s) ref
  | .text t, ref => E.Made first h (E.text t) ref
  | .cell items, ref => ∃ refs, E.Made first h (E.tuple refs) ref ∧ BuildsEach items refs
  | .matrix m, ref => E.BuildsMatrix first h m ref
  | .foreign handle, ref => ref = handle.ref

def BuildsEach : List Value → List Ref → Prop
  | [], refs => refs = []
  | v :: vs, refs => ∃ ref rest, refs = ref :: rest ∧ Builds v ref ∧ BuildsEach vs rest

end

theorem buildsEach_iff {values : List Value} {refs : List Ref} :
    E.BuildsEach first h values refs ↔ List.Forall₂ (E.Builds first h) values refs := by
  induction values generalizing refs with
  | nil => simp [BuildsEach]
  | cons v rest ih =>
      rw [BuildsEach, List.forall₂_cons_left_iff]
      constructor
      · rintro ⟨ref, others, rfl, hv, hothers⟩
        exact ⟨ref, others, hv, ih.1 hothers, rfl⟩
      · rintro ⟨ref, others, hv, hothers, rfl⟩
        exact ⟨ref, others, rfl, hv, ih.2 hothers⟩

/-!
# What lasts

What was built stays what it is for as long as it lives, and it keeps alive what it is built of.
-/

variable {E} {first h} {h' : Heap Obj} {held : Multiset Ref} {content : Obj} {ref : Ref}

theorem Made.lasts (hmade : E.Made first h content ref) (hold : h.Older h')
    (hlive : ∃ found, h'.get? ref = some found) : E.Made first h' content ref :=
  ⟨hold.get?_of_live hmade.1 hlive, hmade.2⟩

/-- The items of a tuple live as long as the tuple. -/
theorem Made.exists_item {refs : List Ref} (hmade : E.Made first h (E.tuple refs) ref)
    (ha : first.Acquired h held) : ∀ item ∈ refs, ∃ found, h.get? item = some found := by
  intro item hitem
  rcases hmade with ⟨hget, hunique | ⟨-, hnew⟩⟩
  · have hempty := E.unique_tuple refs (by simp [hunique])
    simp [hempty] at hitem
  · rcases Option.map_eq_some_iff.1 hget with ⟨slot, hslot, hcontent⟩
    have hsince : (h.since first.slots.size).get? ref = some (E.tuple refs) := by
      simp [Heap.get?, Heap.slot?_since, hnew, hslot, hcontent]
    have hchild : item ∈ Linked.children (E.tuple refs) := by
      rw [E.children_tuple]
      exact hitem
    rcases ha.live (Multiset.mem_add.2 (.inl (Heap.mem_references hsince hchild))) with
      ⟨found, hfound⟩
    exact ⟨found.content, by simp [Heap.get?, hfound]⟩

theorem BuildsMatrix.lasts {m : Matrix} (hm : E.BuildsMatrix first h m ref)
    (ha : first.Acquired h' held) (hold : h.Older h')
    (hlive : ∃ found, h'.get? ref = some found) : E.BuildsMatrix first h' m ref := by
  obtain ⟨rows, columns, rowRefs, hshape, hmade, hlength, hrows⟩ := hm
  have hmade' := hmade.lasts hold hlive
  refine ⟨rows, columns, rowRefs, hshape, hmade', hlength, fun i row hrow => ?_⟩
  obtain ⟨leaves, hleaves, hcount, hentries⟩ := hrows i row hrow
  have hleaves' := hleaves.lasts hold (hmade'.exists_item ha row (List.mem_of_getElem? hrow))
  refine ⟨leaves, hleaves', hcount, fun j leaf hleaf => ?_⟩
  obtain ⟨s, hs, hkind, hscalar⟩ := hentries j leaf hleaf
  exact ⟨s, hs, hkind,
    hscalar.lasts hold (hleaves'.exists_item ha leaf (List.mem_of_getElem? hleaf))⟩

mutual

theorem Builds.lasts {v : Value} {root : Ref} (hv : E.Builds first h v root)
    (ha : first.Acquired h' held) (hold : h.Older h')
    (hlive : ∃ found, h'.get? root = some found) : E.Builds first h' v root := by
  cases v with
  | undefined | scalar _ | text _ =>
      rw [Builds] at hv ⊢
      exact hv.lasts hold hlive
  | cell items =>
      rw [Builds] at hv ⊢
      obtain ⟨refs, hmade, hitems⟩ := hv
      have hmade' := hmade.lasts hold hlive
      exact ⟨refs, hmade', BuildsEach.lasts hitems ha hold (hmade'.exists_item ha)⟩
  | matrix m =>
      rw [Builds] at hv ⊢
      exact hv.lasts ha hold hlive
  | foreign handle =>
      rw [Builds] at hv ⊢
      exact hv

theorem BuildsEach.lasts {values : List Value} {refs : List Ref}
    (hvalues : E.BuildsEach first h values refs) (ha : first.Acquired h' held) (hold : h.Older h')
    (hlive : ∀ other ∈ refs, ∃ found, h'.get? other = some found) :
    E.BuildsEach first h' values refs := by
  cases values with
  | nil =>
      rw [BuildsEach] at hvalues ⊢
      exact hvalues
  | cons v rest =>
      rw [BuildsEach] at hvalues ⊢
      obtain ⟨root, others, hsplit, hv, hothers⟩ := hvalues
      have hthere : ∀ other ∈ root :: others, ∃ found, h'.get? other = some found := by
        rw [← hsplit]
        exact hlive
      refine ⟨root, others, hsplit, Builds.lasts hv ha hold (hthere root List.mem_cons_self), ?_⟩
      exact BuildsEach.lasts hothers ha hold fun other hother =>
        hthere other (List.mem_cons_of_mem root hother)

end

end Encoding

/-!
# Matrices by rows
-/

namespace Matrix

theorem getElem?_rowsOf {columns rows i j : Nat} {elements row : List Scalar} {s : Scalar}
    (hrow : (rowsOf columns rows elements)[i]? = some row) (hs : row[j]? = some s) :
    elements[i * columns + j]? = some s := by
  induction rows generalizing i elements with
  | zero => simp [rowsOf] at hrow
  | succ rows ih =>
      cases i with
      | zero =>
          simp only [rowsOf, List.getElem?_cons_zero, Option.some.injEq] at hrow
          subst hrow
          rw [List.getElem?_take] at hs
          split at hs
          · simpa using hs
          · cases hs
      | succ i =>
          rw [rowsOf, List.getElem?_cons_succ] at hrow
          have hrest := ih hrow
          rw [List.getElem?_drop] at hrest
          rw [← hrest]
          congr 1
          ring

/-- Tuples of the rows are what is built for a matrix. -/
theorem buildsMatrix_of_rows {Obj : Type} [Linked Obj] {E : Encoding Obj} {first h : Heap Obj}
    {m : Matrix} {rows columns : Nat} {rowRefs : List Ref} {ref : Ref}
    (hshape : m.shape? = some (rows, columns)) (hmade : E.Made first h (E.tuple rowRefs) ref)
    (hrows : List.Forall₂ (fun row rowRef => ∃ leaves, E.Made first h (E.tuple leaves) rowRef ∧
      List.Forall₂ (fun s leaf => E.Made first h (E.scalar s) leaf) row leaves)
      (rowsOf columns rows m.elements) rowRefs) : E.BuildsMatrix first h m ref := by
  refine ⟨rows, columns, rowRefs, hshape, hmade, ?_, fun i rowRef hrowRef => ?_⟩
  · rw [← hrows.length_eq, length_rowsOf]
  · obtain ⟨hi, hat⟩ := List.getElem?_eq_some_iff.1 hrowRef
    have hi' : i < (rowsOf columns rows m.elements).length := by rwa [hrows.length_eq]
    obtain ⟨leaves, hleaves, hentries⟩ := hrows.get hi' hi
    simp only [List.get_eq_getElem, hat] at hleaves hentries
    refine ⟨leaves, hleaves, ?_, fun j leaf hleaf => ?_⟩
    · rw [← hentries.length_eq]
      exact (rowsOf_full (length_of_shape? hshape)).1 _ (List.getElem_mem hi')
    · obtain ⟨hj, hat'⟩ := List.getElem?_eq_some_iff.1 hleaf
      have hj' : j < (rowsOf columns rows m.elements)[i].length := by rwa [hentries.length_eq]
      have hscalar := hentries.get hj' hj
      simp only [List.get_eq_getElem, hat'] at hscalar
      have hentry : m.elements[i * columns + j]? =
          some (rowsOf columns rows m.elements)[i][j] :=
        getElem?_rowsOf (List.getElem?_eq_getElem hi') (List.getElem?_eq_getElem hj')
      exact ⟨_, hentry, m.kind_eq _ (List.mem_of_getElem? hentry), hscalar⟩

/-- What is built for a matrix are tuples of the rows. -/
theorem exists_rows_of_buildsMatrix {Obj : Type} [Linked Obj] {E : Encoding Obj}
    {first h : Heap Obj} {m : Matrix} {ref : Ref} (hm : E.BuildsMatrix first h m ref) :
    ∃ rowRefs, E.Made first h (E.tuple rowRefs) ref ∧
      List.Forall₂ (fun row rowRef => ∃ leaves, E.Made first h (E.tuple leaves) rowRef ∧
        List.Forall₂ (fun s leaf => E.Made first h (E.scalar s) leaf) row leaves)
        (m.rows?.getD []) rowRefs := by
  obtain ⟨rows, columns, rowRefs, hshape, hmade, hcount, hrows⟩ := hm
  have hrowsOf : m.rows?.getD [] = rowsOf columns rows m.elements := by
    rw [rows?, hshape]
    rfl
  rw [hrowsOf]
  refine ⟨rowRefs, hmade, List.forall₂_iff_get.2 ⟨by rw [length_rowsOf, hcount], ?_⟩⟩
  intro i hi hi'
  obtain ⟨leaves, hleaves, hlength, hentries⟩ := hrows i _ (List.getElem?_eq_getElem hi')
  have hwidth : (rowsOf columns rows m.elements)[i].length = columns :=
    (rowsOf_full (length_of_shape? hshape)).1 _ (List.getElem_mem hi)
  refine ⟨leaves, hleaves, List.forall₂_iff_get.2 ⟨hwidth.trans hlength.symm, ?_⟩⟩
  intro j hj hj'
  obtain ⟨s, hs, -, hscalar⟩ := hentries j _ (List.getElem?_eq_getElem hj')
  have hentry : m.elements[i * columns + j]? = some (rowsOf columns rows m.elements)[i][j] :=
    getElem?_rowsOf (List.getElem?_eq_getElem hi) (List.getElem?_eq_getElem hj)
  rw [hentry] at hs
  cases hs
  exact hscalar

end Matrix
end ForeignBridge
