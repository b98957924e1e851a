import Mathlib.Data.List.Sort
import ForeignBridge.Crossing.Entry
import ForeignBridge.Proofs.Text.Order

/-!
# Public names

What a host is shown of names is those that do not begin with an underscore, each once and in ascending
order.  There is one such list for every set of names.
-/

namespace ForeignBridge

/-- The name is shown to the host. -/
def IsPublic (name : String) : Prop := name.toList.head? ≠ some '_'

instance (name : String) : Decidable (IsPublic name) := inferInstanceAs (Decidable (_ ≠ _))

/-- The names are in strictly ascending order of their bytes. -/
def Ascending (names : List String) : Prop :=
  names.Pairwise fun name other => Utf8.encode name < Utf8.encode other

theorem ascending_iff {names : List String} : Ascending names ↔ names.Pairwise (· < ·) := by
  unfold Ascending
  simp only [Utf8.encode_lt_iff]

namespace Ascending

variable {names others : List String}

theorem nodup (h : Ascending names) : names.Nodup :=
  (ascending_iff.1 h).imp ne_of_lt

/-- Names in ascending order are determined by which names there are. -/
theorem eq_of_mem_iff (h : Ascending names) (h' : Ascending others)
    (hmem : ∀ name, name ∈ names ↔ name ∈ others) : names = others := by
  have hperm : names.Perm others := (List.perm_ext_iff_of_nodup h.nodup h'.nodup).2 hmem
  exact hperm.eq_of_pairwise (fun _ _ _ _ hlt hgt => absurd hlt (lt_asymm hgt))
    (ascending_iff.1 h) (ascending_iff.1 h')

/-- A name that is not there can be put in its place. -/
theorem orderedInsert (h : Ascending names) {name : String} (habsent : name ∉ names) :
    Ascending (names.orderedInsert (· ≤ ·) name) := by
  have hsorted : (names.orderedInsert (· ≤ ·) name).Pairwise (· ≤ ·) :=
    ((ascending_iff.1 h).imp le_of_lt).orderedInsert name names
  have hnodup : (names.orderedInsert (· ≤ ·) name).Nodup :=
    (List.perm_orderedInsert (· ≤ ·) name names).nodup_iff.2 (List.nodup_cons.2 ⟨habsent, h.nodup⟩)
  exact ascending_iff.2 (hsorted.imp₂ (fun _ _ => lt_of_le_of_ne) hnodup)

end Ascending

/-!
# Repetitions
-/

/-- Without repetitions next to each other, sorted names are in ascending order.  The names that were
gone through come before all others. -/
theorem pairwise_eraseRepsLoop {name : String} {rest before : List String}
    (hsorted : (name :: rest).Pairwise (· ≤ ·)) (hbefore : (before.reverse ++ [name]).Pairwise (· < ·)) :
    (List.eraseRepsBy.loop (· == ·) name rest before).Pairwise (· < ·) ∧
      ∀ other, other ∈ List.eraseRepsBy.loop (· == ·) name rest before ↔
        other ∈ before ∨ other = name ∨ other ∈ rest := by
  induction rest generalizing name before with
  | nil =>
      have hloop : List.eraseRepsBy.loop (· == ·) name [] before = before.reverse ++ [name] :=
        List.reverse_cons
      rw [hloop]
      exact ⟨hbefore, fun other => by simp⟩
  | cons next rest ih =>
      rw [List.pairwise_cons] at hsorted
      unfold List.eraseRepsBy.loop
      cases hsame : name == next with
      | true =>
          have heq : name = next := eq_of_beq hsame
          rw [← heq] at hsorted ⊢
          rcases ih hsorted.2 hbefore with ⟨hpairwise, hmem⟩
          exact ⟨hpairwise, fun other => by rw [hmem, List.mem_cons]; tauto⟩
      | false =>
          have hlt : name < next :=
            lt_of_le_of_ne (hsorted.1 next List.mem_cons_self) (ne_of_beq_false hsame)
          have hnext : ((name :: before).reverse ++ [next]).Pairwise (· < ·) := by
            rw [List.reverse_cons]
            refine List.pairwise_append.2 ⟨hbefore, List.pairwise_singleton _ _, ?_⟩
            intro earlier hearlier last hlast
            rw [List.mem_singleton.1 hlast]
            rcases List.mem_append.1 hearlier with hin | hin
            · exact lt_trans ((List.pairwise_append.1 hbefore).2.2 earlier hin name
                List.mem_cons_self) hlt
            · rwa [List.mem_singleton.1 hin]
          rcases ih hsorted.2 hnext with ⟨hpairwise, hmem⟩
          exact ⟨hpairwise, fun other => by rw [hmem, List.mem_cons, List.mem_cons]; tauto⟩

theorem pairwise_eraseReps {names : List String} (hsorted : names.Pairwise (· ≤ ·)) :
    names.eraseReps.Pairwise (· < ·) ∧ ∀ name, name ∈ names.eraseReps ↔ name ∈ names := by
  cases names with
  | nil => exact ⟨.nil, fun _ => Iff.rfl⟩
  | cons name rest =>
      rcases @pairwise_eraseRepsLoop name rest [] hsorted (List.pairwise_singleton _ _) with
        ⟨hpairwise, hmem⟩
      exact ⟨hpairwise, fun other => (hmem other).trans (by simp)⟩

/-!
# Listing
-/

namespace Context

variable {names others : List String}

theorem sorted_publicNames (names : List String) :
    ((names.filter fun name => name.toList.head? != some '_').mergeSort fun a b =>
      decide (a ≤ b)).Pairwise (· ≤ ·) :=
  (List.pairwise_mergeSort (by simpa using fun a b c => String.le_trans)
    (by simpa using String.le_total) _).imp (by simp)

theorem ascending_publicNames (names : List String) : Ascending (publicNames names) :=
  ascending_iff.2 (pairwise_eraseReps (sorted_publicNames names)).1

/-- Every public name is listed. -/
theorem mem_publicNames {name : String} : name ∈ publicNames names ↔ IsPublic name ∧ name ∈ names := by
  unfold publicNames
  rw [(pairwise_eraseReps (sorted_publicNames names)).2, List.mem_mergeSort, List.mem_filter,
    bne_iff_ne]
  exact and_comm

/-- Names are listed in one order, whatever the order in which the runtime answers them. -/
theorem publicNames_of_perm (hperm : names.Perm others) : publicNames names = publicNames others :=
  (ascending_publicNames names).eq_of_mem_iff (ascending_publicNames others) fun name => by
    rw [mem_publicNames, mem_publicNames, hperm.mem_iff]

end Context
end ForeignBridge
