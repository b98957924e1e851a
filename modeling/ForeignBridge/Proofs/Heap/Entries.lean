import Mathlib.Algebra.Order.Group.Multiset
import Mathlib.Data.List.Induction
import Mathlib.Tactic.Abel
import ForeignBridge.Heap.Table

/-!
# Values of attribute tables

A table that gets a new entry has one value more, or another one in the place of that of the same
name.  A table made of entries with different names has exactly their values.
-/

namespace ForeignBridge
namespace Table

variable {α : Type}

/-!
# Lookup
-/

theorem lookup_cons (name key : String) (value : α) (rest : List (String × α)) :
    ((key, value) :: rest).lookup name = if name = key then some value else rest.lookup name := by
  rw [List.lookup_cons]
  by_cases hname : name = key
  · rw [if_pos hname, beq_iff_eq.2 hname]
  · rw [if_neg hname, beq_eq_false_iff_ne.2 hname]

theorem lookup_insertEntry (name other : String) (value : α) (entries : List (String × α)) :
    (insertEntry name value entries).lookup other =
      if other = name then some value else entries.lookup other := by
  induction entries with
  | nil => exact lookup_cons other name value []
  | cons entry rest ih =>
      rcases entry with ⟨key, old⟩
      unfold insertEntry
      by_cases hlt : name < key
      · rw [if_pos hlt, lookup_cons]
      · rw [if_neg hlt]
        by_cases hname : name = key
        · rw [if_pos hname, lookup_cons, lookup_cons, hname]
          by_cases hother : other = key
          · rw [if_pos hother, if_pos hother]
          · rw [if_neg hother, if_neg hother, if_neg hother]
        · rw [if_neg hname, lookup_cons, lookup_cons, ih]
          by_cases hkey : other = key
          · rw [if_pos hkey, if_pos hkey, if_neg (fun h => hname (h.symm.trans hkey))]
          · rw [if_neg hkey, if_neg hkey]

theorem find?_insert (t : Table α) (name other : String) (value : α) :
    (t.insert name value).find? other = if other = name then some value else t.find? other :=
  lookup_insertEntry name other value t.entries

theorem mem_values_of_find? {t : Table α} {name : String} {value : α}
    (h : t.find? name = some value) : value ∈ t.values := by
  rcases List.lookup_eq_some_iff.1 h with ⟨before, after, hentries, -⟩
  unfold values
  rw [hentries, List.map_append]
  exact List.mem_append_right _ List.mem_cons_self

theorem lookup_eq_none_of_lt {name : String} {entries : List (String × α)}
    (h : ∀ key ∈ entries.map Prod.fst, name < key) : entries.lookup name = none := by
  induction entries with
  | nil => rfl
  | cons entry rest ih =>
      rw [List.map_cons, List.forall_mem_cons] at h
      have hne : name ≠ entry.1 := by
        intro heq
        rw [heq] at h
        exact String.lt_irrefl _ h.1
      rw [lookup_cons, if_neg hne]
      exact ih h.2

theorem mem_names_iff {t : Table α} {name : String} :
    name ∈ t.names ↔ ∃ value, t.find? name = some value := by
  rw [← not_iff_not, names, find?, List.mem_map]
  constructor
  · rintro hnot ⟨value, hvalue⟩
    obtain ⟨before, after, hentries, -⟩ := List.lookup_eq_some_iff.1 hvalue
    exact hnot ⟨(name, value), by rw [hentries]; simp, rfl⟩
  · rintro hnot ⟨⟨key, value⟩, hmem, rfl⟩
    cases hlookup : t.entries.lookup key with
    | some found => exact hnot ⟨found, hlookup⟩
    | none => simpa using List.lookup_eq_none_iff.1 hlookup _ hmem

theorem nodup_names (t : Table α) : t.names.Nodup :=
  t.sorted.imp_of_mem fun _ _ hlt heq => String.lt_irrefl _ (heq ▸ hlt)

/-!
# Values
-/

theorem values_insertEntry (name : String) (value : α) {entries : List (String × α)}
    (hsorted : (entries.map Prod.fst).Pairwise (· < ·)) :
    (((insertEntry name value entries).map Prod.snd : List α) : Multiset α) +
        (entries.lookup name).toList =
      {value} + (entries.map Prod.snd : List α) := by
  induction entries with
  | nil => rfl
  | cons entry rest ih =>
      rcases entry with ⟨key, old⟩
      rw [List.map_cons, List.pairwise_cons] at hsorted
      unfold insertEntry
      by_cases hlt : name < key
      · have hnone : ((key, old) :: rest).lookup name = none := by
          apply lookup_eq_none_of_lt
          rw [List.map_cons, List.forall_mem_cons]
          exact ⟨hlt, fun other hother => String.lt_trans hlt (hsorted.1 other hother)⟩
        rw [if_pos hlt, hnone, Option.toList_none, Multiset.coe_nil, add_zero,
          Multiset.singleton_add, Multiset.cons_coe]
        rfl
      · rw [if_neg hlt, lookup_cons]
        by_cases hname : name = key
        · rw [if_pos hname, if_pos hname, List.map_cons, List.map_cons,
            ← Multiset.cons_coe, ← Multiset.cons_coe, ← Multiset.singleton_add,
            ← Multiset.singleton_add, Option.toList_some, Multiset.coe_singleton]
          abel
        · rw [if_neg hname, if_neg hname, List.map_cons, List.map_cons,
            ← Multiset.cons_coe, ← Multiset.cons_coe, ← Multiset.singleton_add,
            ← Multiset.singleton_add, add_assoc, ih hsorted.2]
          abel

theorem values_insert (t : Table α) (name : String) (value : α) :
    ((t.insert name value).values : Multiset α) + (t.find? name).toList =
      {value} + (t.values : Multiset α) :=
  values_insertEntry name value t.sorted

/-!
# Repeated names

Of the entries of one name a table keeps the last one.  The values of the others are in it no more.
-/

/-- The values of the entries after which there is another one of the same name. -/
def overridden : List (String × α) → List α
  | [] => []
  | entry :: rest =>
    if entry.1 ∈ rest.map Prod.fst then entry.2 :: overridden rest else overridden rest

section Overridden

variable {entry : String × α} {rest : List (String × α)}

theorem overridden_of_mem (h : entry.1 ∈ rest.map Prod.fst) :
    overridden (entry :: rest) = entry.2 :: overridden rest := if_pos h

theorem overridden_of_not_mem (h : entry.1 ∉ rest.map Prod.fst) :
    overridden (entry :: rest) = overridden rest := if_neg h

end Overridden

theorem overridden_eq_nil_iff {entries : List (String × α)} :
    overridden entries = [] ↔ (entries.map Prod.fst).Nodup := by
  induction entries with
  | nil => exact iff_of_true rfl List.nodup_nil
  | cons entry rest ih =>
      rw [List.map_cons, List.nodup_cons]
      by_cases hrepeated : entry.1 ∈ rest.map Prod.fst
      · rw [overridden_of_mem hrepeated]
        exact iff_of_false (List.cons_ne_nil _ _) fun h => h.1 hrepeated
      · rw [overridden_of_not_mem hrepeated, ih]
        exact (and_iff_right hrepeated).symm

theorem ofList_concat (entries : List (String × α)) (entry : String × α) :
    ofList (entries ++ [entry]) = (ofList entries).insert entry.1 entry.2 := by
  unfold ofList
  rw [List.foldl_append]
  rfl

theorem find?_ofList (entries : List (String × α)) (name : String) :
    (ofList entries).find? name = entries.reverse.lookup name := by
  induction entries using List.reverseRecOn with
  | nil => rfl
  | append_singleton entries entry ih =>
      rw [ofList_concat, find?_insert, ih, List.reverse_append]
      exact (lookup_cons name entry.1 entry.2 entries.reverse).symm

theorem lookup_reverse_eq_none_iff {entries : List (String × α)} {name : String} :
    entries.reverse.lookup name = none ↔ name ∉ entries.map Prod.fst := by
  rw [List.lookup_eq_none_iff, List.mem_map]
  constructor
  · rintro hnone ⟨entry, hentry, rfl⟩
    exact absurd rfl (bne_iff_ne.1 (hnone entry (List.mem_reverse.2 hentry)))
  · intro hnot entry hentry
    rw [bne_iff_ne]
    rintro rfl
    exact hnot ⟨entry, List.mem_reverse.1 hentry, rfl⟩

/-- One more entry overrides the last one of its name. -/
theorem overridden_concat (entries : List (String × α)) (entry : String × α) :
    (overridden (entries ++ [entry]) : Multiset α) =
      (entries.reverse.lookup entry.1).toList + (overridden entries : Multiset α) := by
  induction entries with
  | nil => rfl
  | cons first rest ih =>
      have hnames : (rest ++ [entry]).map Prod.fst = rest.map Prod.fst ++ [entry.1] := List.map_append
      rw [List.cons_append, List.reverse_cons, List.lookup_append]
      by_cases hrepeated : first.1 ∈ rest.map Prod.fst
      · have hmem : first.1 ∈ (rest ++ [entry]).map Prod.fst := by
          rw [hnames]
          exact List.mem_append_left _ hrepeated
        have hlookup : (rest.reverse.lookup entry.1).or ([first].lookup entry.1) =
            rest.reverse.lookup entry.1 := by
          rw [lookup_cons]
          by_cases hname : entry.1 = first.1
          · have hsome : rest.reverse.lookup entry.1 ≠ none := by
              rw [hname, Ne, lookup_reverse_eq_none_iff, not_not]
              exact hrepeated
            exact Option.or_of_isSome (Option.isSome_iff_ne_none.2 hsome)
          · rw [if_neg hname]
            exact Option.or_none
        rw [overridden_of_mem hmem, overridden_of_mem hrepeated, hlookup, ← Multiset.cons_coe, ih,
          ← Multiset.cons_coe, Multiset.add_cons]
      · by_cases hname : first.1 = entry.1
        · have hmem : first.1 ∈ (rest ++ [entry]).map Prod.fst := by
            rw [hnames, hname]
            exact List.mem_append_right _ List.mem_cons_self
          have hnone : rest.reverse.lookup entry.1 = none := by
            rw [lookup_reverse_eq_none_iff, ← hname]
            exact hrepeated
          rw [hnone, Option.toList_none, Multiset.coe_nil, zero_add] at ih
          rw [overridden_of_mem hmem, overridden_of_not_mem hrepeated, hnone, lookup_cons,
            if_pos hname.symm, ← Multiset.cons_coe, ih, ← Multiset.singleton_add]
          rfl
        · have hnot : first.1 ∉ (rest ++ [entry]).map Prod.fst := by
            rw [hnames, List.mem_append, List.mem_singleton]
            exact not_or.2 ⟨hrepeated, hname⟩
          rw [overridden_of_not_mem hnot, overridden_of_not_mem hrepeated, ih, lookup_cons,
            if_neg (Ne.symm hname), List.lookup_nil, Option.or_none]

/-- Every entry has its value in the table, or is overridden. -/
theorem values_ofList_add_overridden (entries : List (String × α)) :
    ((ofList entries).values : Multiset α) + overridden entries =
      (entries.map Prod.snd : List α) := by
  induction entries using List.reverseRecOn with
  | nil => rfl
  | append_singleton entries entry ih =>
      have hvalues := values_insert (ofList entries) entry.1 entry.2
      rw [find?_ofList] at hvalues
      rw [ofList_concat, overridden_concat, ← add_assoc, hvalues, add_assoc, ih, List.map_append,
        ← Multiset.coe_add, add_comm]
      rfl

/-- A table of entries with different names has exactly their values. -/
theorem values_ofList {entries : List (String × α)} (hnodup : (entries.map Prod.fst).Nodup) :
    ((ofList entries).values : Multiset α) = (entries.map Prod.snd : List α) := by
  have h := values_ofList_add_overridden entries
  rw [overridden_eq_nil_iff.2 hnodup] at h
  exact (add_zero _).symm.trans h

end Table
end ForeignBridge
