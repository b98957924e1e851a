import ForeignBridge.Proofs.Fields.Store
import ForeignBridge.Proofs.Heap.Covering
import ForeignBridge.Proofs.Interpreter.Lending
import ForeignBridge.Proofs.Session.Serving

/-!
# Fields in an interpreter

A dictionary of an interpreter keeps references to the names of its fields as well as to their
texts, in the order in which the names came.  Short texts exist once only, so that a name and a text
may well be the same object.
-/

namespace ForeignBridge

namespace Interpreter

def ofText (text : String) : Object := ⟨.text (.ofString text), none, none⟩

/-- A field of a dictionary, with the references that the dictionary keeps to it. -/
structure Slot where
  name : String
  text : String
  key : Ref
  value : Ref

namespace Slot

def entry (slot : Slot) : Ref × Ref := (slot.key, slot.value)

/-- What a field refers to is there. -/
def In (slot : Slot) (h : Heap Object) : Prop :=
  h.get? slot.key = some (ofText slot.name) ∧ h.get? slot.value = some (ofText slot.text)

/-- The references that a dictionary keeps to its fields. -/
def refs (slots : List Slot) : Multiset Ref :=
  (slots.map Slot.key : Multiset Ref) + (slots.map Slot.value : Multiset Ref)

/-- A table has the fields, each under its own name. -/
structure Spell (slots : List Slot) (t : Table String) : Prop where
  distinct : (slots.map Slot.name).Nodup
  fields : ∀ name text, (∃ slot ∈ slots, slot.name = name ∧ slot.text = text) ↔
    t.find? name = some text

/-- A field gets another text. -/
def replace (name text : String) (value : Ref) (slots : List Slot) : List Slot :=
  slots.map fun slot => if slot.name = name then { slot with text, value } else slot

variable {slots rest : List Slot} {slot : Slot} {t : Table String} {name text : String}
  {value : Ref}

theorem Spell.perm_names (hs : Spell slots t) : (slots.map Slot.name).Perm t.names := by
  refine (List.perm_ext_iff_of_nodup hs.distinct t.nodup_names).2 fun name => ?_
  rw [Table.mem_names_iff, List.mem_map]
  constructor
  · rintro ⟨slot, hslot, rfl⟩
    exact ⟨slot.text, (hs.fields _ _).1 ⟨slot, hslot, rfl, rfl⟩⟩
  · rintro ⟨text, htext⟩
    obtain ⟨slot, hslot, hname, -⟩ := (hs.fields _ _).2 htext
    exact ⟨slot, hslot, hname⟩

theorem Spell.find?_some (hs : Spell slots t) (hfound : t.find? name = some text) :
    ∃ slot ∈ slots, slots.find? (fun slot => slot.name = name) = some slot ∧ slot.text = text := by
  obtain ⟨witness, hwitness, hname, -⟩ := (hs.fields name text).2 hfound
  cases hfind : slots.find? fun slot => slot.name = name with
  | none => exact absurd (decide_eq_true hname) (List.find?_eq_none.1 hfind witness hwitness)
  | some slot =>
      have hslot := List.mem_of_find?_eq_some hfind
      have hsame : slot.name = name := by simpa using List.find?_some hfind
      have hread := (hs.fields name slot.text).1 ⟨slot, hslot, hsame, rfl⟩
      rw [hfound] at hread
      exact ⟨slot, hslot, rfl, (Option.some.inj hread).symm⟩

theorem Spell.find?_none (hs : Spell slots t) (hmissing : t.find? name = none) :
    slots.find? (fun slot => slot.name = name) = none := by
  refine List.find?_eq_none.2 fun slot hslot hname => ?_
  have hread := (hs.fields name slot.text).1 ⟨slot, hslot, of_decide_eq_true hname, rfl⟩
  rw [hmissing] at hread
  cases hread

/-- A field is written, whether there was one of its name before or not. -/
theorem Spell.put {old : Option Slot} (hs : Spell (rest ++ old.toList) t)
    (hold : ∀ other ∈ old, other.name = slot.name)
    (hrest : ∀ other ∈ rest, other.name ≠ slot.name) :
    Spell (rest ++ [slot]) (t.insert slot.name slot.text) := by
  have hothers : ∀ name ≠ slot.name, ∀ text,
      (∃ other ∈ rest ++ [slot], other.name = name ∧ other.text = text) ↔
        ∃ other ∈ rest ++ old.toList, other.name = name ∧ other.text = text := by
    intro name hname text
    refine exists_congr fun other => and_congr_left fun hother => ?_
    have hne : other.name ≠ slot.name := hother.1 ▸ hname
    rw [List.mem_append, List.mem_append, List.mem_singleton, Option.mem_toList]
    refine or_congr_right ⟨fun heq => absurd (congrArg Slot.name heq) hne, fun hmem => ?_⟩
    exact absurd (hold other hmem) hne
  constructor
  · rw [List.map_append, List.nodup_append]
    refine ⟨(List.map_append ▸ hs.distinct).of_append_left, List.nodup_singleton _,
      fun a ha b hb => ?_⟩
    obtain ⟨other, hother, rfl⟩ := List.mem_map.1 ha
    rw [List.mem_singleton.1 hb]
    exact hrest other hother
  · intro name text
    rw [Table.find?_insert]
    by_cases hname : name = slot.name
    · rw [if_pos hname, Option.some_inj, hname]
      constructor
      · rintro ⟨other, hother, hsame, rfl⟩
        rcases List.mem_append.1 hother with hother | hother
        · exact absurd hsame (hrest other hother)
        · rw [List.mem_singleton.1 hother]
      · rintro rfl
        exact ⟨slot, List.mem_append_right _ (List.mem_singleton.2 rfl), rfl, rfl⟩
    · rw [if_neg hname, ← hs.fields]
      exact hothers name hname text

theorem Spell.of_perm {others : List Slot} (hs : Spell slots t) (hperm : others.Perm slots) :
    Spell others t := by
  refine ⟨(hperm.map Slot.name).nodup_iff.2 hs.distinct, fun name text => ?_⟩
  rw [← hs.fields]
  exact exists_congr fun slot => and_congr_left fun _ => hperm.mem_iff

theorem refs_of_perm {others : List Slot} (hperm : others.Perm slots) :
    refs others = refs slots := by
  rw [refs, refs, Multiset.coe_eq_coe.2 (hperm.map key),
    Multiset.coe_eq_coe.2 (hperm.map Slot.value)]

theorem refs_append (slots : List Slot) (slot : Slot) :
    refs (slots ++ [slot]) = slot.key ::ₘ slot.value ::ₘ refs slots := by
  simp only [refs, List.map_append, List.map_singleton, ← Multiset.coe_add,
    Multiset.coe_singleton, ← Multiset.singleton_add]
  abel

/-- Only one field has the name of a field. -/
theorem exists_rest (hdistinct : (slots.map Slot.name).Nodup) (hslot : slot ∈ slots)
    (text : String) (value : Ref) :
    ∃ rest, slots.Perm (rest ++ [slot]) ∧
      (replace slot.name text value slots).Perm (rest ++ [{ slot with text, value }]) ∧
      ∀ other ∈ rest, other.name ≠ slot.name := by
  obtain ⟨before, after, rfl⟩ := List.append_of_mem hslot
  rw [List.map_append, List.map_cons, List.nodup_middle, List.nodup_cons, ← List.map_append]
    at hdistinct
  have hothers : ∀ other ∈ before ++ after, other.name ≠ slot.name := fun other hother hname =>
    hdistinct.1 (List.mem_map.2 ⟨other, hother, hname⟩)
  have hkept : ∀ others : List Slot, (∀ other ∈ others, other ∈ before ++ after) →
      replace slot.name text value others = others := fun others hsubset =>
    (List.map_congr_left fun other hother => if_neg (hothers other (hsubset other hother))).trans
      (List.map_id others)
  refine ⟨before ++ after, ?_, ?_, hothers⟩
  · exact List.perm_middle.trans (List.perm_append_singleton _ _).symm
  · have hnew : replace slot.name text value (before ++ slot :: after) =
        before ++ { slot with text, value } :: after := by
      rw [replace, List.map_append, List.map_cons, if_pos rfl]
      congr 1
      · exact hkept before fun other => List.mem_append_left after
      · congr 1
        exact hkept after fun other => List.mem_append_right before
    rw [hnew]
    exact List.perm_middle.trans (List.perm_append_singleton _ _).symm

end Slot

/-!
# Dictionaries
-/

/-- Objects of which the interpreter keeps an owner of its own, or the host does. -/
def Lasting (bag ref : Ref) : Prop := ref = bag ∨ ∃ content, uniqueRef? content = some ref

/-- A dictionary has the fields of a table, and what exists only once is in its place. -/
structure Lists (bag : Ref) (t : Table String) (slots : List Slot) (h : Heap Object) : Prop where
  dict : h.get? bag = some ⟨.dict (slots.map Slot.entry), none, none⟩
  present : ∀ slot ∈ slots, slot.In h
  spell : Slot.Spell slots t
  unique : ∀ content ref, uniqueRef? content = some ref → h.get? ref = some ⟨content, none, none⟩

variable {bag ref : Ref} {t : Table String} {slots : List Slot} {h h' : Heap Object}
  {held : Multiset Ref} {name text : String} {base : Interpreter}

namespace Lists

/-- Fields stay as they are while what they refer to lives. -/
theorem older (hl : Lists bag t slots h) (hold : h.Older h')
    (hlasting : ∀ ref, Lasting bag ref → ∃ object, h'.get? ref = some object)
    (hkept : ∀ ref ∈ Slot.refs slots, ∃ object, h'.get? ref = some object) :
    Lists bag t slots h' where
  dict := hold.get?_of_live hl.dict (hlasting bag (.inl rfl))
  present slot hslot := by
    have hkey : slot.key ∈ Slot.refs slots :=
      Multiset.mem_add.2 (.inl (List.mem_map_of_mem hslot))
    have hvalue : slot.value ∈ Slot.refs slots :=
      Multiset.mem_add.2 (.inr (List.mem_map_of_mem hslot))
    exact ⟨hold.get?_of_live (hl.present slot hslot).1 (hkept _ hkey),
      hold.get?_of_live (hl.present slot hslot).2 (hkept _ hvalue)⟩
  spell := hl.spell
  unique content ref hunique :=
    hold.get?_of_live (hl.unique content ref hunique) (hlasting ref (.inr ⟨content, hunique⟩))

/-- What is no dictionary stays as it is when one is written. -/
theorem get?_store {object : Object} {content : Content} (hl : Lists bag t slots h)
    (hget : h.get? ref = some ⟨content, none, none⟩)
    (hcontent : ∀ entries, content ≠ .dict entries) :
    (h.setContent bag object).get? ref = some ⟨content, none, none⟩ := by
  rw [Heap.get?_setContent hl.dict, if_neg, hget]
  rintro rfl
  rw [hl.dict] at hget
  cases hget
  exact hcontent _ rfl

/-- Other fields are put into a dictionary. -/
theorem store {others : List Slot} {t' : Table String} (hl : Lists bag t slots h)
    (hothers : ∀ slot ∈ others, slot.In h) (hspell : Slot.Spell others t') :
    Lists bag t' others (h.setContent bag ⟨.dict (others.map Slot.entry), none, none⟩) where
  dict := by rw [Heap.get?_setContent hl.dict, if_pos rfl]
  present slot hslot := ⟨hl.get?_store (hothers slot hslot).1 nofun,
    hl.get?_store (hothers slot hslot).2 nofun⟩
  spell := hspell
  unique content ref hunique := by
    refine hl.get?_store (hl.unique content ref hunique) ?_
    rintro entries rfl
    cases hunique

end Lists

/-- The fields of a dictionary, which owns what they refer to. -/
def fields (bag : Ref) (t : Table String) (slots : List Slot) : Heap.Keeping Object where
  lasting := Lasting bag
  kept := Slot.refs slots
  describes := Lists bag t slots
  steady := Lists.older

/-- A reference to a plain object that takes nothing with it is given back. -/
theorem run_release_held {content : Content} (base : Interpreter)
    (ho : (fields bag t slots).Holds (ref ::ₘ held) h)
    (hget : h.get? ref = some ⟨content, none, none⟩)
    (halone : h.owners ref = 1 → content.children = []) :
    (release ref).run (base.withHeap h) = ((), base.withHeap (h.release ref).heap) ∧
      (fields bag t slots).Holds held (h.release ref).heap := by
  rw [← children_plain content] at halone
  refine ⟨run_release fun object hobject => ?_, ho.release hget halone⟩
  rw [(Heap.release_alone hget halone).2.1 object hobject]

/-- Other fields are put into a dictionary, which owns other references then. -/
theorem holds_store {others : List Slot} {t' : Table String} {held' : Multiset Ref}
    (ho : (fields bag t slots).Holds held h) (hothers : ∀ slot ∈ others, slot.In h)
    (hspell : Slot.Spell others t') (hmoved : Slot.refs others + held' = Slot.refs slots + held) :
    (fields bag t' others).Holds held'
      (h.setContent bag ⟨.dict (others.map Slot.entry), none, none⟩) := by
  have hc : h.Covers (Lasting bag) (Slot.refs slots + held) := ho.covers
  rw [← hmoved] at hc
  exact ⟨ho.said.store hothers hspell, hc.setContent _⟩

/-- The text of a field is replaced; the dictionary gives up the one that was there. -/
theorem holds_replace {slot : Slot} {value : Ref}
    (ho : (fields bag t slots).Holds (value ::ₘ held) h) (hslot : slot ∈ slots)
    (hvalue : h.get? value = some (ofText text)) :
    (fields bag (t.insert slot.name text) (Slot.replace slot.name text value slots)).Holds
      (slot.value ::ₘ held) (h.setContent bag
        ⟨.dict ((Slot.replace slot.name text value slots).map Slot.entry), none, none⟩) := by
  obtain ⟨rest, hperm, hreplaced, hothers⟩ :=
    Slot.exists_rest ho.said.spell.distinct hslot text value
  refine holds_store ho (fun other hother => ?_) ?_ ?_
  · rcases List.mem_append.1 (hreplaced.mem_iff.1 hother) with hother | hother
    · exact ho.said.present other (hperm.mem_iff.2 (List.mem_append_left _ hother))
    · rw [List.mem_singleton.1 hother]
      exact ⟨(ho.said.present slot hslot).1, hvalue⟩
  · have hspell : Slot.Spell (rest ++ (some slot).toList) t := ho.said.spell.of_perm hperm.symm
    have hput : Slot.Spell (rest ++ [{ slot with text, value }]) (t.insert slot.name text) :=
      hspell.put (fun other hother => by rw [Option.some.inj hother]) hothers
    exact hput.of_perm hreplaced
  · rw [Slot.refs_of_perm hreplaced, Slot.refs_of_perm hperm, Slot.refs_append, Slot.refs_append]
    simp only [← Multiset.singleton_add]
    abel

/-- A field of a new name is put into a dictionary. -/
theorem holds_append (slot : Slot)
    (ho : (fields bag t slots).Holds (slot.key ::ₘ slot.value ::ₘ held) h)
    (hnew : ∀ other ∈ slots, other.name ≠ slot.name) (hslot : slot.In h) :
    (fields bag (t.insert slot.name slot.text) (slots ++ [slot])).Holds held
      (h.setContent bag ⟨.dict ((slots ++ [slot]).map Slot.entry), none, none⟩) := by
  refine holds_store ho (fun other hother => ?_) ?_ ?_
  · rcases List.mem_append.1 hother with hother | hother
    · exact ho.said.present other hother
    · rw [List.mem_singleton.1 hother]
      exact hslot
  · have hspell : Slot.Spell (slots ++ (none : Option Slot).toList) t := by
      rw [Option.toList_none, List.append_nil]
      exact ho.said.spell
    exact hspell.put nofun hnew
  · rw [Slot.refs_append]
    simp only [← Multiset.singleton_add]
    abel

/-!
# Finding
-/

theorem ofText_injective {a b : String} (h : ofText a = ofText b) : a = b :=
  CodePoints.ofString_injective (Content.text.inj (congrArg Object.content h))

/-- Texts are equal if they are written alike. -/
theorem equalWithin_text {a b : Ref} {other : String} (depth : Nat)
    (ha : h.get? a = some (ofText name)) (hb : h.get? b = some (ofText other)) :
    equalWithin h (depth + 1) a b = decide (name = other) := by
  have hcodes : (CodePoints.ofString name == CodePoints.ofString other) =
      decide (name = other) := by
    rw [Bool.eq_iff_iff, beq_iff_eq, decide_eq_true_iff]
    exact ⟨CodePoints.ofString_injective, congrArg _⟩
  have hcontents : (equalContents? (equalWithin h depth) (ofText name).content
      (ofText other).content).getD false = decide (name = other) := hcodes
  rw [equalWithin, ha, hb]
  show (a == b || (equalContents? (equalWithin h depth) (ofText name).content
    (ofText other).content).getD false) = _
  rw [hcontents]
  by_cases hab : a = b
  · subst hab
    rw [ha] at hb
    rw [ofText_injective (Option.some.inj hb), decide_eq_true rfl, Bool.or_true]
  · rw [beq_false_of_ne hab, Bool.false_or]

/-- The entry of a dictionary under a key is the field of the name that the key spells. -/
theorem find?_entries {key : Ref} (hslots : ∀ slot ∈ slots, slot.In h)
    (hkey : h.get? key = some (ofText name)) :
    (slots.map Slot.entry).find? (fun entry => equalWithin h 1000 entry.1 key) =
      (slots.find? fun slot => slot.name = name).map Slot.entry := by
  rw [List.find?_map]
  congr 1
  apply List.find?_congr
  intro slot hslot
  exact equalWithin_text 999 (hslots slot hslot).1 hkey

theorem run_findEntry {key : Ref} (hslots : ∀ slot ∈ slots, slot.In h)
    (hkey : h.get? key = some (ofText name)) :
    (findEntry key (slots.map Slot.entry)).run (base.withHeap h) =
      ((slots.find? fun slot => slot.name = name).map Slot.value, base.withHeap h) := by
  show (((slots.map Slot.entry).find? fun entry => equalWithin h 1000 entry.1 key).map Prod.snd,
    base.withHeap h) = _
  rw [find?_entries hslots hkey, Option.map_map]
  rfl

/-- The entry under a key that is there is replaced, and no other one. -/
theorem map_entries {key value : Ref} (hslots : ∀ slot ∈ slots, slot.In h)
    (hkey : h.get? key = some (ofText name)) :
    ((slots.map Slot.entry).map fun entry =>
      if equalWithin h 1000 entry.1 key then (entry.1, value) else entry) =
        (Slot.replace name text value slots).map Slot.entry := by
  rw [Slot.replace, List.map_map, List.map_map]
  refine List.map_congr_left fun slot hslot => ?_
  have hequal := equalWithin_text 999 (hslots slot hslot).1 hkey
  show (if equalWithin h 1000 slot.key key then (slot.key, value) else slot.entry) = _
  rw [hequal]
  by_cases hname : slot.name = name
  · rw [Function.comp_apply, if_pos hname, if_pos (decide_eq_true hname)]
    rfl
  · rw [Function.comp_apply, if_neg hname, if_neg fun h => hname (of_decide_eq_true h)]

/-!
# Texts
-/

/-- A reference to a text that is unique or new. -/
theorem exists_make_text (base : Interpreter) (ho : (fields bag t slots).Holds held h)
    (text : String) :
    ∃ ref h', (make (.text (.ofString text))).run (base.withHeap h) = (ref, base.withHeap h') ∧
      (fields bag t slots).Holds (ref ::ₘ held) h' ∧ h'.get? ref = some (ofText text) ∧
      h.Older h' := by
  unfold make
  cases hunique : uniqueRef? (.text (.ofString text)) with
  | some ref =>
      have hthere := ho.said.unique _ _ hunique
      obtain ⟨h', hretain⟩ := Heap.exists_retain? hthere
      exact ⟨ref, h', run_retain hretain, ho.retain hretain,
        (Heap.get?_retain hretain ref).trans hthere, .retain hretain⟩
  | none =>
      exact ⟨_, _, rfl, ho.allocate (ofText text), Heap.get?_allocate h (ofText text),
        .allocate h (ofText text)⟩

/-- Texts to which references are held stay as they are. -/
def Spares (held : Multiset Ref) (h h' : Heap Object) : Prop :=
  ∀ ref ∈ held, ∀ text, h.get? ref = some (ofText text) → h'.get? ref = some (ofText text)

theorem spares_of_older (ho : (fields bag t slots).Holds held h') (hold : h.Older h') :
    Spares held h h' := fun _ href _ hget => ho.get?_of_held hold href hget

/-- The field of a name, if there is one. -/
theorem exists_findNamed (base : Interpreter) (ho : (fields bag t slots).Holds held h)
    (name : String) :
    ∃ h', (findNamed name (slots.map Slot.entry)).run (base.withHeap h) =
        ((slots.find? fun slot => slot.name = name).map Slot.value, base.withHeap h') ∧
      (fields bag t slots).Holds held h' := by
  obtain ⟨key, h₁, hmake, ho₁, hkey, -⟩ := exists_make_text base ho name
  obtain ⟨hrelease, ho'⟩ := run_release_held base ho₁ hkey fun _ => rfl
  refine ⟨(h₁.release key).heap, ?_, ho'⟩
  unfold findNamed
  rw [run_bind, hmake, run_bind, run_findEntry ho₁.said.present hkey, run_bind, hrelease]
  rfl

/-!
# Writing
-/

theorem run_discard_retain (hretain : h.retain? ref = some h') :
    (discard (Interpreter.retain ref)).run (base.withHeap h) = ((), base.withHeap h') := by
  show ((), ((Interpreter.retain ref).run (base.withHeap h)).2) = _
  rw [run_retain hretain]

/-- A text is put into a dictionary under a key, both of which are held. -/
theorem exists_insertEntry (base : Interpreter) {key value : Ref}
    (ho : (fields bag t slots).Holds held h) (hkeyHeld : key ∈ held) (hvalueHeld : value ∈ held)
    (hkey : h.get? key = some (ofText name)) (hvalue : h.get? value = some (ofText text)) :
    ∃ slots' h', (insertEntry bag key value).run (base.withHeap h) = ((), base.withHeap h') ∧
      (fields bag (t.insert name text) slots').Holds held h' ∧ Spares held h h' := by
  obtain ⟨h₁, hretain⟩ := Heap.exists_retain? hvalue
  have ho₁ := ho.retain hretain
  have hkept₁ := spares_of_older ho₁ (.retain hretain)
  have hkey₁ := hkept₁ key (Multiset.mem_cons_of_mem hkeyHeld) name hkey
  have hvalue₁ := hkept₁ value (Multiset.mem_cons_of_mem hvalueHeld) text hvalue
  have hobject : (object bag).run (base.withHeap h) =
      (⟨.dict (slots.map Slot.entry), none, none⟩, base.withHeap h) := run_object ho.said.dict
  unfold insertEntry
  rw [run_bind, hobject]
  dsimp only
  rw [run_bind, run_discard_retain hretain, run_bind, run_findEntry ho₁.said.present hkey₁]
  cases hfound : slots.find? fun slot => slot.name = name with
  | some slot =>
      obtain rfl : slot.name = name := by simpa using List.find?_some hfound
      have hslot := List.mem_of_find?_eq_some hfound
      have hstored := holds_replace ho₁ hslot hvalue₁
      have hold : (h₁.setContent bag ⟨.dict ((Slot.replace slot.name text value slots).map
          Slot.entry), none, none⟩).get? slot.value = some (ofText slot.text) :=
        ho₁.said.get?_store (ho₁.said.present slot hslot).2 nofun
      obtain ⟨hrelease, ho'⟩ := run_release_held base hstored hold fun _ => rfl
      refine ⟨_, _, ?_, ho', fun ref href other hget => ?_⟩
      · rw [← hrelease, ← map_entries ho₁.said.present hkey₁]
        rfl
      · exact spares_of_older ho' (.releaseAll _ [slot.value]) ref href other
          (ho₁.said.get?_store (hkept₁ ref (Multiset.mem_cons_of_mem href) other hget) nofun)
  | none =>
      obtain ⟨h₂, hretain₂⟩ := Heap.exists_retain? hkey₁
      have ho₂ := ho₁.retain hretain₂
      have hkept₂ : Spares held h₁ h₂ := fun ref href => spares_of_older ho₂ (.retain hretain₂) ref
        (Multiset.mem_cons_of_mem (Multiset.mem_cons_of_mem href))
      have hnew : ∀ slot ∈ slots, slot.name ≠ name := fun slot hslot hname =>
        List.find?_eq_none.1 hfound slot hslot (decide_eq_true hname)
      refine ⟨_, _, ?_, holds_append ⟨name, text, key, value⟩ ho₂ hnew
        ⟨hkept₂ key hkeyHeld name hkey₁, hkept₂ value hvalueHeld text hvalue₁⟩,
        fun ref href other hget => ?_⟩
      · dsimp only [Option.map_none]
        rw [run_bind, run_discard_retain hretain₂, List.map_append]
        rfl
      · exact ho₂.said.get?_store (hkept₂ ref href other
          (hkept₁ ref (Multiset.mem_cons_of_mem href) other hget)) nofun

/-!
# Members
-/

theorem run_checkName (hplain : name.toList.contains '\x00' = false) (s : Interpreter) :
    (checkName name).run.run s = (.ok (), s) := by
  unfold checkName
  rw [if_neg (by rw [hplain]; exact Bool.false_ne_true)]
  rfl

theorem run_content_dict (ho : (fields bag t slots).Holds held h) :
    (content bag).run (base.withHeap h) = (.dict (slots.map Slot.entry), base.withHeap h) :=
  run_content_of_get? (s := base.withHeap h) ho.said.dict

/-- A text is put into a field. -/
theorem exists_setMember (base : Interpreter) (ho : (fields bag t slots).Holds held h)
    (href : ref ∈ held) (hget : h.get? ref = some (ofText text))
    (hplain : name.toList.contains '\x00' = false) :
    ∃ slots' h', (setMember bag name ref).run.run (base.withHeap h) = (.ok (), base.withHeap h') ∧
      (fields bag (t.insert name text) slots').Holds held h' ∧
      h'.get? ref = some (ofText text) := by
  obtain ⟨key, h₁, hmake, ho₁, hkey, hold₁⟩ := exists_make_text base ho name
  have hmem := Multiset.mem_cons_of_mem (b := key) href
  have hget₁ := spares_of_older ho₁ hold₁ ref hmem text hget
  obtain ⟨slots', h₂, hinsert, ho₂, hkept₂⟩ := exists_insertEntry base ho₁
    (Multiset.mem_cons_self key held) hmem hkey hget₁
  have hkey₂ := hkept₂ key (Multiset.mem_cons_self key held) name hkey
  obtain ⟨hrelease, ho'⟩ := run_release_held base ho₂ hkey₂ fun _ => rfl
  refine ⟨slots', _, ?_, ho', spares_of_older ho' (.releaseAll h₂ [key]) ref href text
    (hkept₂ ref hmem text hget₁)⟩
  unfold setMember
  rw [run_act_bind (run_checkName hplain _), run_lift_bind, run_content_dict ho]
  dsimp only
  rw [run_lift_bind, hmake, run_lift_bind, hinsert]
  show (Except.ok ((release key).run (base.withHeap h₂)).1,
    ((release key).run (base.withHeap h₂)).2) = _
  rw [hrelease]

/-- The text of a field is read. -/
theorem exists_getMember (base : Interpreter) (ho : (fields bag t slots).Holds held h)
    (hfound : t.find? name = some text) (hplain : name.toList.contains '\x00' = false) :
    ∃ ref h', (getMember bag name).run.run (base.withHeap h) = (.ok ref, base.withHeap h') ∧
      (fields bag t slots).Holds (ref ::ₘ held) h' ∧ h'.get? ref = some (ofText text) := by
  obtain ⟨h₁, hfind, ho₁⟩ := exists_findNamed base ho name
  obtain ⟨slot, hslot, hsame, rfl⟩ := ho.said.spell.find?_some hfound
  have hget := (ho₁.said.present slot hslot).2
  obtain ⟨h', hretain⟩ := Heap.exists_retain? hget
  refine ⟨slot.value, h', ?_, ho₁.retain hretain, (Heap.get?_retain hretain _).trans hget⟩
  unfold getMember
  rw [run_act_bind (run_checkName hplain _), run_lift_bind, run_content_dict ho]
  dsimp only
  rw [run_lift_bind, hfind, hsame]
  show (Except.ok ((Interpreter.retain slot.value).run (base.withHeap h₁)).1,
    ((Interpreter.retain slot.value).run (base.withHeap h₁)).2) = _
  rw [run_retain hretain]

/-- There is no field of a name. -/
theorem exists_getMember_missing (base : Interpreter) (ho : (fields bag t slots).Holds held h)
    (hmissing : t.find? name = none) (hplain : name.toList.contains '\x00' = false) :
    ∃ h', (getMember bag name).run.run (base.withHeap h) =
      (.error (FieldOperation.missing name), base.withHeap h') ∧
        (fields bag t slots).Holds held h' := by
  obtain ⟨h₁, hfind, ho₁⟩ := exists_findNamed base ho name
  have htype : (typeName bag).run (base.withHeap h₁) = ("dict", base.withHeap h₁) :=
    Prod.ext (run_typeName_plain (s := base.withHeap h₁) ho₁.said.dict) rfl
  refine ⟨h₁, ?_, ho₁⟩
  unfold getMember
  rw [run_act_bind (run_checkName hplain _), run_lift_bind, run_content_dict ho]
  dsimp only
  rw [run_lift_bind, hfind, ho.said.spell.find?_none hmissing]
  dsimp only [Option.map_none]
  rw [run_lift_bind, htype]
  rfl

theorem run_textKeys (hslots : ∀ slot ∈ slots, slot.In h) :
    (textKeys ((slots.map Slot.entry).map Prod.fst)).run (base.withHeap h) =
      (slots.map fun slot => CodePoints.ofString slot.name, base.withHeap h) := by
  unfold textKeys
  rw [run_bind, run_mapM_content, List.map_map, List.map_map]
  refine congrArg (·, base.withHeap h) ?_
  dsimp only
  rw [List.filterMap_map]
  refine (List.filterMap_congr (g := fun slot => some (CodePoints.ofString slot.name))
    fun slot hslot => ?_).trans (congrFun List.filterMap_eq_map' slots)
  have hkey : (base.withHeap h).heap.get? slot.key = some (ofText slot.name) :=
    (hslots slot hslot).1
  simp only [Function.comp_apply, Slot.entry, hkey]
  rfl

/-- Names are written as strings. -/
theorem run_strings (names : List String) (s : Interpreter) :
    (strings (names.map CodePoints.ofString)).run s = (names, s) := by
  have hplain : ((names.map CodePoints.ofString).any
      fun codes => codes.any CodePoints.isSurrogate) = false := by
    rw [List.any_map, List.any_eq_false]
    intro name _
    rw [Function.comp_apply, CodePoints.any_isSurrogate_ofString]
    exact Bool.false_ne_true
  have hstrings : (names.map CodePoints.ofString).filterMap CodePoints.toString? = names := by
    rw [List.filterMap_map, funext (f := CodePoints.toString? ∘ CodePoints.ofString)
      CodePoints.toString?_ofString, List.filterMap_some]
  unfold strings
  rw [hplain, if_neg Bool.false_ne_true, hstrings]
  rfl

/-- The names of the fields are listed, in the order in which they came. -/
theorem run_memberNames (ho : (fields bag t slots).Holds held h) :
    (memberNames bag).run.run (base.withHeap h) =
      (.ok (slots.map Slot.name), base.withHeap h) := by
  have hnames : (slots.map fun slot => CodePoints.ofString slot.name) =
      (slots.map Slot.name).map CodePoints.ofString := by
    rw [List.map_map]
    rfl
  unfold memberNames
  rw [run_lift_bind, run_content_dict ho]
  dsimp only
  rw [run_lift_bind, run_textKeys ho.said.present, hnames]
  show (Except.ok ((strings ((slots.map Slot.name).map CodePoints.ofString)).run
    (base.withHeap h)).1, ((strings ((slots.map Slot.name).map CodePoints.ofString)).run
      (base.withHeap h)).2) = _
  rw [run_strings]

/-!
# The store
-/

/-- An interpreter that keeps the fields of a dictionary. -/
def fieldStore (base : Interpreter) (bag : Ref) : FieldStore Interpreter where
  answer := Session.Backend.interpreted.answer
  bag := bag
  Holds t held s := ∃ h slots, s = base.withHeap h ∧ (fields bag t slots).Holds held h
  Raises d t held s := ∃ h slots, s = { base.withHeap h with pending := some d } ∧
    (fields bag t slots).Holds held h
  Shows ref text s := s.heap.get? ref = some (ofText text)

/-- An empty dictionary has no fields, and owns nothing. -/
theorem holds_empty (hfurnished : base.Furnished)
    (hempty : base.heap.get? bag = some ⟨.dict [], none, none⟩) :
    (base.fieldStore bag).Holds .empty 0 base := by
  have hlists : Lists bag .empty [] base.heap :=
    ⟨hempty, nofun, ⟨.nil, fun name text => ⟨nofun, nofun⟩⟩, hfurnished⟩
  refine ⟨base.heap, [], rfl, hlists, .zero fun ref hlasting => ?_⟩
  rcases hlasting with rfl | ⟨content, hunique⟩
  · exact ⟨_, hempty⟩
  · exact ⟨_, hfurnished content ref hunique⟩

theorem gives_of_run {r : Request} {given : r.Answer} {s s' : Interpreter}
    {post : r.Answer → Interpreter → Prop} (hrun : (answer r).run s = (given, s'))
    (hpost : post given s') : (fieldStore base bag).Gives r s post := by
  refine ⟨given, s', ?_, hpost⟩
  show (serving r).outcome s = _
  rw [outcome_serving, hrun]

/-- What an interpreter that lends nothing answers. -/
theorem outcome_of_answers {r : Request} {given : r.Answer} {s : Interpreter}
    (hanswers : s.lender.Answers r 0 given 0) :
    ((fieldStore base bag).answer r).outcome s = (.ok given, s) := by
  have houtcome : (serving r).outcome (s.lending 0) = (.ok given, s.lending 0) := hanswers
  rw [lending_zero] at houtcome
  exact houtcome

theorem serves_fieldStore (hquiet : base.pending = none) : (fieldStore base bag).Serves where
  forget := by
    rintro t ref held s ⟨h, slots, rfl, ho⟩
    exact ⟨h, slots, rfl, ho.forget⟩
  retain := by
    rintro t held s ⟨h, slots, rfl, ho⟩
    obtain ⟨h', hretain⟩ := Heap.exists_retain? ho.said.dict
    exact gives_of_run (run_discard_retain hretain) ⟨h', slots, rfl, ho.retain hretain⟩
  releaseBag := by
    rintro t held s ⟨h, slots, rfl, ho⟩
    obtain ⟨hrelease, ho'⟩ := run_release_held base ho ho.said.dict fun hlast =>
      absurd hlast (ho.owners_ne_one (.inl rfl))
    exact gives_of_run hrelease ⟨⟨_, slots, rfl, ho'⟩, fun ref href text =>
      spares_of_older ho' (.releaseAll h [bag]) ref href text⟩
  releaseText := by
    rintro t ref text held s ⟨h, slots, rfl, ho⟩ hget
    obtain ⟨hrelease, ho'⟩ := run_release_held base ho hget fun _ => rfl
    exact gives_of_run hrelease ⟨_, slots, rfl, ho'⟩
  newString := by
    rintro t held s text ⟨h, slots, rfl, ho⟩
    obtain ⟨ref, h', hmake, ho', hget, -⟩ := exists_make_text base ho text
    have hanswer : (answer (.newString text)).run (base.withHeap h) =
        (some ref, base.withHeap h') := by
      show (make (.text (.ofString text)) >>= fun ref => pure (some ref)).run (base.withHeap h) = _
      rw [run_bind, hmake]
      rfl
    exact gives_of_run hanswer ⟨ref, rfl, ⟨h', slots, rfl, ho'⟩, hget⟩
  setAttr := by
    rintro t ref name text held s ⟨h, slots, rfl, ho⟩ hget hplain
    obtain ⟨slots', h', hset, ho', hget'⟩ := exists_setMember base ho
      (Multiset.mem_cons_self ref held) hget hplain
    exact gives_of_run (run_settleDone hset) ⟨rfl, ⟨h', slots', rfl, ho'⟩, hget'⟩
  getAttr_some := by
    rintro t name text held s ⟨h, slots, rfl, ho⟩ hfound hplain
    obtain ⟨ref, h', hread, ho', hget⟩ := exists_getMember base ho hfound hplain
    have hanswer : (answer (.getAttr bag name)).run (base.withHeap h) =
        (some ref, base.withHeap h') := run_settle (run_map hread some)
    exact gives_of_run hanswer ⟨ref, rfl, ⟨h', slots, rfl, ho'⟩, hget⟩
  getAttr_none := by
    rintro t name held s ⟨h, slots, rfl, ho⟩ hmissing hplain
    obtain ⟨h', hread, ho'⟩ := exists_getMember_missing base ho hmissing hplain
    have hanswer : (answer (.getAttr bag name)).run (base.withHeap h) =
        (none, { base.withHeap h' with pending := some (FieldOperation.missing name) }) :=
      run_settle_error (run_map_error hread some)
    exact gives_of_run hanswer ⟨rfl, h', slots, rfl, ho'⟩
  kindOf := by
    rintro t ref text held s ⟨h, slots, rfl, ho⟩ hget
    exact outcome_of_answers (answers_kindOf hget 0)
  stringBytes := by
    rintro t ref text held s ⟨h, slots, rfl, ho⟩ hget
    refine outcome_of_answers (answers_stringBytes 0 (.text text hget) ?_)
    rw [contentOf_shown hget]
    exact congrArg Simulation.Object.bytes? (shown_text text)
  memberNames := by
    rintro t held s ⟨h, slots, rfl, ho⟩
    have hanswer : (answer (.memberNames bag)).run (base.withHeap h) =
        (some (slots.map Slot.name), base.withHeap h) :=
      run_settle (run_map (run_memberNames ho) some)
    exact ⟨slots.map Slot.name, (gives_of_run hanswer ⟨rfl, rfl⟩).outcome, ho.said.spell.perm_names⟩
  errorPending := by
    rintro t held s ⟨h, slots, rfl, ho⟩
    show (Except.ok base.pending.isSome, base.withHeap h) = _
    rw [hquiet]
    rfl
  errorPending_raised := by
    rintro d t held s ⟨h, slots, rfl, ho⟩
    rfl
  takeError := by
    rintro d t held s ⟨h, slots, rfl, ho⟩
    have hcleared : ({ base.withHeap h with pending := none } : Interpreter) = base.withHeap h := by
      cases base
      cases hquiet
      rfl
    have hanswer : (answer .takeError).run { base.withHeap h with pending := some d } =
        (some d, base.withHeap h) := by
      rw [← hcleared]
      rfl
    exact gives_of_run hanswer ⟨rfl, h, slots, rfl, ho⟩

end Interpreter
end ForeignBridge
