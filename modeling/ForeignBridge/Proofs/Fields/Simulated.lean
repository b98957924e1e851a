import ForeignBridge.Proofs.Fields.Store
import ForeignBridge.Proofs.Heap.Covering
import ForeignBridge.Proofs.Session.Serving

/-!
# Fields in a simulated runtime

A bag of a simulated runtime is a table of references to texts, each of which has an owner for every
field that refers to it.
-/

namespace ForeignBridge

/-!
# Tables of references
-/

namespace Table

variable {α β : Type} {r : α → β → Prop}

/-- Entries of the same names, whose values are related. -/
abbrev Alike (r : α → β → Prop) (xs : List (String × α)) (ys : List (String × β)) : Prop :=
  List.Forall₂ (fun x y => x.1 = y.1 ∧ r x.2 y.2) xs ys

theorem alike_insertEntry {name : String} {a : α} {b : β} (hr : r a b) {xs : List (String × α)}
    {ys : List (String × β)} (h : Alike r xs ys) :
    Alike r (insertEntry name a xs) (insertEntry name b ys) := by
  induction h with
  | nil => exact .cons ⟨rfl, hr⟩ .nil
  | @cons x y xs ys hxy hrest ih =>
      obtain ⟨key, old⟩ := x
      obtain ⟨key', old'⟩ := y
      obtain ⟨hkey, hold⟩ := hxy
      dsimp only at hkey hold
      subst hkey
      unfold insertEntry
      by_cases hlt : name < key
      · rw [if_pos hlt, if_pos hlt]
        exact .cons ⟨rfl, hr⟩ (.cons ⟨rfl, hold⟩ hrest)
      · rw [if_neg hlt, if_neg hlt]
        by_cases hname : name = key
        · rw [if_pos hname, if_pos hname]
          exact .cons ⟨rfl, hr⟩ hrest
        · rw [if_neg hname, if_neg hname]
          exact .cons ⟨rfl, hold⟩ ih

theorem alike_lookup (name : String) {xs : List (String × α)} {ys : List (String × β)}
    (h : Alike r xs ys) : Option.Rel r (xs.lookup name) (ys.lookup name) := by
  induction h with
  | nil => exact .none
  | @cons x y xs ys hxy _ ih =>
      obtain ⟨key, old⟩ := x
      obtain ⟨key', old'⟩ := y
      obtain ⟨hkey, hold⟩ := hxy
      dsimp only at hkey hold
      subst hkey
      rw [lookup_cons, lookup_cons]
      by_cases hname : name = key
      · rw [if_pos hname, if_pos hname]
        exact .some hold
      · rw [if_neg hname, if_neg hname]
        exact ih

theorem alike_names {xs : List (String × α)} {ys : List (String × β)} (h : Alike r xs ys) :
    xs.map Prod.fst = ys.map Prod.fst := by
  induction h with
  | nil => rfl
  | cons hxy _ ih => rw [List.map_cons, List.map_cons, hxy.1, ih]

end Table

namespace Simulation

/-- A bag has the fields of a table, the texts of which are there. -/
structure Bags (bag : Ref) (t : Table String) (attrs : Table Ref) (h : Heap Object) : Prop where
  bag : h.get? bag = some (.bag attrs)
  fields : Table.Alike (fun text ref => h.get? ref = some (.text text)) t.entries attrs.entries

variable {bag ref : Ref} {t : Table String} {attrs : Table Ref} {h h' : Heap Object}
  {held : Multiset Ref} {name text : String}

namespace Bags

/-- Fields stay as they are while what they refer to lives. -/
theorem older (hb : Bags bag t attrs h) (hold : h.Older h')
    (hbag : ∃ object, h'.get? bag = some object)
    (hkept : ∀ ref ∈ attrs.values, ∃ object, h'.get? ref = some object) :
    Bags bag t attrs h' := by
  refine ⟨hold.get?_of_live hb.bag hbag, ?_⟩
  have hlive : ∀ slot ∈ attrs.entries, ∃ object, h'.get? slot.2 = some object := fun slot hslot =>
    hkept slot.2 (List.mem_map_of_mem hslot)
  have hboth := (List.forall₂_and_left _ _).2 ⟨hlive, hb.fields.flip⟩
  exact (hboth.imp fun slot field hslot =>
    ⟨hslot.2.1, hold.get?_of_live hslot.2.2 hslot.1⟩).flip

/-- The text that is in a field. -/
theorem find?_some (hb : Bags bag t attrs h) (hfound : t.find? name = some text) :
    ∃ ref, attrs.find? name = some ref ∧ h.get? ref = some (.text text) := by
  have hrel := Table.alike_lookup name hb.fields
  rw [show t.entries.lookup name = some text from hfound] at hrel
  generalize hattr : attrs.entries.lookup name = found at hrel
  cases hrel with
  | some hget => exact ⟨_, hattr, hget⟩

theorem find?_none (hb : Bags bag t attrs h) (hmissing : t.find? name = none) :
    attrs.find? name = none := by
  have hrel := Table.alike_lookup name hb.fields
  rw [show t.entries.lookup name = none from hmissing] at hrel
  generalize hattr : attrs.entries.lookup name = found at hrel
  cases hrel
  exact hattr

theorem exists_text (hb : Bags bag t attrs h) (hattr : attrs.find? name = some ref) :
    ∃ text, h.get? ref = some (.text text) := by
  have hrel := Table.alike_lookup name hb.fields
  rw [show attrs.entries.lookup name = some ref from hattr] at hrel
  generalize t.entries.lookup name = found at hrel
  cases hrel with
  | some hget => exact ⟨_, hget⟩

/-- Texts are no bags. -/
theorem get?_store (hb : Bags bag t attrs h) (new : Table Ref)
    (hget : h.get? ref = some (.text text)) :
    (h.setContent bag (.bag new)).get? ref = some (.text text) := by
  rw [Heap.get?_setContent hb.bag, if_neg, hget]
  rintro rfl
  rw [hb.bag] at hget
  cases hget

/-- A field that was written refers to what was written, and nothing else is different. -/
theorem insert (hb : Bags bag t attrs h) (hget : h.get? ref = some (.text text)) :
    Bags bag (t.insert name text) (attrs.insert name ref)
      (h.setContent bag (.bag (attrs.insert name ref))) := by
  constructor
  · rw [Heap.get?_setContent hb.bag, if_pos rfl]
  · exact Table.alike_insertEntry (r := fun text ref =>
      (h.setContent bag (.bag (attrs.insert name _))).get? ref = some (.text text))
      (hb.get?_store _ hget)
      (hb.fields.imp fun _ slot hslot => ⟨hslot.1, hb.get?_store _ hslot.2⟩)

end Bags

/-- The fields of a bag, which owns what they refer to. -/
def fields (bag : Ref) (t : Table String) (attrs : Table Ref) : Heap.Keeping Object where
  lasting := (· = bag)
  kept := attrs.values
  describes := Bags bag t attrs
  steady hb hold hlasting hkept := hb.older hold (hlasting bag rfl) hkept

/-- A field is written; what was there before is still held. -/
theorem holds_store (name : String) (ho : (fields bag t attrs).Holds (ref ::ₘ held) h)
    (hget : h.get? ref = some (.text text)) :
    (fields bag (t.insert name text) (attrs.insert name ref)).Holds
      (((attrs.find? name).toList : Multiset Ref) + held)
      (h.setContent bag (.bag (attrs.insert name ref))) := by
  have hmoved : (attrs.values : Multiset Ref) + (ref ::ₘ held) =
      ((attrs.insert name ref).values : Multiset Ref) +
        (((attrs.find? name).toList : Multiset Ref) + held) := by
    rw [← add_assoc, Table.values_insert, add_assoc, Multiset.singleton_add, Multiset.add_cons]
  have hc : h.Covers (· = bag) ((attrs.values : Multiset Ref) + (ref ::ₘ held)) := ho.covers
  rw [hmoved] at hc
  exact ⟨ho.said.insert hget, hc.setContent _⟩

/-!
# Writing
-/

variable (base : Simulation)

/-- The text that was in a field is given back. -/
theorem exists_releaseOld {old : Option Ref}
    (ho : (fields bag t attrs).Holds ((old.toList : Multiset Ref) + held) h)
    (htext : ∀ ref, old = some ref → ∃ text, h.get? ref = some (.text text)) :
    ∃ h', (releaseOld old).outcome (base.withHeap h) = (.ok (), base.withHeap h') ∧
      (fields bag t attrs).Holds held h' ∧ h.Older h' := by
  cases old with
  | none => exact ⟨h, rfl, by simpa using ho, .refl h⟩
  | some ref =>
      obtain ⟨text, hget⟩ := htext ref rfl
      have halone : h.owners ref = 1 → Linked.children (Object.text text) = [] := fun _ => rfl
      have hdead : ((base.withHeap h).heap.release ref).dead = none :=
        (Heap.release_alone hget halone).1
      exact ⟨(h.release ref).heap, outcome_release_of_dead hdead, ho.release hget halone,
        .releaseAll h [ref]⟩

/-- A field refers to a text of its own owner, and what was there before is given back. -/
theorem exists_setAttr (name : String) (ho : (fields bag t attrs).Holds (ref ::ₘ held) h)
    (hget : h.get? ref = some (.text text)) :
    ∃ h', (setAttr bag name ref).outcome (base.withHeap h) = (.ok true, base.withHeap h') ∧
      (fields bag (t.insert name text) (attrs.insert name ref)).Holds (ref ::ₘ held) h' ∧
      h'.get? ref = some (.text text) := by
  obtain ⟨h₁, hretain⟩ := Heap.exists_retain? hget
  have ho₁ : (fields bag t attrs).Holds (ref ::ₘ ref ::ₘ held) h₁ := ho.retain hretain
  have hget₁ : h₁.get? ref = some (.text text) := (Heap.get?_retain hretain ref).trans hget
  have hstored := ho₁.said.get?_store (attrs.insert name ref) hget₁
  obtain ⟨h', hreleased, ho', holder⟩ := exists_releaseOld base
    (holds_store name ho₁ hget₁) fun old hold => (ho₁.said.exists_text hold).imp fun _ hold =>
      ho₁.said.get?_store (attrs.insert name ref) hold
  refine ⟨h', ?_, ho', holder.get?_of_live hstored (ho'.covers.exists_get? (Multiset.mem_add.2
    (.inr (Multiset.mem_cons_self ref held))))⟩
  unfold setAttr
  rw [outcome_access_bind ho.said.bag]
  show (retain ref >>= fun _ => access bag >>= fun object => store bag (object.withAttrs
    ((object.attrs?.getD .empty).insert name ref)) >>= fun _ =>
      releaseOld ((object.attrs?.getD .empty).find? name) >>= fun _ => pure true).outcome
        (base.withHeap h) = _
  rw [Attempt.outcome_bind, outcome_retain hretain]
  dsimp only
  rw [outcome_access_bind ho₁.said.bag]
  show (releaseOld (attrs.find? name) >>= fun _ => pure true).outcome
    (base.withHeap (h₁.setContent bag (.bag (attrs.insert name ref)))) = _
  rw [Attempt.outcome_bind, hreleased]
  rfl

/-!
# Reading
-/

variable {base}

theorem outcome_getAttr (hget : h.get? bag = some (.bag attrs))
    (hattr : attrs.find? name = some ref) (hretain : h.retain? ref = some h') :
    (getAttr bag name).outcome (base.withHeap h) = (.ok (some ref), base.withHeap h') := by
  unfold getAttr
  rw [outcome_access_bind hget]
  dsimp only [Object.attrs?, Option.bind_some]
  rw [hattr]
  show (lend ref).outcome (base.withHeap h) = _
  unfold lend
  rw [Attempt.outcome_bind, outcome_retain hretain]
  rfl

theorem outcome_getAttr_missing (hget : h.get? bag = some (.bag attrs))
    (hmissing : attrs.find? name = none) :
    (getAttr bag name).outcome (base.withHeap h) = (.ok none,
      { base.withHeap h with pending := some (FieldOperation.missing name) }) := by
  unfold getAttr
  rw [outcome_access_bind hget]
  dsimp only [Object.attrs?, Option.bind_some]
  rw [hmissing]
  show (displayType bag >>= fun type => failWith "AttributeError"
    s!"'{type}' object has no attribute '{name}'" none).outcome (base.withHeap h) = _
  unfold displayType
  rw [bind_assoc, outcome_access_bind hget]
  rfl

theorem outcome_stringBytes_text (hget : h.get? ref = some (.text text)) :
    (stringBytes ref).outcome (base.withHeap h) =
      (.ok (some (Utf8.encode text)), base.withHeap h) := by
  unfold stringBytes
  rw [outcome_access_bind hget]
  rfl

theorem outcome_memberNames (hget : h.get? bag = some (.bag attrs)) :
    (memberNames bag).outcome (base.withHeap h) = (.ok attrs.names, base.withHeap h) := by
  unfold memberNames
  rw [outcome_access_bind hget]
  rfl

/-!
# The store
-/

/-- A runtime that keeps the fields of a bag. -/
def fieldStore (depth : Nat) (typed : Bool) (base : Simulation) (bag : Ref) :
    FieldStore Simulation where
  answer := (Session.Backend.simulated depth typed).answer
  bag := bag
  Holds t held s := ∃ h attrs, s = base.withHeap h ∧ (fields bag t attrs).Holds held h
  Raises d t held s := ∃ h attrs, s = { base.withHeap h with pending := some d } ∧
    (fields bag t attrs).Holds held h
  Shows ref text s := s.heap.get? ref = some (.text text)

/-- An empty bag has no fields, and owns nothing. -/
theorem holds_empty {depth : Nat} {typed : Bool} (hempty : base.heap.get? bag = some (.bag .empty)) :
    (fieldStore depth typed base bag).Holds .empty 0 base :=
  ⟨base.heap, .empty, rfl, ⟨hempty, .nil⟩, .zero fun _ href => href ▸ ⟨_, hempty⟩⟩

section Serving

variable {depth : Nat} {typed : Bool} (hready : base.Ready)

include hready

theorem gives_of_serve {r : Request} {given : r.Answer} {s' : Simulation}
    {post : r.Answer → Simulation → Prop}
    (hsame : (Session.Backend.simulated depth typed).answer r = answer (run depth) r)
    (hserved : (serve (run depth) r).outcome (base.withHeap h) = (.ok given, s'))
    (hpost : post given s') :
    (fieldStore depth typed base bag).Gives r (base.withHeap h) post := by
  rw [← outcome_answer hready, ← hsame] at hserved
  exact ⟨given, s', hserved, hpost⟩

/-- An error is pending, and nothing else is different. -/
theorem outcome_raised (d : Diagnostic) (h : Heap Object) (r : Request) :
    (answer (run depth) r).outcome { base.withHeap h with pending := some d } =
      (serve (run depth) r).outcome { base.withHeap h with pending := some d } := by
  have hrunning : ({ base.withHeap h with pending := some d } : Simulation).phase = .running :=
    hready.running
  exact outcome_answer_of_running hrunning r

theorem cleared (h : Heap Object) :
    ({ base.withHeap h with pending := none } : Simulation) = base.withHeap h := by
  have hquiet := hready.quiet
  cases base
  cases hquiet
  rfl

theorem gives_release (depth : Nat) (typed : Bool) {object : Object}
    (ho : (fields bag t attrs).Holds (ref ::ₘ held) h) (hget : h.get? ref = some object)
    (halone : h.owners ref = 1 → Linked.children object = []) :
    (fieldStore depth typed base bag).Gives (.release ref) (base.withHeap h) fun _ s' =>
      s' = base.withHeap (h.release ref).heap ∧
        (fields bag t attrs).Holds held (h.release ref).heap := by
  have hdead : ((base.withHeap h).heap.release ref).dead = none :=
    (Heap.release_alone hget halone).1
  exact gives_of_serve hready rfl (outcome_release_of_dead hdead) ⟨rfl, ho.release hget halone⟩

theorem serves_fieldStore : (fieldStore depth typed base bag).Serves where
  forget := by
    rintro t ref held s ⟨h, attrs, rfl, ho⟩
    exact ⟨h, attrs, rfl, ho.forget⟩
  retain := by
    rintro t held s ⟨h, attrs, rfl, ho⟩
    obtain ⟨h', hretain⟩ := Heap.exists_retain? ho.said.bag
    exact gives_of_serve hready rfl (outcome_retain hretain) ⟨h', attrs, rfl, ho.retain hretain⟩
  releaseBag := by
    rintro t held s ⟨h, attrs, rfl, ho⟩
    obtain ⟨given, s', hanswer, rfl, ho'⟩ := gives_release hready depth typed ho
      ho.said.bag fun hlast => absurd hlast (ho.owners_ne_one rfl)
    refine ⟨given, _, hanswer, ⟨_, attrs, rfl, ho'⟩, fun ref href text hget => ?_⟩
    exact (Heap.Older.releaseAll h [bag]).get?_of_live hget
      (ho'.covers.exists_get? (Multiset.mem_add.2 (.inr href)))
  releaseText := by
    rintro t ref text held s ⟨h, attrs, rfl, ho⟩ hget
    obtain ⟨given, s', hanswer, rfl, ho'⟩ := gives_release hready depth typed ho
      hget fun _ => rfl
    exact ⟨given, _, hanswer, _, attrs, rfl, ho'⟩
  newString := by
    rintro t held s text ⟨h, attrs, rfl, ho⟩
    have hmade : (serve (run depth) (.newString text)).outcome (base.withHeap h) =
        (.ok (some (h.allocate (.text text)).1), base.withHeap (h.allocate (.text text)).2) := rfl
    exact gives_of_serve hready rfl hmade
      ⟨_, rfl, ⟨_, attrs, rfl, ho.allocate (.text text)⟩, Heap.get?_allocate h (.text text)⟩
  setAttr := by
    rintro t ref name text held s ⟨h, attrs, rfl, ho⟩ hget -
    obtain ⟨h', hset, ho', hget'⟩ := exists_setAttr base name ho hget
    exact gives_of_serve hready rfl hset ⟨rfl, ⟨h', _, rfl, ho'⟩, hget'⟩
  getAttr_some := by
    rintro t name text held s ⟨h, attrs, rfl, ho⟩ hfound -
    obtain ⟨ref, hattr, hget⟩ := ho.said.find?_some hfound
    obtain ⟨h', hretain⟩ := Heap.exists_retain? hget
    exact gives_of_serve hready rfl (outcome_getAttr ho.said.bag hattr hretain)
      ⟨ref, rfl, ⟨h', attrs, rfl, ho.retain hretain⟩, (Heap.get?_retain hretain ref).trans hget⟩
  getAttr_none := by
    rintro t name held s ⟨h, attrs, rfl, ho⟩ hmissing -
    exact gives_of_serve hready rfl
      (outcome_getAttr_missing ho.said.bag (ho.said.find?_none hmissing)) ⟨rfl, h, attrs, rfl, ho⟩
  kindOf := by
    rintro t ref text held s ⟨h, attrs, rfl, ho⟩ hget
    exact FieldStore.Gives.outcome (gives_of_serve hready rfl
      (outcome_access_bind hget fun object => pure object.kind) ⟨rfl, rfl⟩)
  stringBytes := by
    rintro t ref text held s ⟨h, attrs, rfl, ho⟩ hget
    exact FieldStore.Gives.outcome
      (gives_of_serve hready rfl (outcome_stringBytes_text hget) ⟨rfl, rfl⟩)
  memberNames := by
    rintro t held s ⟨h, attrs, rfl, ho⟩
    have hnames : (serve (run depth) (.memberNames bag)).outcome (base.withHeap h) =
        (.ok (some attrs.names), base.withHeap h) := by
      show (memberNames bag >>= fun names => pure (some names)).outcome (base.withHeap h) = _
      rw [Attempt.outcome_bind, outcome_memberNames ho.said.bag]
      rfl
    have hsame : attrs.names = t.names := (Table.alike_names ho.said.fields).symm
    exact ⟨attrs.names, FieldStore.Gives.outcome (gives_of_serve hready rfl hnames ⟨rfl, rfl⟩),
      .of_eq hsame⟩
  errorPending := by
    rintro t held s ⟨h, attrs, rfl, ho⟩
    have hnone : base.pending.isSome = false := by
      rw [hready.quiet]
      rfl
    have hquiet : (serve (run depth) .errorPending).outcome (base.withHeap h) =
        (.ok false, base.withHeap h) := by
      rw [← hnone]
      rfl
    exact FieldStore.Gives.outcome (gives_of_serve hready rfl hquiet ⟨rfl, rfl⟩)
  errorPending_raised := by
    rintro d t held s ⟨h, attrs, rfl, ho⟩
    exact outcome_raised hready d h .errorPending
  takeError := by
    rintro d t held s ⟨h, attrs, rfl, ho⟩
    have htaken : (answer (run depth) .takeError).outcome
        { base.withHeap h with pending := some d } = (.ok (some d), base.withHeap h) := by
      rw [outcome_raised hready d h, ← cleared hready h]
      rfl
    exact ⟨some d, base.withHeap h, htaken, rfl, h, attrs, rfl, ho⟩

end Serving

end Simulation
end ForeignBridge
