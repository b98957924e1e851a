import Mathlib.Data.Multiset.Count
import ForeignBridge.Proofs.Crossing.Success
import ForeignBridge.Proofs.Heap.Entries
import ForeignBridge.Proofs.Names.Public

/-!
# Fields of attribute bags

The fields of an attribute bag are a table of texts, as far as the host can tell: a field is
written, read under the name under which it was written, and listed.  A runtime that keeps the
fields of a bag in any way serves the operations of the host as the table says.
-/

namespace ForeignBridge

open Crossing

/-!
# Operations
-/

/-- An operation on the fields of an attribute bag, all of which are texts. -/
inductive FieldOperation where
  | set (name text : String)
  /-- Writes at the end of a chain of one link. -/
  | assign (name text : String)
  | get (name : String)
  /-- Reads through a chain of one link. -/
  | read (name : String)
  | members

namespace FieldOperation

/-- What the host asks a bridge for. -/
def entry (bag : Handle) : FieldOperation → Entry
  | set name text => .setField (.handle bag) name (.text text)
  | assign name text => .assign bag [.field name] (.text text)
  | get name => .getField (.handle bag) name
  | read name => .read bag [.field name]
  | members => .members bag

/-- A name does not end before its length does. -/
def Plain : FieldOperation → Prop
  | set name _ | assign name _ | get name | read name => name.toList.contains '\x00' = false
  | members => True

instance : DecidablePred Plain
  | set name _ | assign name _ | get name | read name =>
    inferInstanceAs (Decidable (name.toList.contains '\x00' = false))
  | members => inferInstanceAs (Decidable True)

/-- What is said of a field that is not there. -/
def missing (name : String) : Diagnostic :=
  ⟨"AttributeError", s!"'dict' object has no attribute '{name}'"⟩

def readReply (t : Table String) (name : String) : Except BridgeError Reply :=
  match t.find? name with
  | some text => .ok (.value (.text text))
  | none =>
    .error (.foreignRuntime .getField s!"AttributeError: 'dict' object has no attribute '{name}'")

/-- What comes of an operation on a table of texts. -/
def reply (bag : Handle) (t : Table String) : FieldOperation → Except BridgeError Reply
  | set _ _ => .ok .nothing
  | assign _ _ => .ok (.value (.foreign bag))
  | get name | read name => readReply t name
  | members => .ok (.names (Context.publicNames t.names))

/-- The table after an operation. -/
def after (t : Table String) : FieldOperation → Table String
  | set name text | assign name text => t.insert name text
  | get _ | read _ | members => t

theorem isEmpty_of_quoted (start name : String) : (start ++ name ++ "'").isEmpty = false := by
  rw [Bool.eq_false_iff, ne_eq, String.isEmpty_iff]
  exact fun h => absurd (String.append_eq_empty_iff.1 h).2 (by decide)

/-- The host is told the kind of the error and what is said of the field. -/
theorem failureText_missing (name : String) :
    Context.failureText (some (missing name)) =
      s!"AttributeError: 'dict' object has no attribute '{name}'" := by
  have hkind : (missing name).kind.isEmpty = false := rfl
  have hmessage : (missing name).message.isEmpty = false := isEmpty_of_quoted _ name
  have hstart : "AttributeError" ++ ": " ++ "'dict' object has no attribute '" =
      "AttributeError: 'dict' object has no attribute '" := by decide
  have htext : (missing name).text =
      "AttributeError: 'dict' object has no attribute '" ++ name ++ "'" := by
    unfold Diagnostic.text
    rw [hkind, if_neg Bool.false_ne_true, hmessage, if_neg Bool.false_ne_true, ← hstart]
    show "AttributeError" ++ ": " ++ ("'dict' object has no attribute '" ++ name ++ "'") = _
    simp only [String.append_assoc]
  unfold Context.failureText
  dsimp only
  rw [htext, isEmpty_of_quoted, if_neg Bool.false_ne_true]
  rfl

end FieldOperation

/-!
# Stores
-/

/-- A runtime that keeps the fields of a bag. -/
structure FieldStore (σ : Type) where
  answer : (r : Request) → Attempt σ r.Answer
  bag : Ref
  /-- The bag has the fields of a table, and references are held. -/
  Holds : Table String → Multiset Ref → σ → Prop
  /-- An error is pending besides. -/
  Raises : Diagnostic → Table String → Multiset Ref → σ → Prop
  /-- The object at a reference is a text. -/
  Shows : Ref → String → σ → Prop

namespace FieldStore

variable {σ α β : Type} (S : FieldStore σ)

/-- A request is answered, and what is wanted holds of the answer and of the state after it. -/
def Gives (r : Request) (s : σ) (post : r.Answer → σ → Prop) : Prop :=
  ∃ given s', (S.answer r).outcome s = (.ok given, s') ∧ post given s'

/-- A request that changes nothing. -/
theorem Gives.outcome {S : FieldStore σ} {r : Request} {given : r.Answer} {s : σ}
    (hgives : S.Gives r s fun answer s' => answer = given ∧ s' = s) :
    (S.answer r).outcome s = (.ok given, s) := by
  obtain ⟨_, _, hanswer, rfl, rfl⟩ := hgives
  exact hanswer

/-- How the fields of a bag are kept. -/
structure Serves : Prop where
  forget : ∀ {t ref held s}, S.Holds t (ref ::ₘ held) s → S.Holds t held s
  retain : ∀ {t held s}, S.Holds t held s →
    S.Gives (.retain S.bag) s fun _ => S.Holds t (S.bag ::ₘ held)
  releaseBag : ∀ {t held s}, S.Holds t (S.bag ::ₘ held) s →
    S.Gives (.release S.bag) s fun _ s' =>
      S.Holds t held s' ∧ ∀ ref ∈ held, ∀ text, S.Shows ref text s → S.Shows ref text s'
  releaseText : ∀ {t ref text held s}, S.Holds t (ref ::ₘ held) s → S.Shows ref text s →
    S.Gives (.release ref) s fun _ => S.Holds t held
  newString : ∀ {t held s} text, S.Holds t held s →
    S.Gives (.newString text) s fun given s' =>
      ∃ ref, given = some ref ∧ S.Holds t (ref ::ₘ held) s' ∧ S.Shows ref text s'
  setAttr : ∀ {t ref name text held s}, S.Holds t (ref ::ₘ held) s → S.Shows ref text s →
    name.toList.contains '\x00' = false →
      S.Gives (.setAttr S.bag name ref) s fun given s' =>
        given = true ∧ S.Holds (t.insert name text) (ref ::ₘ held) s' ∧ S.Shows ref text s'
  getAttr_some : ∀ {t name text held s}, S.Holds t held s → t.find? name = some text →
    name.toList.contains '\x00' = false →
      S.Gives (.getAttr S.bag name) s fun given s' =>
        ∃ ref, given = some ref ∧ S.Holds t (ref ::ₘ held) s' ∧ S.Shows ref text s'
  getAttr_none : ∀ {t name held s}, S.Holds t held s → t.find? name = none →
    name.toList.contains '\x00' = false →
      S.Gives (.getAttr S.bag name) s fun given s' =>
        given = none ∧ S.Raises (FieldOperation.missing name) t held s'
  kindOf : ∀ {t ref text held s}, S.Holds t held s → S.Shows ref text s →
    (S.answer (.kindOf ref)).outcome s = (.ok .unicode, s)
  stringBytes : ∀ {t ref text held s}, S.Holds t held s → S.Shows ref text s →
    (S.answer (.stringBytes ref)).outcome s = (.ok (some (Utf8.encode text)), s)
  memberNames : ∀ {t held s}, S.Holds t held s → ∃ names : List String,
    (S.answer (.memberNames S.bag)).outcome s = (.ok (some names), s) ∧ names.Perm t.names
  errorPending : ∀ {t held s}, S.Holds t held s →
    (S.answer .errorPending).outcome s = (.ok false, s)
  errorPending_raised : ∀ {d t held s}, S.Raises d t held s →
    (S.answer .errorPending).outcome s = (.ok true, s)
  takeError : ∀ {d t held s}, S.Raises d t held s →
    S.Gives .takeError s fun given s' => given = some d ∧ S.Holds t held s'

/-!
# Crossings
-/

/-- A crossing comes to an outcome, and what is wanted holds of the state after it. -/
def Leads (c : Crossing α) (s : σ) (outcome : Except BridgeError α) (post : σ → Prop) : Prop :=
  ∃ s', c.Comes S.answer s outcome s' ∧ post s'

variable {S} {s : σ} {t : Table String} {held : Multiset Ref} {ref : Ref} {name text : String}
  {c : Crossing α} {post post' : σ → Prop}

theorem Leads.bind {f : α → Crossing β} {a : α} {outcome : Except BridgeError β}
    (hc : S.Leads c s (.ok a) post) (hf : ∀ s', post s' → S.Leads (f a) s' outcome post') :
    S.Leads (c >>= f) s outcome post' := by
  obtain ⟨s', hcomes, hs'⟩ := hc
  obtain ⟨s'', hcomes', hs''⟩ := hf s' hs'
  exact ⟨s'', hcomes.bind hcomes', hs''⟩

theorem Leads.bind_error {f : α → Crossing β} {error : BridgeError}
    (hc : S.Leads c s (.error error) post) : S.Leads (c >>= f) s (.error error) post := by
  obtain ⟨s', hcomes, hs'⟩ := hc
  exact ⟨s', hcomes.bind_error, hs'⟩

theorem Leads.pure {a : α} (hs : post s) : S.Leads (Pure.pure a) s (.ok a) post :=
  ⟨s, Comes.pure, hs⟩

theorem Leads.note {event : Event} {f : Unit → Crossing β} {outcome : Except BridgeError β}
    (hf : S.Leads (f ()) s outcome post) : S.Leads (Crossing.note event >>= f) s outcome post := by
  obtain ⟨s', hcomes, hs'⟩ := hf
  exact ⟨s', Comes.note.bind hcomes, hs'⟩

theorem Leads.ask {r : Request} {given : r.Answer} {f : r.Answer → Crossing β}
    {outcome : Except BridgeError β} (hanswer : (S.answer r).outcome s = (.ok given, s))
    (hf : S.Leads (f given) s outcome post) : S.Leads (Crossing.ask r >>= f) s outcome post := by
  obtain ⟨s', hcomes, hs'⟩ := hf
  exact ⟨s', (Comes.ask hanswer).bind hcomes, hs'⟩

theorem Gives.leads {r : Request} {post : r.Answer → σ → Prop} {f : r.Answer → Crossing β}
    {outcome : Except BridgeError β} (hgives : S.Gives r s post)
    (hf : ∀ given s', post given s' → S.Leads (f given) s' outcome post') :
    S.Leads (Crossing.ask r >>= f) s outcome post' := by
  obtain ⟨given, s', hanswer, hs'⟩ := hgives
  obtain ⟨s'', hcomes, hs''⟩ := hf given s' hs'
  exact ⟨s'', (Comes.ask hanswer).bind hcomes, hs''⟩

/-- What owns a reference gives it back in the end. -/
theorem Leads.owning {outcome : Except BridgeError α} (hc : S.Leads c s outcome post)
    (hrelease : ∀ s', post s' → S.Gives (.release ref) s' fun _ => post') :
    S.Leads (Crossing.owning ref c) s outcome post' := by
  obtain ⟨s', hcomes, hs'⟩ := hc
  obtain ⟨given, s'', hanswer, hs''⟩ := hrelease s' hs'
  exact ⟨s'', Comes.owningAll hcomes (.ask hanswer (.done () s'')), hs''⟩

section Serving

variable (hS : S.Serves) (ctx : Context)

include hS

theorem leads_checkRef (ref : Ref) (operation : Operation) (hs : S.Holds t held s)
    (hpost : post s) : S.Leads (ctx.checkRef operation (some ref)) s (.ok ref) post := by
  unfold Context.checkRef
  exact Leads.ask (hS.errorPending hs) (Leads.pure hpost)

theorem leads_checkValue {value : α} (operation : Operation) (hs : S.Holds t held s)
    (hpost : post s) : S.Leads (ctx.checkValue operation (some value)) s (.ok value) post := by
  unfold Context.checkValue
  exact Leads.ask (hS.errorPending hs) (Leads.pure hpost)

/-- A reference that is answered is checked. -/
theorem leads_checked {r : Request} {given : r.Answer} {s' : σ} (operation : Operation)
    (asOption : r.Answer → Option Ref) (hgiven : asOption given = some ref)
    (hanswer : (S.answer r).outcome s = (.ok given, s')) (hs : S.Holds t held s')
    (hpost : post s') :
    S.Leads (Crossing.ask r >>= fun answer => ctx.checkRef operation (asOption answer)) s (.ok ref)
      post := by
  obtain ⟨s'', hcomes, hs''⟩ := leads_checkRef hS ctx ref operation hs hpost
  refine ⟨s'', (Comes.ask hanswer).bind ?_, hs''⟩
  rw [hgiven]
  exact hcomes

/-!
# Writing
-/

theorem exists_toForeign (text : String) (hs : S.Holds t held s) :
    ∃ ref, S.Leads (ctx.toForeign (.text text)) s (.ok ref) fun s' =>
      S.Holds t (ref ::ₘ held) s' ∧ S.Shows ref text s' := by
  obtain ⟨_, s', hanswer, ref, rfl, hs', hshows⟩ := hS.newString text hs
  refine ⟨ref, ?_⟩
  unfold Context.toForeign
  exact leads_checked hS ctx (r := .newString text) .unpackString id rfl hanswer hs'
    ⟨hs', hshows⟩

theorem leads_setAttr (hplain : name.toList.contains '\x00' = false)
    (hs : S.Holds t (ref ::ₘ held) s) (hshows : S.Shows ref text s) :
    S.Leads (ctx.setAttr S.bag name ref) s (.ok ()) fun s' =>
      S.Holds (t.insert name text) (ref ::ₘ held) s' ∧ S.Shows ref text s' := by
  unfold Context.setAttr Context.checkStatus
  apply Leads.note
  apply Gives.leads (hS.setAttr hs hshows hplain)
  rintro _ s' ⟨rfl, hs', hshows'⟩
  exact leads_checkValue hS ctx .setField hs' ⟨hs', hshows'⟩

/-- A text is taken to the runtime and put into a field. -/
theorem leads_write (hplain : name.toList.contains '\x00' = false) (hs : S.Holds t held s) :
    S.Leads (ctx.assign S.bag (.text text) (.field name)) s (.ok ())
      (S.Holds (t.insert name text) held) := by
  obtain ⟨ref, htext⟩ := exists_toForeign hS ctx text hs
  unfold Context.assign
  apply htext.bind
  rintro s' ⟨hs', hshows⟩
  exact Leads.owning (leads_setAttr hS ctx hplain hs' hshows) fun s'' hs'' =>
    hS.releaseText hs''.1 hs''.2

/-!
# Reading
-/

theorem leads_textToHost (hs : S.Holds t held s) (hshows : S.Shows ref text s)
    (hpost : post s) : S.Leads (ctx.textToHost ref) s (.ok text) post := by
  unfold Context.textToHost
  apply Leads.ask (hS.stringBytes hs hshows)
  apply Leads.bind (leads_checkValue hS ctx .packString hs hpost)
  intro s' hs'
  rw [Utf8.decode_encode]
  exact Leads.pure hs'

/-- A text is taken to the host, and its reference is given back. -/
theorem leads_toHost (hs : S.Holds t (ref ::ₘ held) s) (hshows : S.Shows ref text s) :
    S.Leads (ctx.toHost ref) s (.ok (.text text)) (S.Holds t held) := by
  have hread : S.Leads (ctx.textToHost ref) s (.ok text) fun s' =>
      S.Holds t (ref ::ₘ held) s' ∧ S.Shows ref text s' :=
    leads_textToHost hS ctx hs hshows ⟨hs, hshows⟩
  unfold Context.toHost Context.toHostWithin Context.objectToHost
  apply Leads.ask (hS.kindOf hs hshows)
  exact Leads.owning (hread.bind fun s' hs' => Leads.pure hs') fun s' hs' =>
    hS.releaseText hs'.1 hs'.2

theorem exists_getAttr (hfound : t.find? name = some text)
    (hplain : name.toList.contains '\x00' = false) (hs : S.Holds t held s) :
    ∃ ref, S.Leads (ctx.getAttr S.bag name) s (.ok ref) fun s' =>
      S.Holds t (ref ::ₘ held) s' ∧ S.Shows ref text s' := by
  obtain ⟨_, s', hanswer, ref, rfl, hs', hshows⟩ := hS.getAttr_some hs hfound hplain
  refine ⟨ref, ?_⟩
  unfold Context.getAttr
  exact Leads.note (leads_checked hS ctx (r := .getAttr S.bag name) .getField id rfl hanswer
    hs' ⟨hs', hshows⟩)

omit hS in
theorem leads_fail (operation : Operation) (diagnostic : Option Diagnostic) (hpost : post s) :
    S.Leads (ctx.fail operation diagnostic : Crossing α) s
      (.error (.foreignRuntime operation (Context.failureText diagnostic))) post := by
  unfold Context.fail
  dsimp only
  split
  · exact Leads.note ⟨s, Comes.throw, hpost⟩
  · exact ⟨s, Comes.throw, hpost⟩

theorem leads_getAttr_missing (hmissing : t.find? name = none)
    (hplain : name.toList.contains '\x00' = false) (hs : S.Holds t held s) :
    S.Leads (ctx.getAttr S.bag name) s (.error (.foreignRuntime .getField
      s!"AttributeError: 'dict' object has no attribute '{name}'")) (S.Holds t held) := by
  rw [← FieldOperation.failureText_missing]
  unfold Context.getAttr Context.checkRef
  apply Leads.note
  apply Gives.leads (hS.getAttr_none hs hmissing hplain)
  rintro _ s' ⟨rfl, hs'⟩
  apply Leads.ask (hS.errorPending_raised hs')
  apply Gives.leads (hS.takeError hs')
  rintro _ s'' ⟨rfl, hs''⟩
  exact Leads.bind ⟨s'', Comes.releaseAll (.done () s''), hs''⟩ fun s' hs' =>
    leads_fail ctx .getField _ hs'

/-!
# Serving
-/

variable {bag : Handle} (hbag : bag.ref = S.bag)

theorem leads_owningBag {outcome : Except BridgeError α}
    (hc : S.Leads c s outcome (S.Holds t (S.bag ::ₘ held))) :
    S.Leads (Crossing.owning S.bag c) s outcome (S.Holds t held) :=
  Leads.owning hc fun _ hs' => by
    obtain ⟨given, s'', hanswer, hs'', -⟩ := hS.releaseBag hs'
    exact ⟨given, s'', hanswer, hs''⟩

include hbag

theorem leads_acquire (hs : S.Holds t held s) :
    S.Leads (Context.acquire bag) s (.ok S.bag) (S.Holds t (S.bag ::ₘ held)) := by
  unfold Context.acquire
  rw [hbag]
  exact Gives.leads (hS.retain hs) fun _ _ hs' => Leads.pure hs'

variable (hown : bag.context = ctx.id)

include hown

omit hS hbag in
theorem requireOwn_eq : ctx.requireOwn bag = pure () := if_pos hown

theorem leads_resolve (hs : S.Holds t held s) :
    S.Leads (ctx.resolve (.handle bag)) s (.ok S.bag) (S.Holds t (S.bag ::ₘ held)) := by
  unfold Context.resolve
  dsimp only
  rw [requireOwn_eq ctx hown]
  exact Leads.bind (Leads.pure hs) fun s' hs' => leads_acquire hS hbag hs'

theorem leads_set (hplain : name.toList.contains '\x00' = false) (hs : S.Holds t held s) :
    S.Leads (ctx.serve (.setField (.handle bag) name (.text text))) s (.ok .nothing)
      (S.Holds (t.insert name text) held) := by
  have hwrites : ∀ target, (ctx.toForeign (.text text) >>= fun ref =>
      Crossing.owning ref (ctx.setAttr target name ref) >>= fun _ => pure Reply.nothing) =
        ctx.assign target (.text text) (.field name) >>= fun _ => pure Reply.nothing :=
    fun target => (bind_assoc _ _ _).symm
  unfold Context.serve
  apply Leads.bind (leads_resolve hS ctx hbag hown hs)
  intro s' hs'
  apply leads_owningBag hS
  rw [hwrites]
  exact Leads.bind (leads_write hS ctx hplain hs') fun s'' hs'' => Leads.pure hs''

/-- The handle that is given back owns a reference of its own. -/
theorem leads_assign (hplain : name.toList.contains '\x00' = false) (hs : S.Holds t held s) :
    S.Leads (ctx.serve (.assign bag [.field name] (.text text))) s (.ok (.value (.foreign bag)))
      (S.Holds (t.insert name text) held) := by
  unfold Context.serve
  dsimp only
  rw [requireOwn_eq ctx hown]
  apply Leads.bind (Leads.pure hs)
  intro s' hs'
  have hwrite : ∀ s'', S.Holds t (S.bag ::ₘ held) s'' →
      S.Leads (ctx.assign S.bag (.text text) (.field name) >>= fun _ =>
        Context.acquire bag >>= fun _ => pure bag) s'' (.ok bag)
        (S.Holds (t.insert name text) (S.bag ::ₘ S.bag ::ₘ held)) := fun s'' hs'' =>
    (leads_write hS ctx hplain hs'').bind fun s₃ hs₃ =>
      (leads_acquire hS hbag hs₃).bind fun s₄ hs₄ => Leads.pure hs₄
  have hassign : S.Leads (Context.acquire bag >>= fun target => ctx.walk target [] >>= fun target =>
      Crossing.owning target (ctx.assign target (.text text) (.field name) >>= fun _ =>
        Context.acquire bag >>= fun _ => pure bag)) s' (.ok bag)
      (S.Holds (t.insert name text) held) := by
    apply Leads.bind (leads_acquire hS hbag hs')
    intro s'' hs''
    apply Leads.bind (Leads.pure hs'')
    intro s₃ hs₃
    refine Leads.owning (hwrite s₃ hs₃) fun s₄ hs₄ => ?_
    obtain ⟨given, s₅, hanswer, hs₅, -⟩ := hS.releaseBag hs₄
    exact ⟨given, s₅, hanswer, hS.forget hs₅⟩
  exact hassign.bind fun s'' hs'' => Leads.pure hs''

theorem leads_get (hplain : name.toList.contains '\x00' = false) (hs : S.Holds t held s) :
    S.Leads (ctx.serve (.getField (.handle bag) name)) s (FieldOperation.readReply t name)
      (S.Holds t held) := by
  unfold Context.serve
  apply Leads.bind (leads_resolve hS ctx hbag hown hs)
  intro s' hs'
  apply leads_owningBag hS
  unfold FieldOperation.readReply
  cases hfind : t.find? name with
  | none => exact Leads.bind_error (leads_getAttr_missing hS ctx hfind hplain hs')
  | some text =>
      obtain ⟨ref, hread⟩ := exists_getAttr hS ctx hfind hplain hs'
      apply Leads.bind hread
      rintro s'' ⟨hs'', hshows⟩
      exact Leads.bind (leads_toHost hS ctx hs'' hshows) fun _ hlast => Leads.pure hlast

theorem leads_read (hplain : name.toList.contains '\x00' = false) (hs : S.Holds t held s) :
    S.Leads (ctx.serve (.read bag [.field name])) s (FieldOperation.readReply t name)
      (S.Holds t held) := by
  unfold Context.serve
  dsimp only
  rw [requireOwn_eq ctx hown]
  apply Leads.bind (Leads.pure hs)
  intro s₀ hs₀
  show S.Leads ((Context.acquire bag >>= fun target => (Crossing.owning target
    (ctx.getAttr target name) >>= fun next => pure next) >>= fun ref => ctx.toHost ref) >>= fun v =>
      pure (Reply.value v)) s₀ _ _
  unfold FieldOperation.readReply
  cases hfind : t.find? name with
  | none =>
      apply Leads.bind_error
      apply Leads.bind (leads_acquire hS hbag hs₀)
      intro s' hs'
      exact Leads.bind_error (Leads.bind_error (leads_owningBag hS
        (leads_getAttr_missing hS ctx hfind hplain hs')))
  | some text =>
      refine Leads.bind (Leads.bind (leads_acquire hS hbag hs₀) fun s' hs' => ?_)
        fun s'' hs'' => Leads.pure hs''
      obtain ⟨ref, hread⟩ := exists_getAttr hS ctx hfind hplain hs'
      have howned : S.Leads (Crossing.owning S.bag (ctx.getAttr S.bag name)) s' (.ok ref)
          fun s'' => S.Holds t (ref ::ₘ held) s'' ∧ S.Shows ref text s'' := by
        refine Leads.owning hread fun s'' hs'' => ?_
        have hswapped := hs''.1
        rw [Multiset.cons_swap] at hswapped
        obtain ⟨given, s₃, hanswer, hs₃, hkept⟩ := hS.releaseBag hswapped
        exact ⟨given, s₃, hanswer, hs₃, hkept ref (Multiset.mem_cons_self ref held) text hs''.2⟩
      refine Leads.bind (Leads.bind howned fun s'' hs'' => Leads.pure hs'') fun s₃ hs₃ => ?_
      exact leads_toHost hS ctx hs₃.1 hs₃.2

theorem leads_members (hs : S.Holds t held s) :
    S.Leads (ctx.serve (.members bag)) s (.ok (.names (Context.publicNames t.names)))
      (S.Holds t held) := by
  obtain ⟨names, hanswer, hperm⟩ := hS.memberNames hs
  rw [← Context.publicNames_of_perm hperm]
  unfold Context.serve Context.memberNames
  dsimp only
  rw [requireOwn_eq ctx hown, hbag]
  have hlisted : S.Leads (Crossing.ask (.memberNames S.bag) >>= fun given =>
      ctx.checkValue .members given >>= fun names => pure (Context.publicNames names)) s
      (.ok (Context.publicNames names)) (S.Holds t held) :=
    Leads.ask hanswer ((leads_checkValue hS ctx .members hs hs).bind fun s' hs' => Leads.pure hs')
  have hstart : S.Leads (pure () : Crossing Unit) s (.ok ()) (· = s) := Leads.pure rfl
  apply hstart.bind
  rintro _ rfl
  exact hlisted.bind fun s' hs' => Leads.pure hs'

/-- An operation comes to what it comes to on the table, and the bag has the fields of the table
after it. -/
theorem leads_serve {op : FieldOperation} (hplain : op.Plain) (hs : S.Holds t held s) :
    S.Leads (ctx.serve (op.entry bag)) s (op.reply bag t) (S.Holds (op.after t) held) := by
  cases op with
  | set name text => exact leads_set hS ctx hbag hown hplain hs
  | assign name text => exact leads_assign hS ctx hbag hown hplain hs
  | get name => exact leads_get hS ctx hbag hown hplain hs
  | read name => exact leads_read hS ctx hbag hown hplain hs
  | members => exact leads_members hS ctx hbag hown hs

end Serving

end FieldStore
end ForeignBridge
