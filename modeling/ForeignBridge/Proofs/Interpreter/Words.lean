import ForeignBridge.Proofs.Crossing.Integers
import ForeignBridge.Proofs.Interpreter.Making

/-!
# Integers as machine words

An interpreter whose functions do what is documented of them hands over every integer that fits a signed
or an unsigned word of 64 bits as it is, minus one as well, and raises an error for all others.  The
bridge makes of it a signed word or an overflow, and leaves no error pending.
-/

namespace ForeignBridge

variable {σ : Type}

namespace WordReader

/-- What is documented of the functions: they do not touch integers, the words are exact, what is beyond
the signed word is flagged, what is beyond the unsigned word raises an overflow, and only that changes
the error that is pending. -/
structure Documented (reader : WordReader σ) (number : σ → Ref → Int → Prop)
    (pending : σ → Option Diagnostic) : Prop where
  signed_within : ∀ {s ref z}, number s ref z → -2 ^ 63 ≤ z → z < 2 ^ 63 → ∃ s',
    (reader.signed ref).run s = ((z, 0), s') ∧ number s' ref z ∧ pending s' = pending s
  signed_above : ∀ {s ref z}, number s ref z → 2 ^ 63 ≤ z → ∃ s',
    (reader.signed ref).run s = ((-1, 1), s') ∧ number s' ref z ∧ pending s' = pending s
  signed_below : ∀ {s ref z}, number s ref z → z < -2 ^ 63 → ∃ s',
    (reader.signed ref).run s = ((-1, -1), s') ∧ number s' ref z ∧ pending s' = pending s
  unsigned_within : ∀ {s ref z}, number s ref z → 0 ≤ z → z < 2 ^ 64 → ∃ s',
    (reader.unsigned ref).run s = (z, s') ∧ number s' ref z ∧ pending s' = pending s
  unsigned_above : ∀ {s ref z}, number s ref z → 2 ^ 64 ≤ z → ∃ word text s',
    (reader.unsigned ref).run s = (word, s') ∧ number s' ref z ∧
      pending s' = some ⟨"OverflowError", text⟩
  occurred : ∀ s, reader.occurred.run s = ((pending s).isSome, s)
  setError : ∀ {s ref z}, number s ref z → ∀ error, ∃ s',
    (reader.setError error).run s = ((), s') ∧ number s' ref z ∧ pending s' = some error

variable {reader : WordReader σ} {number : σ → Ref → Int → Prop} {pending : σ → Option Diagnostic}
  {s : σ} {ref : Ref} {z : Int}

/-- The integers that fit a signed or an unsigned word. -/
def Fits (z : Int) : Prop := -2 ^ 63 ≤ z ∧ z < 2 ^ 64

/-- An integer that fits a word is read as it is, and for any other an overflow is raised. -/
structure Reads (number : σ → Ref → Int → Prop) (pending : σ → Option Diagnostic) (ref : Ref) (z : Int)
    (value : Option Int) (s' : σ) : Prop where
  still : number s' ref z
  exact : Fits z → value = some z ∧ pending s' = none
  refused : ¬ Fits z → value = none ∧ ∃ text, pending s' = some ⟨"OverflowError", text⟩

theorem run_intValue {value beyond : Int} {s' : σ}
    (hsigned : (reader.signed ref).run s = ((value, beyond), s')) :
    (reader.intValue ref).run s =
      (if beyond = 0 then
        if value = -1 then do
          if ← reader.occurred then return none
          return some value
        else pure (some value)
      else if 0 < beyond then do
        let word ← reader.unsigned ref
        if ← reader.occurred then return none
        return some word
      else do
        reader.setError ⟨"OverflowError", "int too small to convert"⟩
        return none : StateM σ (Option Int)).run s' := by
  unfold intValue
  rw [StateT.run_bind, hsigned]
  rfl

theorem run_occurred_bind {α : Type} (h : reader.Documented number pending) (s : σ)
    (f : Bool → StateM σ α) :
    (reader.occurred >>= f).run s = (f (pending s).isSome).run s := by
  rw [StateT.run_bind, h.occurred]
  rfl

namespace Documented

variable (h : reader.Documented number pending) (hnumber : number s ref z)

include h hnumber

theorem reads_above (hlow : 2 ^ 64 ≤ z) :
    ∃ s' text, (reader.intValue ref).run s = (none, s') ∧ number s' ref z ∧
      pending s' = some ⟨"OverflowError", text⟩ := by
  rcases h.signed_above hnumber (by omega) with ⟨s₁, hsigned, hstill, -⟩
  rcases h.unsigned_above hstill hlow with ⟨word, text, s₂, hunsigned, hstill', hpending⟩
  refine ⟨s₂, text, ?_, hstill', hpending⟩
  rw [run_intValue hsigned, if_neg (by decide), if_pos (by decide), StateT.run_bind, hunsigned]
  show (reader.occurred >>= _).run s₂ = _
  rw [run_occurred_bind h, hpending]
  rfl

theorem reads_below (hhigh : z < -2 ^ 63) :
    ∃ s' text, (reader.intValue ref).run s = (none, s') ∧ number s' ref z ∧
      pending s' = some ⟨"OverflowError", text⟩ := by
  rcases h.signed_below hnumber hhigh with ⟨s₁, hsigned, hstill, -⟩
  rcases h.setError hstill ⟨"OverflowError", "int too small to convert"⟩ with
    ⟨s₂, hset, hstill', hpending⟩
  refine ⟨s₂, _, ?_, hstill', hpending⟩
  rw [run_intValue hsigned, if_neg (by decide), if_neg (by decide), StateT.run_bind, hset]
  rfl

variable (hcalm : pending s = none)

include hcalm

/-- The sentinel minus one is taken for the integer, because no error is pending. -/
theorem reads_signed (hlow : -2 ^ 63 ≤ z) (hhigh : z < 2 ^ 63) :
    ∃ s', (reader.intValue ref).run s = (some z, s') ∧ number s' ref z ∧ pending s' = none := by
  rcases h.signed_within hnumber hlow hhigh with ⟨s', hsigned, hstill, hpending⟩
  rw [hcalm] at hpending
  refine ⟨s', ?_, hstill, hpending⟩
  rw [run_intValue hsigned, if_pos rfl]
  split
  · rw [run_occurred_bind h, hpending]
    rfl
  · rfl

theorem reads_unsigned (hlow : 2 ^ 63 ≤ z) (hhigh : z < 2 ^ 64) :
    ∃ s', (reader.intValue ref).run s = (some z, s') ∧ number s' ref z ∧ pending s' = none := by
  rcases h.signed_above hnumber hlow with ⟨s₁, hsigned, hstill, hpending⟩
  rcases h.unsigned_within hstill (by omega) hhigh with ⟨s₂, hunsigned, hstill', hpending'⟩
  rw [hpending, hcalm] at hpending'
  refine ⟨s₂, ?_, hstill', hpending'⟩
  rw [run_intValue hsigned, if_neg (by decide), if_pos (by decide), StateT.run_bind, hunsigned]
  show (reader.occurred >>= _).run s₂ = _
  rw [run_occurred_bind h, hpending']
  rfl

/-- All integers that fit a word are read, and no others. -/
theorem exists_reads : ∃ value s', (reader.intValue ref).run s = (value, s') ∧
    Reads number pending ref z value s' := by
  have hfits : ∀ {s'}, Fits z → number s' ref z → pending s' = none →
      Reads number pending ref z (some z) s' := fun hfits hstill hpending =>
    ⟨hstill, fun _ => ⟨rfl, hpending⟩, fun hnot => absurd hfits hnot⟩
  have hrefused : ∀ {s' text}, ¬ Fits z → number s' ref z →
      pending s' = some ⟨"OverflowError", text⟩ → Reads number pending ref z none s' :=
    fun hnot hstill hpending =>
      ⟨hstill, fun hfits => absurd hfits hnot, fun _ => ⟨rfl, _, hpending⟩⟩
  rcases Int.lt_or_le z (-2 ^ 63) with hbelow | hlow
  · rcases h.reads_below hnumber hbelow with ⟨s', text, hrun, hstill, hpending⟩
    exact ⟨none, s', hrun, hrefused (fun hfits => Int.not_le.2 hbelow hfits.1) hstill hpending⟩
  · rcases Int.lt_or_le z (2 ^ 63) with hhigh | hword
    · rcases h.reads_signed hnumber hcalm hlow hhigh with ⟨s', hrun, hstill, hpending⟩
      exact ⟨some z, s', hrun, hfits ⟨hlow, by omega⟩ hstill hpending⟩
    · rcases Int.lt_or_le z (2 ^ 64) with hhigh | habove
      · rcases h.reads_unsigned hnumber hcalm hword hhigh with ⟨s', hrun, hstill, hpending⟩
        exact ⟨some z, s', hrun, hfits ⟨hlow, hhigh⟩ hstill hpending⟩
      · rcases h.reads_above hnumber habove with ⟨s', text, hrun, hstill, hpending⟩
        exact ⟨none, s', hrun, hrefused (fun hfits => Int.not_le.2 hfits.2 habove) hstill hpending⟩

end Documented

/-!
# Packing
-/

/-- A runtime that answers for integers with the words, hints at no kinds, and takes errors and
references back. -/
structure Serves (reader : WordReader σ) (number : σ → Ref → Int → Prop)
    (pending : σ → Option Diagnostic) (answer : (r : Request) → Attempt σ r.Answer) : Prop where
  kindOf : ∀ {s ref z}, number s ref z → ∃ s', (answer (.kindOf ref)).outcome s = (.ok .integer, s') ∧
    number s' ref z ∧ pending s' = pending s
  numericKind : ∀ {s ref z}, number s ref z → ∃ s',
    (answer (.numericKind ref)).outcome s = (.ok none, s') ∧ number s' ref z ∧ pending s' = pending s
  intValue : ∀ s ref, (answer (.intValue ref)).outcome s =
    (.ok ((reader.intValue ref).run s).1, ((reader.intValue ref).run s).2)
  errorPending : ∀ s, (answer .errorPending).outcome s = (.ok (pending s).isSome, s)
  takeError : ∀ {s ref z}, number s ref z → ∃ taken s', (answer .takeError).outcome s = (.ok taken, s') ∧
    number s' ref z ∧ pending s' = none
  release : ∀ {s ref z}, number s ref z → ∃ s', (answer (.release ref)).outcome s = (.ok (), s') ∧
    pending s' = pending s

end WordReader

namespace Context

open Crossing

variable (ctx : Context) {answer : (r : Request) → Attempt σ r.Answer} {object : Ref}
  {hint : Option NumericKind} {s s₁ s₂ s₃ t : σ} {taken : Option Diagnostic}

/-- An error instead of an integer is an overflow of the kind that the runtime hints at. -/
theorem comes_integerToHost_raised
    (hhint : (answer (.numericKind object)).outcome s = (.ok hint, s₁))
    (hvalue : (answer (.intValue object)).outcome s₁ = (.ok none, s₂))
    (hraised : (answer .errorPending).outcome s₂ = (.ok true, s₃))
    (htaken : (answer .takeError).outcome s₃ = (.ok taken, t)) :
    (ctx.integerToHost object).Comes answer s
      (.error (.overflow ((taken.map Diagnostic.message).getD "integer") (hintedKind hint).name)) t := by
  rw [← hintedKind_eq]
  exact Comes.bind (Comes.ask hhint) (Comes.bind (Comes.ask hvalue)
    (Comes.bind (Comes.ask hraised) (Comes.bind (Comes.ask htaken) Comes.throw)))

theorem spans_int64 {z : Int} : NumericKind.int64.Spans z ↔ -2 ^ 63 ≤ z ∧ z < 2 ^ 63 := by
  rw [← NumericKind.holds_iff_spans rfl]
  constructor
  · rintro ⟨-, hlow, hhigh⟩
    exact ⟨hlow, Int.lt_of_le_sub_one hhigh⟩
  · rintro ⟨hlow, hhigh⟩
    exact ⟨rfl, hlow, Int.le_sub_one_of_lt hhigh⟩

variable {reader : WordReader σ} {number : σ → Ref → Int → Prop} {pending : σ → Option Diagnostic}
  {z : Int}

/-- What packing an integer comes to: the very integer as a signed word, or an overflow of that kind. -/
structure Packs (z : Int) (outcome : Except BridgeError Value) : Prop where
  word : -2 ^ 63 ≤ z ∧ z < 2 ^ 63 →
    ∃ i : HostInt, i.kind = .int64 ∧ i.value = z ∧ outcome = .ok (.scalar (.int i))
  overflow : ¬ (-2 ^ 63 ≤ z ∧ z < 2 ^ 63) → ∃ text, outcome = .error (.overflow text "int64")

theorem packs_hintedInt (z : Int) :
    Packs z ((hintedInt none (some z)).map fun i => .scalar (.int i)) := by
  constructor
  · intro hfits
    have hspans : (hintedKind none).Spans z := spans_int64.2 hfits
    rcases hintedInt_of_spans hspans with ⟨i, hkind, hvalue, hi⟩
    rw [hi]
    exact ⟨i, hkind, hvalue, rfl⟩
  · intro hbeyond
    have hspans : ¬ (hintedKind none).Spans z := fun hspans => hbeyond (spans_int64.1 hspans)
    rw [hintedInt_of_not_spans hspans]
    exact ⟨_, rfl⟩

theorem exists_toHost_word (hdocumented : reader.Documented number pending)
    (hserves : reader.Serves number pending answer) (hnumber : number s object z)
    (hcalm : pending s = none) :
    ∃ outcome t, (ctx.toHost object).Comes answer s outcome t ∧ pending t = none ∧ Packs z outcome := by
  rcases hserves.kindOf hnumber with ⟨s₁, hkind, hnumber₁, hpending₁⟩
  rcases hserves.numericKind hnumber₁ with ⟨s₂, hhint, hnumber₂, hpending₂⟩
  have hcalm₂ : pending s₂ = none := hpending₂.trans (hpending₁.trans hcalm)
  rcases hdocumented.exists_reads hnumber₂ hcalm₂ with ⟨value, s₃, hrun, hreads⟩
  have hvalue := hserves.intValue s₂ object
  rw [hrun] at hvalue
  have hpending := hserves.errorPending s₃
  by_cases hfits : WordReader.Fits z
  · rcases hreads.exact hfits with ⟨rfl, hcalm₃⟩
    rw [hcalm₃] at hpending
    rcases hserves.release hreads.still with ⟨t, hrelease, hcalm'⟩
    have hhands : HandsOver answer object none (some z) s t :=
      .intro hkind hhint (.value hvalue hpending) hrelease
    exact ⟨_, t, ctx.comes_toHost_integer hhands, hcalm'.trans hcalm₃, packs_hintedInt z⟩
  · rcases hreads.refused hfits with ⟨rfl, text, hraised⟩
    rw [hraised] at hpending
    rcases hserves.takeError hreads.still with ⟨taken, s₄, htaken, hnumber₄, hcalm₄⟩
    rcases hserves.release hnumber₄ with ⟨t, hrelease, hcalm'⟩
    have hoverflow := ctx.comes_integerToHost_raised hhint hvalue hpending htaken
    have hpacked : (ctx.toHost object).Comes answer s
        (.error (.overflow ((taken.map Diagnostic.message).getD "integer") "int64")) t :=
      Comes.bind (Comes.ask hkind) (Comes.owningAll hoverflow.map (.ask hrelease (.done () t)))
    refine ⟨_, t, hpacked, hcalm'.trans hcalm₄, fun hword => ?_, fun _ => ⟨_, rfl⟩⟩
    exact absurd ⟨hword.1, by omega⟩ hfits

end Context

/-!
# The interpreter

The functions of the interpreter do what is documented of them.
-/

namespace Interpreter

/-- An object is an integer, and nothing but the error that is pending is different from a state. -/
def IsInteger (base s : Interpreter) (ref : Ref) (z : Int) : Prop :=
  (∃ object, base.heap.get? ref = some object ∧ object.content = .int z) ∧
    ∃ error, s = { base with pending := error }

variable {base s : Interpreter} {ref : Ref} {z : Int}

theorem run_integerOf (h : base.IsInteger s ref z) : (integerOf ref).run.run s = (.ok z, s) := by
  rcases h with ⟨⟨object, hget, hcontent⟩, error, rfl⟩
  have hfound : ({ base with pending := error } : Interpreter).heap.get? ref = some object := hget
  unfold integerOf
  rw [run_lift_bind, run_content_of_get? hfound, hcontent]
  rfl

theorem IsInteger.raise (h : base.IsInteger s ref z) (error : Option Diagnostic) :
    base.IsInteger { s with pending := error } ref z := by
  rcases h with ⟨hinteger, earlier, rfl⟩
  exact ⟨hinteger, error, rfl⟩

theorem documented_words (base : Interpreter) :
    words.Documented base.IsInteger Interpreter.pending where
  signed_within {s ref z} h hlow hhigh := by
    refine ⟨s, run_settle ?_, h, rfl⟩
    rw [run_act_bind (run_integerOf h), if_neg (by omega), if_neg (by omega)]
    rfl
  signed_above {s ref z} h hlow := by
    refine ⟨s, run_settle ?_, h, rfl⟩
    rw [run_act_bind (run_integerOf h), if_neg (by omega), if_pos (by omega)]
    rfl
  signed_below {s ref z} h hhigh := by
    refine ⟨s, run_settle ?_, h, rfl⟩
    rw [run_act_bind (run_integerOf h), if_pos (by omega)]
    rfl
  unsigned_within {s ref z} h hlow hhigh := by
    refine ⟨s, run_settle ?_, h, rfl⟩
    rw [run_act_bind (run_integerOf h), if_neg (by omega), if_neg (by omega)]
    rfl
  unsigned_above {s ref z} h hlow := by
    refine ⟨_, "int too big to convert", _, run_settle_error ?_, h.raise _, rfl⟩
    rw [run_act_bind (run_integerOf h), if_neg (by omega), if_pos (by omega)]
    rfl
  occurred s := rfl
  setError {s ref z} h error := ⟨_, rfl, h.raise _, rfl⟩

theorem serves_words (base : Interpreter) :
    words.Serves base.IsInteger Interpreter.pending serving where
  kindOf {s ref z} h := by
    refine ⟨s, ?_, h, rfl⟩
    rcases h with ⟨⟨object, hget, hcontent⟩, error, rfl⟩
    have hfound : ({ base with pending := error } : Interpreter).heap.get? ref = some object := hget
    show (Except.ok ((content ref).run _).1.kind, ((content ref).run _).2) = _
    rw [run_content_of_get? hfound, hcontent]
    rfl
  numericKind {s ref z} h := ⟨s, rfl, h, rfl⟩
  intValue s ref := rfl
  errorPending s := rfl
  takeError {s ref z} h := ⟨_, _, rfl, h.raise none, rfl⟩
  release {s ref z} _ := ⟨_, rfl, calm_release ref s⟩

/-- An integer that fits a word is read, and nothing is different. -/
theorem run_intValue_words (hcalm : s.pending = none) (h : s.IsInteger s ref z)
    (hfits : WordReader.Fits z) : (words.intValue ref).run s = (some z, s) := by
  rcases (documented_words s).exists_reads h hcalm with ⟨value, s', hrun, hreads⟩
  rcases hreads.exact hfits with ⟨rfl, hcalm'⟩
  rcases hreads.still with ⟨-, error, rfl⟩
  have herror : error = s.pending := hcalm'.trans hcalm.symm
  rw [hrun, herror]

end Interpreter

/-!
# All integers
-/

namespace Context

variable (ctx : Context) {reader : WordReader σ} {number : σ → Ref → Int → Prop}
  {pending : σ → Option Diagnostic} {answer : (r : Request) → Attempt σ r.Answer} {object : Ref} {s : σ}
  {z : Int}

/-- Whatever interpreter there is, if its functions do what is documented of them: an integer of any size
is read as it is, and no error is pending then, exactly if it fits a signed or an unsigned word, and else
an overflow is raised.  Packed through a bridge it is the very integer as a signed word, exactly if it
fits that, and else an overflow of that kind; no error is pending afterwards. -/
theorem words_exact (hdocumented : reader.Documented number pending)
    (hserves : reader.Serves number pending answer) (hnumber : number s object z)
    (hcalm : pending s = none) :
    (∃ value s', (reader.intValue object).run s = (value, s') ∧
      (value = some z ∧ pending s' = none ↔ -2 ^ 63 ≤ z ∧ z < 2 ^ 64) ∧
      (¬ (-2 ^ 63 ≤ z ∧ z < 2 ^ 64) →
        value = none ∧ ∃ text, pending s' = some ⟨"OverflowError", text⟩)) ∧
    ∃ outcome t, (ctx.toHost object).Comes answer s outcome t ∧ pending t = none ∧
      ((∃ i : HostInt, i.kind = .int64 ∧ i.value = z ∧ outcome = .ok (.scalar (.int i))) ↔
        -2 ^ 63 ≤ z ∧ z < 2 ^ 63) ∧
      (¬ (-2 ^ 63 ≤ z ∧ z < 2 ^ 63) → ∃ text, outcome = .error (.overflow text "int64")) := by
  constructor
  · rcases hdocumented.exists_reads hnumber hcalm with ⟨value, s', hrun, hreads⟩
    refine ⟨value, s', hrun, ⟨fun hread => ?_, hreads.exact⟩, hreads.refused⟩
    by_contra hbeyond
    rcases hreads.refused hbeyond with ⟨hnone, -⟩
    rw [hnone] at hread
    cases hread.1
  · rcases ctx.exists_toHost_word hdocumented hserves hnumber hcalm with
      ⟨outcome, t, hcomes, hcalm', hpacks⟩
    refine ⟨outcome, t, hcomes, hcalm', ⟨fun hword => ?_, hpacks.word⟩, hpacks.overflow⟩
    rcases hword with ⟨i, -, -, hvalue⟩
    by_contra hbeyond
    rcases hpacks.overflow hbeyond with ⟨text, herror⟩
    rw [herror] at hvalue
    cases hvalue

/-- An interpreter with integers around the ends of the words. -/
def sampleIntegers : Interpreter where
  heap := ⟨#[none, some ⟨1, ⟨.int (-1), none, none⟩, Nat.one_pos⟩,
    some ⟨1, ⟨.int (2 ^ 63), none, none⟩, Nat.one_pos⟩,
    some ⟨1, ⟨.int (-2 ^ 63 - 1), none, none⟩, Nat.one_pos⟩]⟩
  modules := .empty
  directories := []
  pending := none
  names := .empty

/-- Minus one is read and packed, two to the power of 63 is read but not packed, and what is below the
signed word is neither. -/
theorem words_of_sample :
    (∃ i : HostInt, i.kind = .int64 ∧ i.value = -1 ∧ ∃ t,
      (toHost ⟨0, "python", {}, 1⟩ ⟨1⟩).Comes Interpreter.serving sampleIntegers
        (.ok (.scalar (.int i))) t) ∧
    ((Interpreter.words.intValue ⟨2⟩).run sampleIntegers).1 = some (2 ^ 63) ∧
    (∃ text t, (toHost ⟨0, "python", {}, 1⟩ ⟨2⟩).Comes Interpreter.serving sampleIntegers
      (.error (.overflow text "int64")) t) ∧
    ((Interpreter.words.intValue ⟨3⟩).run sampleIntegers).1 = none := by
  have hwords : ∀ ref z, sampleIntegers.IsInteger sampleIntegers ref z → _ := fun ref z h =>
    words_exact ⟨0, "python", {}, 1⟩ (Interpreter.documented_words sampleIntegers)
      (Interpreter.serves_words sampleIntegers) h rfl
  have hone : sampleIntegers.IsInteger sampleIntegers ⟨1⟩ (-1) := ⟨⟨_, rfl, rfl⟩, none, rfl⟩
  have hlarge : sampleIntegers.IsInteger sampleIntegers ⟨2⟩ (2 ^ 63) := ⟨⟨_, rfl, rfl⟩, none, rfl⟩
  have hsmall : sampleIntegers.IsInteger sampleIntegers ⟨3⟩ (-2 ^ 63 - 1) :=
    ⟨⟨_, rfl, rfl⟩, none, rfl⟩
  refine ⟨?_, ?_, ?_, ?_⟩
  · rcases (hwords _ _ hone).2 with ⟨outcome, t, hcomes, -, hpacked, -⟩
    rcases hpacked.2 (by decide) with ⟨i, hkind, hvalue, rfl⟩
    exact ⟨i, hkind, hvalue, t, hcomes⟩
  · rcases (hwords _ _ hlarge).1 with ⟨value, s', hrun, hexact, -⟩
    rw [hrun]
    exact (hexact.2 (by decide)).1
  · rcases (hwords _ _ hlarge).2 with ⟨outcome, t, hcomes, -, -, hrefused⟩
    rcases hrefused (by decide) with ⟨text, rfl⟩
    exact ⟨text, t, hcomes⟩
  · rcases (hwords _ _ hsmall).1 with ⟨value, s', hrun, -, hrefused⟩
    rw [hrun]
    exact (hrefused (by decide)).1

end Context
end ForeignBridge
