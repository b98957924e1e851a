import ForeignBridge.Proofs.Crossing.Conversion
import ForeignBridge.Proofs.Number.Rounding
import ForeignBridge.Proofs.Reading.Lender
import ForeignBridge.Proofs.Text.Utf8

/-!
# Reading plain objects

An object that is no sequence is converted to its value, or fails as its value does.  The reference
to it is given back, unless the value is a handle, which keeps it.
-/

namespace ForeignBridge
namespace Simulation

/-!
# Numbers of a kind
-/

theorem filter_isInteger {value : Int} {tag : Option NumericKind}
    (htagged : (Object.int value tag).Tagged) : tag.filter NumericKind.isInteger = tag := by
  cases tag with
  | none => rfl
  | some kind =>
      rcases htagged with ⟨i, hkind, -⟩
      rw [Option.filter_some, ← hkind, if_pos i.fits.1]

theorem ofInt_eq_hostInt {value : Int} {tag : Option NumericKind}
    (htagged : (Object.int value tag).Tagged) :
    (HostInt.ofInt (tag.getD .int64) value).mapError BridgeError.ofNumeric = hostInt value tag := by
  have hinteger : (tag.getD .int64).isInteger = true := by
    cases tag with
    | none => rfl
    | some kind =>
        rcases htagged with ⟨i, hkind, -⟩
        rw [Option.getD_some, ← hkind]
        exact i.fits.1
  unfold HostInt.ofInt hostInt
  rw [if_pos hinteger]
  split
  · rfl
  · rfl

theorem ofDouble_eq_hostFloat {x : Double} {tag : Option NumericKind}
    (htagged : (Object.float x tag).Tagged) :
    HostFloat.ofDouble ((tag.filter NumericKind.isFloat).getD .double) x =
      .ok (hostFloat x tag) := by
  cases tag with
  | none => rfl
  | some kind =>
      rcases htagged with ⟨f, hkind, hx⟩
      have hback := HostFloat.ofDouble_toDouble f
      rw [hkind, hx] at hback
      cases f with
      | double y =>
          cases hkind
          rfl
      | single y =>
          cases hkind
          have hsingle : x.convert .binary32 = y := by
            rw [← hx]
            exact Binary.convert_convert BinaryFormat.widens_single_double y
          show HostFloat.ofDouble .single x = .ok (.single (x.convert .binary32))
          rw [hsingle]
          exact hback

end Simulation

namespace Context

open Crossing Simulation

/-- What owns a reference gives it back in the end. -/
theorem comes_of_ends {σ α : Type} {L : Lender σ} {held held' : Multiset Ref} {ref : Ref} {t : σ}
    {c : Crossing α} {outcome : Except BridgeError α} (h : L.Lends c held outcome held')
    (hend : L.Ends ref held' t) :
    (owning ref c).Comes L.answer (L.lending held) outcome t :=
  Comes.owningAll h (.ask hend (.done () t))

variable {σ : Type} (ctx : Context) {L : Lender σ} (hL : L.Serves) {held : Multiset Ref} {ref : Ref}

include hL

/-!
# Checks
-/

theorem lends_checkValue {α : Type} (operation : Operation) (value : α) :
    L.Lends (ctx.checkValue operation (some value)) held (.ok value) held := by
  unfold checkValue
  exact Comes.bind (hL.errorPending held).lends Comes.pure

theorem lends_checkRef (operation : Operation) (ref : Ref) :
    L.Lends (ctx.checkRef operation (some ref)) held (.ok ref) held := by
  unfold checkRef
  exact Comes.bind (hL.errorPending held).lends Comes.pure

theorem lends_clearError : L.Lends clearError held (.ok none) held := by
  unfold clearError
  exact Comes.bind (hL.errorPending held).lends Comes.pure

theorem lends_owning {α : Type} {c : Crossing α} {outcome : Except BridgeError α}
    {held' : Multiset Ref} (hknown : L.Knows ref)
    (h : L.Lends c (ref ::ₘ held) outcome (ref ::ₘ held')) :
    L.Lends (owning ref c) (ref ::ₘ held) outcome held' :=
  comes_of_ends h (hL.release held' hknown)

/-!
# Scalars and text
-/

section Scalars

variable (hknown : L.Knows ref)

include hknown

theorem lends_integerToHost {value : Int} {tag : Option NumericKind}
    (hcontent : contentOf L.heap ref = .int value tag) :
    L.Lends (ctx.integerToHost ref) held (hostInt value tag) held := by
  have htagged := hL.tagged ref
  rw [hcontent] at htagged
  have hnumeric : (contentOf L.heap ref).numericKind? = tag := by rw [hcontent]; rfl
  unfold integerToHost
  apply Comes.bind (hL.numericKind held hknown).lends
  apply Comes.bind (hL.intValue held hknown hcontent).lends
  apply Comes.bind Comes.pure
  apply Comes.bind (ctx.lends_checkValue hL _ value)
  rw [hnumeric, filter_isInteger htagged, ← ofInt_eq_hostInt htagged]
  cases HostInt.ofInt (tag.getD .int64) value with
  | ok i => exact Comes.pure
  | error fault => exact Comes.throw

theorem lends_floatToHost {x : Double} {tag : Option NumericKind}
    (hcontent : contentOf L.heap ref = .float x tag) :
    L.Lends (ctx.floatToHost ref) held (.ok (hostFloat x tag)) held := by
  have htagged := hL.tagged ref
  rw [hcontent] at htagged
  have hnumeric : (contentOf L.heap ref).numericKind? = tag := by rw [hcontent]; rfl
  unfold floatToHost
  apply Comes.bind (hL.numericKind held hknown).lends
  apply Comes.bind (hL.floatValue held hknown hcontent).lends
  apply Comes.bind (ctx.lends_checkValue hL _ x)
  rw [hnumeric, ofDouble_eq_hostFloat htagged]
  exact Comes.pure

theorem lends_textToHost {bytes : List UInt8}
    (hbytes : (contentOf L.heap ref).bytes? = some bytes) :
    L.Lends (ctx.textToHost ref) held
      ((Utf8.decode bytes).mapError fun fault => .typeConversion (.malformedText fault)) held := by
  unfold textToHost
  apply Comes.bind (hL.stringBytes held hknown hbytes).lends
  apply Comes.bind (ctx.lends_checkValue hL _ bytes)
  cases Utf8.decode bytes with
  | ok text => exact Comes.pure
  | error fault => exact Comes.throw

theorem lends_textToHost_of_text {text : String}
    (hbytes : (contentOf L.heap ref).bytes? = some (Utf8.encode text)) :
    L.Lends (ctx.textToHost ref) held (.ok text) held := by
  have hdecoded : L.Lends (ctx.textToHost ref) held _ held :=
    ctx.lends_textToHost hL hknown hbytes
  rw [Utf8.decode_encode] at hdecoded
  exact hdecoded

/-- Text with a lone surrogate is refused, and the error of the runtime is fetched. -/
theorem lends_textToHost_of_surrogate {codes : List UInt16}
    (hcontent : contentOf L.heap ref = .units codes) (hcodes : Utf16.decode? codes = none) :
    L.Lends (ctx.textToHost ref) held
      (.error (.typeConversion
        (.unencodable (some ⟨"UnicodeEncodeError", "surrogates not allowed"⟩)))) held := by
  unfold textToHost clearError
  apply Comes.bind (Comes.ask (hL.unencodable held hknown hcontent hcodes))
  apply Comes.bind
  · exact Comes.bind (Comes.ask (hL.errorPending_raising held))
      (Comes.ask (hL.takeError_raising held))
  · exact Comes.throw

theorem lends_wrap :
    L.Lends (ctx.wrap ref) held (.ok ⟨ctx.id, ref, className L.heap ref⟩) held := by
  unfold wrap
  apply Comes.bind (hL.typeName held hknown).lends
  apply Comes.bind (lends_clearError hL)
  exact Comes.pure

end Scalars

/-!
# Plain objects
-/

omit ctx hL in
/-- What holds no reference is made, and then the object is given back. -/
theorem comes_given {α : Type} {c : Crossing α} {outcome : Except BridgeError α} {f : α → Value}
    {after : Except BridgeError Value → σ}
    (hend : ∀ outcome, L.Ends ref (lentBy Value.refs held outcome) (after outcome))
    (h : L.Lends c held outcome held) (hrefs : ∀ a, (f a).refs = []) :
    (owning ref (c >>= fun a => pure (f a))).Comes L.answer (L.lending held) (outcome.map f)
      (after (outcome.map f)) := by
  have hlent : lentBy Value.refs held (outcome.map f) = held := by
    cases outcome with
    | ok a =>
        show ((f a).refs : Multiset Ref) + held = held
        rw [hrefs a, Multiset.coe_nil, zero_add]
    | error error => rfl
  have hlast := hend (outcome.map f)
  rw [hlent] at hlast
  exact comes_of_ends h.map hlast

/-- A handle keeps the reference, as if it had one more that is given back. -/
theorem comes_handle {after : Except BridgeError Value → σ} (hknown : L.Knows ref)
    (hend : ∀ outcome, L.Ends ref (lentBy Value.refs held outcome) (after outcome)) :
    (ctx.wrap ref >>= fun handle => pure (Value.foreign handle)).Comes L.answer (L.lending held)
      (.ok (.foreign ⟨ctx.id, ref, className L.heap ref⟩))
      (after (.ok (.foreign ⟨ctx.id, ref, className L.heap ref⟩))) := by
  have hlast := hend (.ok (.foreign ⟨ctx.id, ref, className L.heap ref⟩))
  have hlent : lentBy Value.refs held (.ok (.foreign ⟨ctx.id, ref, className L.heap ref⟩)) =
      ref ::ₘ held := Multiset.singleton_add ref held
  rw [hlent] at hlast
  rw [hlast.unique (hL.release held hknown)]
  exact Comes.bind (ctx.lends_wrap hL hknown) Comes.pure

/-- An object that is no sequence is converted, and then it is given back. -/
theorem comes_plainToHost {after : Except BridgeError Value → σ} (hknown : L.Knows ref)
    (hend : ∀ outcome, L.Ends ref (lentBy Value.refs held outcome) (after outcome))
    (hplain : (contentOf L.heap ref).items? = none) (convertSequence : Ref → Crossing Value) :
    (ctx.objectToHost convertSequence ref).Comes L.answer (L.lending held)
      (plainValue L.heap ctx.id ref) (after (plainValue L.heap ctx.id ref)) := by
  unfold objectToHost plainValue
  rcases hL.kindOf held hknown with ⟨kind, rfl | ⟨hother, rfl⟩, hkind⟩
  case inr =>
    apply Comes.bind hkind.lends
    cases hcontent : contentOf L.heap ref with
    | bag _ | moduleOf _ _ | classOf _ _ | instanceOf _ _ | function _ _ | boundMethod _ _ =>
        exact ctx.comes_handle hL hknown hend
    | _ =>
        rw [hcontent] at hother
        cases hother
  apply Comes.bind hkind.lends
  cases hcontent : contentOf L.heap ref with
  | null =>
      have hnothing : L.Lends (pure ()) held (.ok ()) held := Comes.pure
      exact comes_given (f := fun _ => .undefined) hend hnothing fun _ => rfl
  | bool b => exact comes_given hend (hL.boolValue held hknown hcontent).lends fun _ => rfl
  | int value tag =>
      exact comes_given hend (ctx.lends_integerToHost hL hknown hcontent) fun _ => rfl
  | float x tag => exact comes_given hend (ctx.lends_floatToHost hL hknown hcontent) fun _ => rfl
  | bytes octets =>
      have hbytes : (contentOf L.heap ref).bytes? = some octets := by rw [hcontent]; rfl
      exact comes_given hend (ctx.lends_textToHost hL hknown hbytes) fun _ => rfl
  | text chars =>
      have hbytes : (contentOf L.heap ref).bytes? = some (Utf8.encode chars) := by
        rw [hcontent]
        rfl
      exact comes_given (f := .text) hend (ctx.lends_textToHost_of_text hL hknown hbytes)
        fun _ => rfl
  | units codes =>
      have hdecoded : (contentOf L.heap ref).bytes? = (Utf16.decode? codes).map Utf8.encode := by
        rw [hcontent]
        rfl
      dsimp only
      cases hcodes : Utf16.decode? codes with
      | none =>
          exact comes_given (f := .text) hend
            (ctx.lends_textToHost_of_surrogate hL hknown hcontent hcodes) fun _ => rfl
      | some text =>
          rw [hcodes] at hdecoded
          exact comes_given (f := .text) hend
            (ctx.lends_textToHost_of_text hL hknown hdecoded) fun _ => rfl
  | tuple items | list items =>
      rw [hcontent] at hplain
      cases hplain
  | bag _ | moduleOf _ _ | classOf _ _ | instanceOf _ _ | function _ _ | boundMethod _ _ =>
      exact ctx.comes_handle hL hknown hend

theorem lends_plainToHost (hknown : L.Knows ref)
    (hplain : (contentOf L.heap ref).items? = none) (convertSequence : Ref → Crossing Value) :
    L.Lends (ctx.objectToHost convertSequence ref) (ref ::ₘ held) (plainValue L.heap ctx.id ref)
      (lentBy Value.refs held (plainValue L.heap ctx.id ref)) :=
  ctx.comes_plainToHost hL hknown (hL.ends hknown Value.refs held) hplain convertSequence

end Context
end ForeignBridge
