import ForeignBridge.Proofs.Number.Patterns
import ForeignBridge.Proofs.Number.Words

/-!
# Exact conversions

Whatever is made an integer of a kind is that integer, or nothing is made.  A wide integer has to be in
the range of the kind, and a double has to be whole besides; that one beyond 128 bits is passed on as an
end of their range makes no difference, as no kind has that end.
-/

namespace ForeignBridge

open NumericKind BinaryFormat

/-!
# Wide integers
-/

section Wide

variable {kind : NumericKind} {value : Int}

theorem HostInt.ofInt_eq_ok_iff (i : HostInt) :
    HostInt.ofInt kind value = .ok i ↔ i.kind = kind ∧ i.value = value := by
  unfold HostInt.ofInt
  constructor
  · intro h
    split at h
    · split at h
      · cases h
        exact ⟨rfl, rfl⟩
      · cases h
    · cases h
  · rintro ⟨rfl, rfl⟩
    rw [if_pos i.fits.1, dif_pos i.fits]

theorem HostInt.ofInt_of_spans (hkind : kind.isInteger = true) (h : kind.Spans value) :
    HostInt.ofInt kind value = .ok ⟨kind, value, (holds_iff_spans hkind).2 h⟩ :=
  (HostInt.ofInt_eq_ok_iff _).2 ⟨rfl, rfl⟩

theorem HostInt.ofInt_of_not_spans (hkind : kind.isInteger = true) (h : ¬ kind.Spans value) :
    HostInt.ofInt kind value = .error (.overflow (.integer value) kind) := by
  unfold HostInt.ofInt
  rw [if_pos hkind, dif_neg fun hfits => h ((holds_iff_spans hkind).1 hfits)]

theorem HostInt.ofInt_of_mismatch (hkind : kind.isInteger = false) :
    HostInt.ofInt kind value = .error (.kindMismatch .integer kind) := by
  unfold HostInt.ofInt
  rw [hkind]
  rfl

theorem Scalar.ofInt_of_isInteger (hkind : kind.isInteger = true) :
    Scalar.ofInt kind value = (HostInt.ofInt kind value).map .int := by
  unfold Scalar.ofInt
  rw [if_pos hkind]

/-- The double next to a wide integer is in the range of the singles. -/
theorem HostFloat.exists_single_ofInt (wide : BitVec 128) :
    ∃ x, HostFloat.ofDouble .single (Binary.ofInt wide.toInt) = .ok x := by
  have hlow := BitVec.le_toInt wide
  have hhigh := BitVec.toInt_lt (x := wide)
  have habs : wide.toInt.natAbs ≤ 2 ^ 127 := by omega
  have hexponent : 127 + binary64.unitExponent = binary64.fractionBits + 1 + 1148 := by decide
  have hunits : wide.toInt.natAbs * 2 ^ binary64.unitExponent ≤
      2 ^ (binary64.fractionBits + 1 + 1148) := by
    rw [← hexponent, pow_add]
    exact Nat.mul_le_mul_right _ habs
  have hlarger : wide.toInt.natAbs * 2 ^ binary64.unitExponent <
      2 ^ (binary64.fractionBits + 1 + 1149) :=
    Nat.lt_of_le_of_lt hunits
      (Nat.pow_lt_pow_right Nat.one_lt_two (Nat.add_lt_add_left (Nat.lt_succ_self 1148) _))
  have hgreatest : 2 ^ (binary64.fractionBits + 1 + 1148) ≤
      binary64.units (widenedCode binary32 binary64 (binary32.infinity - 1)) := by
    rw [units_widenedCode widens_single_double]
    decide +kernel
  have hexponents : 1149 + 2 < 2 ^ binary64.exponentBits - 1 := by decide
  have hrange := HostFloat.in_range_of_units_le (wide.toInt < 0)
    (nearestCode_lt_infinity binary64 hlarger hexponents)
    (Nat.le_trans (units_nearestCode_le binary64 hunits) hgreatest)
  rw [Binary.ofInt_eq]
  exact ⟨_, HostFloat.ofDouble_of_in_range hrange⟩

theorem Scalar.ofInt_of_isFloat (hkind : kind.isInteger = false) (hfloat : kind.isFloat = true) :
    Scalar.ofInt kind value = (HostFloat.ofDouble kind (Binary.ofInt value)).map .real := by
  unfold Scalar.ofInt
  rw [hkind, if_neg Bool.false_ne_true, if_pos hfloat]

theorem Scalar.exists_ofInt_of_mismatch (hkind : kind.isInteger = false) (wide : BitVec 128) :
    ∃ s, Scalar.ofInt kind wide.toInt = .ok s := by
  cases kind with
  | single =>
      rcases HostFloat.exists_single_ofInt wide with ⟨x, hx⟩
      rw [Scalar.ofInt_of_isFloat rfl rfl, hx]
      exact ⟨_, rfl⟩
  | double =>
      rw [Scalar.ofInt_of_isFloat rfl rfl]
      exact ⟨_, rfl⟩
  | logical => exact ⟨_, rfl⟩
  | _ => cases hkind

/-- What becomes of a wide integer that is to be a number of a kind. -/
structure HostInt.MadeExactly (kind : NumericKind) (wide : BitVec 128) : Prop where
  made : (∃ i, HostInt.ofInt kind wide.toInt = .ok i) ↔
    kind ∈ [int8, uint8, int16, uint16, int32, uint32, int64, uint64] ∧ kind.Spans wide.toInt
  exact : ∀ i, HostInt.ofInt kind wide.toInt = .ok i → i.kind = kind ∧ i.value = wide.toInt
  mismatched : kind.isInteger = false →
    HostInt.ofInt kind wide.toInt = .error (.kindMismatch .integer kind)
  overflows : kind.isInteger = true → ¬ kind.Spans wide.toInt →
    HostInt.ofInt kind wide.toInt = .error (.overflow (.integer wide.toInt) kind)
  /-- The same comes of comparing, cutting and widening words. -/
  words : kind.isInteger = true → (HostInt.ofInt kind wide.toInt).toOption.map HostInt.value =
    (kind.narrow? wide).map fun word => (kind.widen word).toInt
  scalar : kind.isInteger = true →
    Scalar.ofInt kind wide.toInt = (HostInt.ofInt kind wide.toInt).map .int
  others : kind.isInteger = false → ∃ s, Scalar.ofInt kind wide.toInt = .ok s

theorem HostInt.madeExactly (kind : NumericKind) (wide : BitVec 128) :
    HostInt.MadeExactly kind wide where
  made := by
    rw [← isInteger_iff]
    constructor
    · rintro ⟨i, hi⟩
      rcases (HostInt.ofInt_eq_ok_iff i).1 hi with ⟨rfl, hvalue⟩
      rw [← hvalue]
      exact ⟨i.fits.1, spans_iff.2 i.fits.2⟩
    · exact fun h => ⟨_, HostInt.ofInt_of_spans h.1 h.2⟩
  exact := fun i => (HostInt.ofInt_eq_ok_iff i).1
  mismatched := HostInt.ofInt_of_mismatch
  overflows := HostInt.ofInt_of_not_spans
  words := by
    intro hkind
    unfold narrow?
    by_cases h : kind.Spans wide.toInt
    · rw [HostInt.ofInt_of_spans hkind h, if_pos (between_iff.2 h), Option.map_some, widen_cut h]
      rfl
    · rw [HostInt.ofInt_of_not_spans hkind h, if_neg fun hbetween => h (between_iff.1 hbetween)]
      rfl
  scalar := Scalar.ofInt_of_isInteger
  others := fun hkind => Scalar.exists_ofInt_of_mismatch hkind wide

end Wide

/-!
# Doubles
-/

namespace Scalar

variable {kind : NumericKind} {x : Double} {n : Int}

/-- No kind has an end of the wide range. -/
theorem spans_clampWide : kind.Spans (clampWide n) ↔ kind.Spans n := by
  have hsame : -2 ^ 63 ≤ clampWide n ∧ clampWide n < 2 ^ 64 ∨ -2 ^ 63 ≤ n ∧ n < 2 ^ 64 →
      clampWide n = n := by
    unfold clampWide
    omega
  constructor
  · intro h
    rwa [← hsame (.inl h.bounds)]
  · intro h
    rwa [hsame (.inr h.bounds)]

theorem ofDouble_of_isInteger (hkind : kind.isInteger = true) :
    ofDouble kind x =
      match x.integer? with
      | some value => (HostInt.ofInt kind (clampWide value)).map int
      | none => .error (.inexact (.double x) kind) := by
  unfold ofDouble
  rw [isFloat_of_isInteger hkind, hkind]
  rfl

theorem ofDouble_of_quantity (hkind : kind.isInteger = true) (hx : x.quantity? = some (n : ℚ)) :
    ofDouble kind x = (HostInt.ofInt kind (clampWide n)).map int := by
  rw [ofDouble_of_isInteger hkind, (Binary.integer?_eq_some_iff x n).2 hx]

theorem ofDouble_of_fraction (hkind : kind.isInteger = true)
    (hx : ∀ n : Int, x.quantity? ≠ some (n : ℚ)) :
    ofDouble kind x = .error (.inexact (.double x) kind) := by
  have hnone : x.integer? = none :=
    Option.eq_none_iff_forall_ne_some.2 fun n hn => hx n ((Binary.integer?_eq_some_iff x n).1 hn)
  rw [ofDouble_of_isInteger hkind, hnone]

theorem ofDouble_of_spans (hkind : kind.isInteger = true) (hx : x.quantity? = some (n : ℚ))
    (h : kind.Spans n) : ofDouble kind x = .ok (.int ⟨kind, n, (holds_iff_spans hkind).2 h⟩) := by
  have hsame : clampWide n = n := by
    have hbounds := h.bounds
    unfold clampWide
    omega
  rw [ofDouble_of_quantity hkind hx, hsame, HostInt.ofInt_of_spans hkind h]
  rfl

theorem ofDouble_of_not_spans (hkind : kind.isInteger = true) (hx : x.quantity? = some (n : ℚ))
    (h : ¬ kind.Spans n) :
    ofDouble kind x = .error (.overflow (.integer (clampWide n)) kind) := by
  rw [ofDouble_of_quantity hkind hx,
    HostInt.ofInt_of_not_spans hkind fun hclamp => h (spans_clampWide.1 hclamp)]
  rfl

/-- What becomes of a double of some quantity that is to be an integer of a kind. -/
structure ConvertedExactly (kind : NumericKind) (x : Double) (quantity : Option ℚ) : Prop where
  converted : (∃ s, ofDouble kind x = .ok s) ↔ ∃ n : Int, quantity = some (n : ℚ) ∧ kind.Spans n
  exact : ∀ s, ofDouble kind x = .ok s →
    ∃ i : HostInt, s = .int i ∧ i.kind = kind ∧ quantity = some (i.value : ℚ)
  inexact : (∀ n : Int, quantity ≠ some (n : ℚ)) →
    ofDouble kind x = .error (.inexact (.double x) kind)
  overflows : ∀ n : Int, quantity = some (n : ℚ) → ¬ kind.Spans n →
    ofDouble kind x = .error (.overflow (.integer (clampWide n)) kind)

theorem convertedExactly (hkind : kind.isInteger = true) (x : Double) :
    ConvertedExactly kind x x.quantity? := by
  have hexact : ∀ s, ofDouble kind x = .ok s →
      ∃ i : HostInt, s = .int i ∧ i.kind = kind ∧ x.quantity? = some (i.value : ℚ) := by
    intro s hs
    by_cases hwhole : ∃ n : Int, x.quantity? = some (n : ℚ)
    · rcases hwhole with ⟨n, hn⟩
      by_cases hspans : kind.Spans n
      · rw [ofDouble_of_spans hkind hn hspans] at hs
        cases hs
        exact ⟨_, rfl, rfl, hn⟩
      · rw [ofDouble_of_not_spans hkind hn hspans] at hs
        cases hs
    · rw [ofDouble_of_fraction hkind (not_exists.1 hwhole)] at hs
      cases hs
  refine ⟨⟨?_, ?_⟩, hexact, ofDouble_of_fraction hkind, fun n => ofDouble_of_not_spans hkind⟩
  · rintro ⟨s, hs⟩
    rcases hexact s hs with ⟨i, -, rfl, hvalue⟩
    exact ⟨i.value, hvalue, spans_iff.2 i.fits.2⟩
  · rintro ⟨n, hn, hspans⟩
    exact ⟨_, ofDouble_of_spans hkind hn hspans⟩

/-- Every bit pattern of a double that is to be an integer of a kind becomes the very number that it
stands for, if that is whole and in the range of the kind.  Fractions, infinities and what is not a
number are inexact, and whole numbers beyond the range, however large, are an overflow.  There are no
doubles but those of the bit patterns. -/
theorem convertedExactly_of_pattern (hkind : kind.isInteger = true) :
    (∀ bits : BitVec 64, ConvertedExactly kind (Binary.ofBits bits.toNat)
      (BinaryFormat.binary64.pattern? bits.toNat)) ∧
    ∀ x : Double, ∃ bits : BitVec 64, Binary.ofBits bits.toNat = x := by
  constructor
  · intro bits
    have hconverted := convertedExactly hkind (Binary.ofBits bits.toNat)
    rw [Binary.quantity?_ofBits (by decide)] at hconverted
    exact hconverted
  · intro x
    have hlt : x.toBits < 2 ^ 64 := Binary.toBits_lt (by decide) x
    refine ⟨BitVec.ofNatLT x.toBits hlt, ?_⟩
    rw [BitVec.toNat_ofNatLT]
    exact Binary.ofBits_toBits (by decide) x

/-!
The double after the greatest signed word of 64 bits is whole, and is an overflow.
-/

theorem overflow_of_samplePattern :
    NumericKind.isInteger .int64 = true ∧
      ofDouble .int64 (Binary.ofBits 0x43e0000000000000) =
        .error (.overflow (.integer (2 ^ 63)) .int64) := by
  have hkind : NumericKind.isInteger .int64 = true := rfl
  have hwhole : (Binary.ofBits 0x43e0000000000000 : Double).integer? = some (2 ^ 63) := by
    decide +kernel
  have hquantity := (Binary.integer?_eq_some_iff _ _).1 hwhole
  rw [Binary.quantity?_ofBits (by decide)] at hquantity
  have hspans : ¬ NumericKind.Spans .int64 (2 ^ 63) := by
    rw [← holds_iff_spans hkind]
    decide
  have hclamp : clampWide (2 ^ 63) = 2 ^ 63 := by decide
  have hconverted := (convertedExactly_of_pattern hkind).1 0x43e0000000000000#64
  have hoverflow := hconverted.overflows _ hquantity hspans
  rw [hclamp] at hoverflow
  exact ⟨hkind, hoverflow⟩

end Scalar
end ForeignBridge
