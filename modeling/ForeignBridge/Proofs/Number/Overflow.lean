import ForeignBridge.Host.Error
import ForeignBridge.Proofs.Number.Decimal
import ForeignBridge.Proofs.Number.Exactness

/-!
# What an overflow names

A number that a kind cannot hold is written into the failure, which names the kind as well, and both stay
there when the failure becomes one of the bridge.  An integer is written with its digits, and a double
that is to be a float so that it reads back.  A double that is to be an integer is written as the integer
it has been passed on as, and that reads back only if the double is not beyond the wide range.
-/

namespace ForeignBridge
namespace Binary

open BinaryFormat

variable {F : BinaryFormat}

/-- A number other than zero shows its sign. -/
theorem sign_of_place? {negative : Bool} {code : Fin (F.infinity + 1)} {p : ℚ}
    (hp : (number negative code).place? = some p) (hne : p ≠ 0) : negative = decide (p < 0) := by
  rw [place?_number, Option.some_inj] at hp
  have hnonneg := value_nonneg F code.val
  cases negative with
  | false =>
      rw [if_neg Bool.false_ne_true] at hp
      exact (decide_eq_false (by linarith)).symm
  | true =>
      rw [if_pos rfl] at hp
      refine (decide_eq_true (lt_of_le_of_ne (by linarith) hne)).symm

theorem eq_of_place? {x y : Binary F} {p : ℚ} (hx : x.place? = some p) (hy : y.place? = some p)
    (hne : p ≠ 0) : x = y := by
  match x, y with
  | nan, _ => cases hx
  | number _ _, nan => cases hy
  | number negative code, number negative' other =>
      obtain rfl : negative = negative' := (sign_of_place? hx hne).trans (sign_of_place? hy hne).symm
      have hsame := (place?_number _ _).symm.trans (hx.trans (hy.symm.trans (place?_number _ _)))
      rw [Option.some_inj] at hsame
      have hvalue : F.value code.val = F.value other.val := by
        cases negative with
        | false => exact hsame
        | true => exact neg_injective hsame
      rw [Fin.ext ((value_strictMono F).injective hvalue)]

theorem exists_quantity?_of_isFinite {x : Binary F} (h : x.isFinite = true) :
    ∃ q, x.quantity? = some q := by
  cases x with
  | nan => cases h
  | number negative code =>
      have hcode : code.val < F.infinity := of_decide_eq_true h
      rw [← ofCode_val]
      exact ⟨_, quantity?_ofCode negative hcode⟩

/-- Digits of an integer that are read as a datum stand for the integer that is nearest to it. -/
theorem readsAs_int {x : Binary F} {m : Int} {p : ℚ} (hp : x.place? = some p) (hne : p ≠ 0)
    (hsign : p < 0 ↔ m < 0) : ReadsAs (toString m) x ↔ x.NearestTo m := by
  have hdecimal := decimal?_int m
  constructor
  · rintro ⟨negative, q, code, hread, rfl, hnearest⟩
    obtain ⟨rfl, rfl⟩ := Prod.mk.inj (Option.some.inj (hdecimal.symm.trans hread))
    rwa [signed_abs] at hnearest
  · intro hnearest
    match x with
    | nan => cases hp
    | number negative code =>
        have hnegative : negative = decide (m < 0) := by
          rw [sign_of_place? hp hne]
          exact decide_eq_decide.2 hsign
        refine ⟨_, _, code, hdecimal, by rw [hnegative], ?_⟩
        rwa [signed_abs]

end Binary

namespace Scalar

/-- A whole double is written as the integer that it is passed on as, which reads back if the double is
in the wide range or at its upper end. -/
theorem readsAs_clampWide {x : Double} {n : Int} (hx : x.quantity? = some (n : ℚ)) (hne : n ≠ 0) :
    Binary.ReadsAs (toString (clampWide n)) x ↔ |(n : ℚ)| ≤ 2 ^ 127 := by
  have hplace := Binary.place?_of_quantity? hx
  have hsign : ((n : ℚ) < 0) ↔ clampWide n < 0 := by
    rw [Int.cast_lt_zero]
    unfold clampWide
    omega
  have hend : (Binary.ofInt (2 ^ 127) : Double).quantity? = some ((2 ^ 127 : Int) : ℚ) :=
    (Binary.integer?_eq_some_iff _ _).1 (by decide +kernel)
  rw [Binary.readsAs_int hplace (by exact_mod_cast hne) hsign]
  constructor
  · intro hnearest
    have hclamp : |(clampWide n : ℚ)| ≤ (2 ^ 127 : Int) := by
      rw [← Int.cast_abs, Int.cast_le, abs_le]
      unfold clampWide
      omega
    rcases hnearest.bounded hend hclamp with ⟨p, hp, hle⟩
    obtain rfl := Option.some.inj (hx.symm.trans hp)
    exact_mod_cast hle
  · intro hle
    have hbounds : -2 ^ 127 ≤ n ∧ n ≤ 2 ^ 127 := abs_le.1 (by exact_mod_cast hle)
    rcases eq_or_ne n (2 ^ 127) with rfl | hother
    · -- The upper end is no double, and the one next to it is the power of two.
      have hnext : (Binary.ofInt (clampWide (2 ^ 127)) : Double) = Binary.ofInt (2 ^ 127) := by
        decide +kernel
      have hnearest : (Binary.ofInt (clampWide (2 ^ 127)) : Double).NearestTo _ :=
        Binary.nearestTo_ofInt (by decide) _
      rw [hnext, ← Binary.eq_of_place? hplace (Binary.place?_of_quantity? hend) (by norm_num)]
        at hnearest
      exact hnearest
    · have hsame : clampWide n = n := by
        unfold clampWide
        omega
      rw [hsame]
      exact Binary.nearestTo_of_place? hplace

end Scalar

/-!
# Failures
-/

namespace NumericKind

/-- What the failures say of the numbers that a kind cannot hold. -/
structure OverflowsNamed (kind : NumericKind) : Prop where
  integer : ∀ (n : Int) value target, HostInt.ofInt kind n = .error (.overflow value target) →
    target = kind ∧ value.text = toString n
  float : ∀ x value target, HostFloat.ofDouble kind x = .error (.overflow value target) →
    target = kind ∧ Binary.ReadsAs value.text x
  scalar_integer : ∀ (wide : BitVec 128) value target,
    Scalar.ofInt kind wide.toInt = .error (.overflow value target) →
      target = kind ∧ value.text = toString wide.toInt
  scalar_double : ∀ x value target, Scalar.ofDouble kind x = .error (.overflow value target) →
    target = kind ∧ (Binary.ReadsAs value.text x ↔
      kind.isFloat = true ∨ ∃ q, x.quantity? = some q ∧ |q| ≤ 2 ^ 127)
  bridge : ∀ value target, BridgeError.ofNumeric (.overflow value target) =
    .overflow value.text target.name

variable {kind target : NumericKind} {value : Numeral}

theorem holds_zero (hkind : kind.isInteger = true) : kind.Holds 0 := by
  have hends : kind.least ≤ 0 ∧ 0 ≤ kind.greatest := by
    cases kind <;> decide
  exact ⟨hkind, hends⟩

theorem named_of_ofInt {n : Int} (h : HostInt.ofInt kind n = .error (.overflow value target)) :
    target = kind ∧ value = .integer n ∧ ¬ kind.Holds n := by
  unfold HostInt.ofInt at h
  split at h
  · split at h
    · cases h
    · next hfits =>
        obtain ⟨rfl, rfl⟩ := NumericFault.overflow.inj (Except.error.inj h)
        exact ⟨rfl, rfl, hfits⟩
  · cases h

theorem named_of_ofDouble {x : Double}
    (h : HostFloat.ofDouble kind x = .error (.overflow value target)) :
    target = kind ∧ value = .double x ∧ ∃ q, x.quantity? = some q := by
  unfold HostFloat.ofDouble at h
  split at h
  · cases h
  · split at h
    · next hbeyond =>
        obtain ⟨rfl, rfl⟩ := NumericFault.overflow.inj (Except.error.inj h)
        exact ⟨rfl, rfl, Binary.exists_quantity?_of_isFinite (Bool.and_eq_true_iff.1 hbeyond).1⟩
    · cases h
  · cases h

theorem error_of_map_error {α β ε : Type} {f : α → β} {result : Except ε α} {fault : ε}
    (h : result.map f = .error fault) : result = .error fault := by
  cases result with
  | ok _ => cases h
  | error _ => exact congrArg Except.error (Except.error.inj h)

theorem named_of_scalar_ofInt {wide : BitVec 128}
    (h : Scalar.ofInt kind wide.toInt = .error (.overflow value target)) :
    target = kind ∧ value = .integer wide.toInt := by
  cases hkind : kind.isInteger with
  | true =>
      rw [Scalar.ofInt_of_isInteger hkind] at h
      obtain ⟨rfl, rfl, -⟩ := named_of_ofInt (error_of_map_error h)
      exact ⟨rfl, rfl⟩
  | false =>
      rcases Scalar.exists_ofInt_of_mismatch hkind wide with ⟨s, hs⟩
      rw [hs] at h
      cases h

/-- A double that is to be an integer is named if it is not beyond the wide range. -/
theorem named_of_scalar_ofDouble {x : Double} (hkind : kind.isInteger = true)
    (h : Scalar.ofDouble kind x = .error (.overflow value target)) :
    target = kind ∧
      (Binary.ReadsAs value.text x ↔ ∃ q, x.quantity? = some q ∧ |q| ≤ 2 ^ 127) := by
  rw [Scalar.ofDouble_of_isInteger hkind] at h
  cases hwhole : x.integer? with
  | none =>
      rw [hwhole] at h
      cases h
  | some n =>
      have hx := (Binary.integer?_eq_some_iff x n).1 hwhole
      rw [hwhole] at h
      obtain ⟨rfl, rfl, hfits⟩ := named_of_ofInt (error_of_map_error h)
      have hne : n ≠ 0 := by
        rintro rfl
        exact hfits (holds_zero hkind)
      refine ⟨rfl, (Scalar.readsAs_clampWide hx hne).trans ?_⟩
      constructor
      · exact fun hle => ⟨_, hx, hle⟩
      · rintro ⟨q, hq, hle⟩
        rwa [Option.some.inj (hx.symm.trans hq)]

/-- Whatever a kind cannot hold is named by the failure, and so is the kind, except that doubles beyond
the wide range that are to be integers are named by the ends of that range. -/
theorem overflowsNamed (kind : NumericKind) : kind.OverflowsNamed where
  integer n value target h := by
    obtain ⟨rfl, rfl, -⟩ := named_of_ofInt h
    exact ⟨rfl, rfl⟩
  float x value target h := by
    obtain ⟨rfl, rfl, q, hq⟩ := named_of_ofDouble h
    exact ⟨rfl, Binary.readsAs_text hq⟩
  scalar_integer wide value target h := by
    obtain ⟨rfl, rfl⟩ := named_of_scalar_ofInt h
    exact ⟨rfl, rfl⟩
  scalar_double x value target h := by
    cases hfloat : kind.isFloat with
    | true =>
        have hfails : HostFloat.ofDouble kind x = .error (.overflow value target) := by
          unfold Scalar.ofDouble at h
          rw [if_pos hfloat] at h
          exact error_of_map_error h
        obtain ⟨rfl, rfl, q, hq⟩ := named_of_ofDouble hfails
        exact ⟨rfl, iff_of_true (Binary.readsAs_text hq) (.inl rfl)⟩
    | false =>
        cases hkind : kind.isInteger with
        | true =>
            rcases named_of_scalar_ofDouble hkind h with ⟨htarget, hreads⟩
            exact ⟨htarget, hreads.trans (or_iff_right Bool.false_ne_true).symm⟩
        | false =>
            unfold Scalar.ofDouble at h
            rw [hfloat, hkind] at h
            cases h
  bridge _ _ := rfl

/-!
The double nearest to the thirty-ninth power of ten is beyond the wide range, and is named by its end.
-/

theorem misnamed_of_beyond_wide :
    Scalar.ofDouble .int64 (Binary.ofBits 0x48078287f49c4a1d) =
      .error (.overflow (.integer 170141183460469231731687303715884105727) .int64) ∧
    Binary.ReadsAs "1000000000000000000000000000000000000000"
      (Binary.ofBits 0x48078287f49c4a1d : Double) ∧
    ¬ Binary.ReadsAs (Numeral.integer 170141183460469231731687303715884105727).text
      (Binary.ofBits 0x48078287f49c4a1d : Double) := by
  have hfails : Scalar.ofDouble .int64 (Binary.ofBits 0x48078287f49c4a1d) =
      .error (.overflow (.integer 170141183460469231731687303715884105727) .int64) := by
    decide +kernel
  have hwhole : (Binary.ofBits 0x48078287f49c4a1d : Double).integer? =
      some 999999999999999939709166371603178586112 := by decide +kernel
  have hquantity := (Binary.integer?_eq_some_iff _ _).1 hwhole
  have htext : (Binary.ofBits 0x48078287f49c4a1d : Double).text =
      "1000000000000000000000000000000000000000" := by decide +kernel
  refine ⟨hfails, htext ▸ Binary.readsAs_text hquantity, fun hreads => ?_⟩
  rcases (named_of_scalar_ofDouble rfl hfails).2.1 hreads with ⟨q, hq, hle⟩
  rw [← Option.some.inj (hquantity.symm.trans hq)] at hle
  norm_num at hle

end NumericKind
end ForeignBridge
