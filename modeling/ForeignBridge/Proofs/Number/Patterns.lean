import ForeignBridge.Proofs.Number.Whole

/-!
# Bit patterns

A datum of a binary format is read off its bits by fields: a sign, a biased exponent and a fraction.
All exponent bits set mean infinity or not-a-number, none of them a number without a leading bit.
The number that a pattern stands for by its fields is the one that its datum consists of.
-/

namespace ForeignBridge
namespace BinaryFormat

variable (F : BinaryFormat)

/-- The exponent field of the numbers from one to two. -/
def bias : Nat := 2 ^ (F.exponentBits - 1) - 1

/-- The magnitude that two fields stand for: a fraction with a leading bit, or without one if no exponent
bit is set. -/
def magnitude (exponent fraction : Nat) : ℚ :=
  if exponent = 0 then fraction / 2 ^ F.fractionBits * 2 ^ (1 - F.bias : ℤ)
  else (1 + fraction / 2 ^ F.fractionBits) * 2 ^ (exponent - F.bias : ℤ)

/-- The number that three fields stand for, if they stand for a finite one. -/
def fields? (negative : Bool) (exponent fraction : Nat) : Option ℚ :=
  if exponent = 2 ^ F.exponentBits - 1 then none
  else if negative then some (-F.magnitude exponent fraction)
  else some (F.magnitude exponent fraction)

/-- The number that a bit pattern stands for, if it stands for a finite one. -/
def pattern? (bits : Nat) : Option ℚ :=
  F.fields? (bits / 2 ^ (F.exponentBits + F.fractionBits) % 2 == 1)
    (bits / 2 ^ F.fractionBits % 2 ^ F.exponentBits) (bits % 2 ^ F.fractionBits)

variable {F}

theorem two_pow_unitExponent (hF : 0 < F.fractionBits) :
    (2 : ℚ) ^ F.unitExponent * 2 = 2 ^ F.fractionBits * 2 ^ F.bias := by
  have hunit : F.unitExponent + 1 = F.fractionBits + F.bias := by
    show F.fractionBits + (2 ^ (F.exponentBits - 1) - 1) - 1 + 1 = _
    unfold bias
    omega
  rw [← pow_succ, hunit, pow_add]

/-- The units of a code are counted by its two fields. -/
theorem units_fields (exponent : Nat) {fraction : Nat} (hfraction : fraction < 2 ^ F.fractionBits) :
    F.units (exponent * 2 ^ F.fractionBits + fraction) =
      if exponent = 0 then fraction
      else (2 ^ F.fractionBits + fraction) * 2 ^ (exponent - 1) := by
  cases exponent with
  | zero =>
      rw [Nat.zero_mul, Nat.zero_add, units_of_lt F hfraction]
      rfl
  | succ exponent =>
      have hcode : (exponent + 1) * 2 ^ F.fractionBits + fraction =
          exponent * 2 ^ F.fractionBits + (2 ^ F.fractionBits + fraction) := by ring
      have hhigh : 2 ^ F.fractionBits + fraction < 2 ^ (F.fractionBits + 1) := by
        rw [pow_succ]
        omega
      rw [hcode, units_normal F exponent (Nat.le_add_right _ _) hhigh]
      rfl

theorem units_magnitude (hF : 0 < F.fractionBits) (exponent : Nat) {fraction : Nat}
    (hfraction : fraction < 2 ^ F.fractionBits) :
    (F.units (exponent * 2 ^ F.fractionBits + fraction) / 2 ^ F.unitExponent : ℚ) =
      F.magnitude exponent fraction := by
  have hunit := two_pow_unitExponent hF
  have hbase : (2 : ℚ) ≠ 0 := two_ne_zero
  have hone : (2 : ℚ) ^ (1 - F.bias : ℤ) = 2 / 2 ^ F.bias := by
    rw [zpow_sub₀ hbase, zpow_one, zpow_natCast]
  unfold magnitude
  rw [units_fields exponent hfraction]
  cases exponent with
  | zero =>
      rw [if_pos rfl, if_pos rfl, hone, div_mul_div_comm, ← hunit,
        mul_div_mul_right _ _ hbase]
  | succ exponent =>
      have hpower : (2 : ℚ) ^ ((exponent + 1 : Nat) - F.bias : ℤ) =
          2 ^ exponent * (2 / 2 ^ F.bias) := by
        rw [zpow_sub₀ hbase, zpow_natCast, zpow_natCast, pow_succ, mul_div_assoc]
      have hleading : (1 + fraction / 2 ^ F.fractionBits : ℚ) =
          (2 ^ F.fractionBits + fraction) / 2 ^ F.fractionBits := by
        rw [add_div, div_self (pow_ne_zero _ hbase)]
      rw [if_neg (Nat.succ_ne_zero _), if_neg (Nat.succ_ne_zero _), hpower, hleading,
        Nat.add_sub_cancel]
      push_cast
      calc ((2 ^ F.fractionBits + fraction) * 2 ^ exponent / 2 ^ F.unitExponent : ℚ)
          = (2 ^ F.fractionBits + fraction) * 2 ^ exponent * 2 / (2 ^ F.unitExponent * 2) :=
            (mul_div_mul_right _ _ hbase).symm
        _ = (2 ^ F.fractionBits + fraction) / 2 ^ F.fractionBits *
              (2 ^ exponent * (2 / 2 ^ F.bias)) := by
            rw [hunit, ← mul_div_assoc, div_mul_div_comm, mul_assoc]

end BinaryFormat

namespace Binary

open BinaryFormat

variable {F : BinaryFormat}

/-- A datum consists of the number that its bit pattern stands for. -/
theorem quantity?_ofBits (hF : 0 < F.fractionBits) (bits : Nat) :
    (ofBits bits : Binary F).quantity? = F.pattern? bits := by
  have hpos : 0 < 2 ^ F.fractionBits := Nat.two_pow_pos _
  have hfraction : bits % 2 ^ F.fractionBits < 2 ^ F.fractionBits := Nat.mod_lt _ hpos
  have hexponent : bits / 2 ^ F.fractionBits % 2 ^ F.exponentBits < 2 ^ F.exponentBits :=
    Nat.mod_lt _ (Nat.two_pow_pos _)
  have hcode : bits % 2 ^ (F.exponentBits + F.fractionBits) =
      bits / 2 ^ F.fractionBits % 2 ^ F.exponentBits * 2 ^ F.fractionBits +
        bits % 2 ^ F.fractionBits := by
    rw [Nat.add_comm F.exponentBits, pow_add, Nat.mod_mul, Nat.mul_comm (2 ^ F.fractionBits)]
    exact Nat.add_comm _ _
  unfold pattern? fields?
  show (if bits % 2 ^ (F.exponentBits + F.fractionBits) ≤ F.infinity then
    ofCode (bits / 2 ^ (F.exponentBits + F.fractionBits) % 2 == 1)
      (bits % 2 ^ (F.exponentBits + F.fractionBits)) else nan : Binary F).quantity? = _
  rw [hcode, infinity_eq]
  generalize bits / 2 ^ F.fractionBits % 2 ^ F.exponentBits = exponent at hexponent ⊢
  generalize bits % 2 ^ F.fractionBits = fraction at hfraction ⊢
  rcases Nat.lt_or_eq_of_le (Nat.le_sub_one_of_lt hexponent) with hfinite | hlast
  · have hlt : exponent * 2 ^ F.fractionBits + fraction <
        (2 ^ F.exponentBits - 1) * 2 ^ F.fractionBits :=
      calc exponent * 2 ^ F.fractionBits + fraction
          < (exponent + 1) * 2 ^ F.fractionBits := by
            rw [Nat.succ_mul]
            omega
        _ ≤ (2 ^ F.exponentBits - 1) * 2 ^ F.fractionBits := Nat.mul_le_mul_right _ hfinite
    rw [if_pos (Nat.le_of_lt hlt), if_neg hfinite.ne, quantity?_ofCode _ hlt,
      units_magnitude hF exponent hfraction, apply_ite some]
  · -- What lies above infinity is not-a-number.
    rw [if_pos hlast, hlast]
    split
    · next hle =>
        have hzero : fraction = 0 := by omega
        rw [hzero, Nat.add_zero]
        exact quantity?_infinite _
    · rfl

theorem infinity_add :
    F.infinity + 2 ^ F.fractionBits = 2 ^ (F.exponentBits + F.fractionBits) := by
  rw [infinity_eq, ← Nat.succ_mul, Nat.succ_eq_add_one, Nat.sub_add_cancel (Nat.two_pow_pos _),
    pow_add]

/-- A bit pattern has the bits of its fields and one for its sign. -/
theorem toBits_lt (hF : 0 < F.fractionBits) (x : Binary F) :
    x.toBits < 2 * 2 ^ (F.exponentBits + F.fractionBits) := by
  have hfraction : 2 ^ (F.fractionBits - 1) < 2 ^ F.fractionBits :=
    Nat.pow_lt_pow_right Nat.one_lt_two (Nat.sub_one_lt hF.ne')
  have hinfinity := infinity_add (F := F)
  cases x with
  | nan =>
      show F.infinity + 2 ^ (F.fractionBits - 1) < _
      omega
  | number negative code =>
      have hcode := Nat.le_of_lt_succ code.isLt
      have hpos : 0 < 2 ^ F.fractionBits := Nat.two_pow_pos _
      show (if negative then 2 ^ (F.exponentBits + F.fractionBits) else 0) + code.val < _
      split
      · omega
      · omega

/-- Every datum has a bit pattern. -/
theorem ofBits_toBits (hF : 0 < F.fractionBits) (x : Binary F) : ofBits x.toBits = x := by
  have hfraction : 0 < 2 ^ (F.fractionBits - 1) ∧ 2 ^ (F.fractionBits - 1) < 2 ^ F.fractionBits :=
    ⟨Nat.two_pow_pos _, Nat.pow_lt_pow_right Nat.one_lt_two (Nat.sub_one_lt hF.ne')⟩
  have hinfinity := infinity_add (F := F)
  have hread : ∀ bits, (ofBits bits : Binary F) =
      if bits % 2 ^ (F.exponentBits + F.fractionBits) ≤ F.infinity then
        ofCode (bits / 2 ^ (F.exponentBits + F.fractionBits) % 2 == 1)
          (bits % 2 ^ (F.exponentBits + F.fractionBits))
      else nan := fun _ => rfl
  cases x with
  | nan =>
      have hbits : (nan : Binary F).toBits = F.infinity + 2 ^ (F.fractionBits - 1) := rfl
      rw [hread, hbits, Nat.mod_eq_of_lt (by omega), if_neg (by omega)]
  | number negative code =>
      have hcode := Nat.le_of_lt_succ code.isLt
      have hlt : code.val < 2 ^ (F.exponentBits + F.fractionBits) := by omega
      have hbits : (number negative code : Binary F).toBits =
          (if negative then 2 ^ (F.exponentBits + F.fractionBits) else 0) + code.val := rfl
      rw [hread, hbits, ← ofCode_val]
      cases negative with
      | true =>
          rw [if_pos rfl, Nat.add_mod_left, Nat.mod_eq_of_lt hlt, if_pos hcode,
            Nat.add_div_left _ (Nat.two_pow_pos _), Nat.div_eq_of_lt hlt]
          rfl
      | false =>
          rw [if_neg Bool.false_ne_true, Nat.zero_add, Nat.mod_eq_of_lt hlt, if_pos hcode,
            Nat.div_eq_of_lt hlt]
          rfl

end Binary
end ForeignBridge
