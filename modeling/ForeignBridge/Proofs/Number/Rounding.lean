import Mathlib.Tactic.Ring
import ForeignBridge.Number.Scalar

/-!
# Exact rounding

Rounding changes no number that the format has.  A number of few enough leading bits is such a one,
so every single is a double, and comes back unchanged from there.
-/

namespace ForeignBridge
namespace BinaryFormat

variable (F : BinaryFormat)

/-!
# Definitions with powers
-/

theorem infinity_eq : F.infinity = (2 ^ F.exponentBits - 1) * 2 ^ F.fractionBits := rfl

theorem units_eq (code : Nat) :
    F.units code =
      if code < 2 ^ F.fractionBits then code
      else (2 ^ F.fractionBits + code % 2 ^ F.fractionBits) * 2 ^ (code / 2 ^ F.fractionBits - 1) :=
  rfl

theorem roundQuotient_eq (n k : Nat) :
    roundQuotient n k =
      if 2 * (n % 2 ^ k) < 2 ^ k ∨ (2 * (n % 2 ^ k) = 2 ^ k ∧ n / 2 ^ k % 2 = 0) then n / 2 ^ k
      else n / 2 ^ k + 1 := rfl

theorem nearestCode_eq (n scale : Nat) :
    F.nearestCode n scale =
      (max scale (n.log2 + 1 - (F.fractionBits + 1)) - scale) * 2 ^ F.fractionBits +
        roundQuotient n (max scale (n.log2 + 1 - (F.fractionBits + 1))) := rfl

/-!
# Quotients
-/

theorem roundQuotient_exact (n k : Nat) : roundQuotient (n * 2 ^ k) k = n := by
  have hpos : 0 < 2 ^ k := Nat.two_pow_pos k
  rw [roundQuotient_eq, Nat.mul_mod_left, Nat.mul_div_cancel n hpos]
  exact if_pos (.inl hpos)

/-- A common power of two makes no difference. -/
theorem roundQuotient_scale (n k j : Nat) :
    roundQuotient (n * 2 ^ j) (k + j) = roundQuotient n k := by
  have hpos : 0 < 2 ^ j := Nat.two_pow_pos j
  have hquotient : n * 2 ^ j / 2 ^ (k + j) = n / 2 ^ k := by
    rw [pow_add, Nat.mul_div_mul_right _ _ hpos]
  have hrest : n * 2 ^ j % 2 ^ (k + j) = n % 2 ^ k * 2 ^ j := by
    rw [pow_add, Nat.mul_mod_mul_right]
  have hlt : 2 * (n % 2 ^ k * 2 ^ j) < 2 ^ k * 2 ^ j ↔ 2 * (n % 2 ^ k) < 2 ^ k := by
    rw [← Nat.mul_assoc]
    exact Nat.mul_lt_mul_right hpos
  have heq : 2 * (n % 2 ^ k * 2 ^ j) = 2 ^ k * 2 ^ j ↔ 2 * (n % 2 ^ k) = 2 ^ k := by
    rw [← Nat.mul_assoc]
    exact Nat.mul_left_inj hpos.ne'
  rw [roundQuotient_eq, roundQuotient_eq, hquotient, hrest]
  simp only [pow_add, hlt, heq]

theorem log2_mul_two_pow {n : Nat} (hn : n ≠ 0) (k : Nat) : (n * 2 ^ k).log2 = n.log2 + k := by
  have hpos : 0 < 2 ^ k := Nat.two_pow_pos k
  rw [Nat.log2_eq_iff (Nat.mul_ne_zero hn hpos.ne')]
  have hlog := (Nat.log2_eq_iff hn).1 rfl
  constructor
  · rw [pow_add]
    exact Nat.mul_le_mul_right _ hlog.1
  · rw [Nat.add_right_comm, pow_add]
    exact (Nat.mul_lt_mul_right hpos).2 hlog.2

theorem nearestCode_zero (scale : Nat) : F.nearestCode 0 scale = 0 := by
  have hdrop : max scale (Nat.log2 0 + 1 - (F.fractionBits + 1)) = scale := by
    rw [Nat.log2_zero]
    omega
  have hzero := roundQuotient_exact 0 scale
  rw [Nat.zero_mul] at hzero
  rw [nearestCode_eq, hdrop, Nat.sub_self, Nat.zero_mul, hzero]

/-- Units and fractions of them are rounded alike. -/
theorem nearestCode_scale (n k : Nat) : F.nearestCode (n * 2 ^ k) k = F.nearestCode n 0 := by
  by_cases hn : n = 0
  · rw [hn, Nat.zero_mul, nearestCode_zero, nearestCode_zero]
  · have hdrop : max k ((n * 2 ^ k).log2 + 1 - (F.fractionBits + 1)) =
        max 0 (n.log2 + 1 - (F.fractionBits + 1)) + k := by
      rw [log2_mul_two_pow hn]
      omega
    rw [nearestCode_eq, nearestCode_eq, hdrop, roundQuotient_scale, Nat.add_sub_cancel, Nat.sub_zero]

/-!
# Codes
-/

theorem units_of_lt {code : Nat} (h : code < 2 ^ F.fractionBits) : F.units code = code := if_pos h

/-- The code of a number with a leading bit before the fraction. -/
theorem units_normal {mantissa : Nat} (exponent : Nat) (hlow : 2 ^ F.fractionBits ≤ mantissa)
    (hhigh : mantissa < 2 ^ (F.fractionBits + 1)) :
    F.units (exponent * 2 ^ F.fractionBits + mantissa) = mantissa * 2 ^ exponent := by
  obtain ⟨rest, hrest⟩ := Nat.exists_eq_add_of_le hlow
  have hlt : rest < 2 ^ F.fractionBits := by
    rw [pow_succ] at hhigh
    omega
  have hcode : exponent * 2 ^ F.fractionBits + mantissa =
      2 ^ F.fractionBits * (exponent + 1) + rest := by
    rw [hrest]
    ring
  have hpos : 0 < 2 ^ F.fractionBits := Nat.two_pow_pos _
  have hge : ¬ 2 ^ F.fractionBits * (exponent + 1) + rest < 2 ^ F.fractionBits := by
    rw [Nat.mul_succ]
    omega
  rw [units_eq, hcode, if_neg hge, Nat.mul_add_mod, Nat.mod_eq_of_lt hlt, Nat.mul_add_div hpos,
    Nat.div_eq_of_lt hlt, Nat.add_zero, Nat.add_sub_cancel, ← hrest]

/-- Every code is below the leading bit or has one. -/
theorem exists_normal {code : Nat} (h : 2 ^ F.fractionBits ≤ code) :
    ∃ exponent mantissa, code = exponent * 2 ^ F.fractionBits + mantissa ∧
      2 ^ F.fractionBits ≤ mantissa ∧ mantissa < 2 ^ (F.fractionBits + 1) := by
  have hpos : 0 < 2 ^ F.fractionBits := Nat.two_pow_pos _
  have hquotient : 0 < code / 2 ^ F.fractionBits := Nat.div_pos h hpos
  have hrest : code % 2 ^ F.fractionBits < 2 ^ F.fractionBits := Nat.mod_lt _ hpos
  refine ⟨code / 2 ^ F.fractionBits - 1, 2 ^ F.fractionBits + code % 2 ^ F.fractionBits, ?_,
    Nat.le_add_right _ _, ?_⟩
  · obtain ⟨quotient, hq⟩ := Nat.exists_eq_succ_of_ne_zero hquotient.ne'
    have hdivision := Nat.div_add_mod code (2 ^ F.fractionBits)
    rw [hq, Nat.mul_succ] at hdivision
    rw [hq, Nat.succ_sub_one, Nat.mul_comm]
    omega
  · rw [pow_succ]
    omega

/-!
# Representable numbers
-/

theorem nearestCode_of_lt {n : Nat} (h : n < 2 ^ F.fractionBits) : F.nearestCode n 0 = n := by
  by_cases hn : n = 0
  · rw [hn, nearestCode_zero]
  · have hlog : n.log2 < F.fractionBits := (Nat.log2_lt hn).2 h
    have hdrop : max 0 (n.log2 + 1 - (F.fractionBits + 1)) = 0 := by omega
    have hexact := roundQuotient_exact n 0
    rw [pow_zero, Nat.mul_one] at hexact
    rw [nearestCode_eq, hdrop, hexact, Nat.zero_mul, Nat.zero_add]

theorem nearestCode_normal {mantissa : Nat} (exponent : Nat)
    (hlow : 2 ^ F.fractionBits ≤ mantissa) (hhigh : mantissa < 2 ^ (F.fractionBits + 1)) :
    F.nearestCode (mantissa * 2 ^ exponent) 0 = exponent * 2 ^ F.fractionBits + mantissa := by
  have hn : mantissa ≠ 0 := by
    have hpos := Nat.two_pow_pos F.fractionBits
    omega
  have hlog : mantissa.log2 = F.fractionBits := (Nat.log2_eq_iff hn).2 ⟨hlow, hhigh⟩
  have hdrop : max 0 ((mantissa * 2 ^ exponent).log2 + 1 - (F.fractionBits + 1)) = exponent := by
    rw [log2_mul_two_pow hn, hlog]
    omega
  rw [nearestCode_eq, hdrop, roundQuotient_exact, Nat.sub_zero]

/-- A number with few enough leading bits is that of its nearest code. -/
theorem units_nearestCode {n a b : Nat} (hn : n = a * 2 ^ b) (ha : a < 2 ^ (F.fractionBits + 1)) :
    F.units (F.nearestCode n 0) = n := by
  rcases Nat.lt_or_ge n (2 ^ F.fractionBits) with hsmall | hlarge
  · rw [nearestCode_of_lt F hsmall, units_of_lt F hsmall]
  · have hpos := Nat.two_pow_pos F.fractionBits
    have hne : n ≠ 0 := by omega
    have hlow : F.fractionBits ≤ n.log2 := (Nat.le_log2 hne).2 hlarge
    have hhigh : n.log2 < F.fractionBits + 1 + b := by
      rw [Nat.log2_lt hne, hn, pow_add]
      exact (Nat.mul_lt_mul_right (Nat.two_pow_pos b)).2 ha
    -- The number begins with its leading bits, and ends with zeros.
    obtain ⟨exponent, hexponent⟩ := Nat.exists_eq_add_of_le hlow
    obtain ⟨rest, hrest⟩ := Nat.exists_eq_add_of_le (show exponent ≤ b by omega)
    have hparts : n = a * 2 ^ rest * 2 ^ exponent := by
      rw [hn, hrest, pow_add]
      ring
    have hlog := (Nat.log2_eq_iff hne).1 hexponent
    rw [hparts] at hlog
    have hleading : 2 ^ F.fractionBits ≤ a * 2 ^ rest := by
      rw [pow_add] at hlog
      exact Nat.le_of_mul_le_mul_right hlog.1 (Nat.two_pow_pos exponent)
    have hfraction : a * 2 ^ rest < 2 ^ (F.fractionBits + 1) := by
      rw [Nat.add_right_comm, pow_add 2 (F.fractionBits + 1)] at hlog
      exact Nat.lt_of_mul_lt_mul_right hlog.2
    rw [hparts, nearestCode_normal F exponent hleading hfraction,
      units_normal F exponent hleading hfraction]

theorem nearestCode_units (code : Nat) : F.nearestCode (F.units code) 0 = code := by
  rcases Nat.lt_or_ge code (2 ^ F.fractionBits) with hsmall | hlarge
  · rw [units_of_lt F hsmall, nearestCode_of_lt F hsmall]
  · obtain ⟨exponent, mantissa, hcode, hlow, hhigh⟩ := exists_normal F hlarge
    rw [hcode, units_normal F exponent hlow hhigh, nearestCode_normal F exponent hlow hhigh]

/-- The numbers of a format have few leading bits, and are bounded by their exponents. -/
theorem exists_units (code : Nat) :
    ∃ mantissa exponent, F.units code = mantissa * 2 ^ exponent ∧
      mantissa < 2 ^ (F.fractionBits + 1) ∧ exponent ≤ code / 2 ^ F.fractionBits := by
  rcases Nat.lt_or_ge code (2 ^ F.fractionBits) with hsmall | hlarge
  · refine ⟨code, 0, ?_, ?_, Nat.zero_le _⟩
    · rw [units_of_lt F hsmall, pow_zero, Nat.mul_one]
    · rw [pow_succ]
      omega
  · obtain ⟨exponent, mantissa, hcode, hlow, hhigh⟩ := exists_normal F hlarge
    refine ⟨mantissa, exponent, ?_, hhigh, ?_⟩
    · rw [hcode, units_normal F exponent hlow hhigh]
    · rw [hcode, Nat.le_div_iff_mul_le (Nat.two_pow_pos _)]
      exact Nat.le_add_right _ _

theorem units_succ (code : Nat) : F.units code ≤ F.units (code + 1) := by
  rcases Nat.lt_or_ge code (2 ^ F.fractionBits) with hsmall | hlarge
  · rw [units_of_lt F hsmall]
    rcases Nat.lt_or_ge (code + 1) (2 ^ F.fractionBits) with hnext | hnext
    · rw [units_of_lt F hnext]
      exact Nat.le_succ code
    · have hfirst : code + 1 = 0 * 2 ^ F.fractionBits + 2 ^ F.fractionBits := by omega
      rw [hfirst, units_normal F 0 (Nat.le_refl _) (Nat.pow_lt_pow_succ Nat.one_lt_two), pow_zero,
        Nat.mul_one]
      exact Nat.le_of_lt hsmall
  · obtain ⟨exponent, mantissa, hcode, hlow, hhigh⟩ := exists_normal F hlarge
    rw [hcode, units_normal F exponent hlow hhigh]
    rcases Nat.lt_or_ge (mantissa + 1) (2 ^ (F.fractionBits + 1)) with hnext | hnext
    · rw [Nat.add_assoc, units_normal F exponent (Nat.le_succ_of_le hlow) hnext]
      exact Nat.mul_le_mul_right _ (Nat.le_succ mantissa)
    · -- The mantissa overflows into the exponent.
      have hcarry : exponent * 2 ^ F.fractionBits + mantissa + 1 =
          (exponent + 1) * 2 ^ F.fractionBits + 2 ^ F.fractionBits := by
        rw [pow_succ] at hhigh hnext
        rw [Nat.succ_mul]
        omega
      rw [hcarry, units_normal F _ (Nat.le_refl _) (Nat.pow_lt_pow_succ Nat.one_lt_two),
        ← pow_add, show F.fractionBits + (exponent + 1) = F.fractionBits + 1 + exponent by omega,
        pow_add 2 (F.fractionBits + 1)]
      exact Nat.mul_le_mul_right _ (Nat.le_of_lt hhigh)

theorem units_mono {code code' : Nat} (h : code ≤ code') : F.units code ≤ F.units code' := by
  induction h with
  | refl => exact Nat.le_refl _
  | step _ ih => exact Nat.le_trans ih (units_succ F _)

theorem roundQuotient_le {n k bound : Nat} (h : n < bound * 2 ^ k) :
    roundQuotient n k ≤ bound := by
  have hquotient : n / 2 ^ k < bound := Nat.div_lt_of_lt_mul (by rwa [Nat.mul_comm])
  rw [roundQuotient_eq]
  split
  · exact Nat.le_of_lt hquotient
  · exact hquotient

/-- A number below a power of two has a code below the one after it. -/
theorem nearestCode_le {n d : Nat} (h : n < 2 ^ (F.fractionBits + 1 + d)) :
    F.nearestCode n 0 ≤ (d + 2) * 2 ^ F.fractionBits := by
  by_cases hn : n = 0
  · rw [hn, nearestCode_zero]
    exact Nat.zero_le _
  · have hlog : n.log2 < F.fractionBits + 1 + d := (Nat.log2_lt hn).2 h
    have hdrop : max 0 (n.log2 + 1 - (F.fractionBits + 1)) ≤ d := by omega
    have hbound : n < 2 ^ (F.fractionBits + 1) *
        2 ^ max 0 (n.log2 + 1 - (F.fractionBits + 1)) := by
      rw [← pow_add]
      exact Nat.lt_of_lt_of_le Nat.lt_log2_self (Nat.pow_le_pow_right Nat.two_pos (by omega))
    have hround := roundQuotient_le hbound
    rw [nearestCode_eq, Nat.sub_zero]
    calc _ ≤ d * 2 ^ F.fractionBits + 2 ^ (F.fractionBits + 1) :=
          Nat.add_le_add (Nat.mul_le_mul_right _ hdrop) hround
      _ = (d + 2) * 2 ^ F.fractionBits := by ring

/-- Rounding does not pass a power of two. -/
theorem units_nearestCode_le {n d : Nat} (h : n ≤ 2 ^ (F.fractionBits + 1 + d)) :
    F.units (F.nearestCode n 0) ≤ 2 ^ (F.fractionBits + 1 + d) := by
  rcases Nat.lt_or_eq_of_le h with hlt | heq
  · have hpower : F.units ((d + 1) * 2 ^ F.fractionBits + 2 ^ F.fractionBits) =
        2 ^ (F.fractionBits + 1 + d) := by
      rw [units_normal F (d + 1) (Nat.le_refl _) (Nat.pow_lt_pow_succ Nat.one_lt_two), ← pow_add]
      congr 1
      omega
    rw [← hpower, ← Nat.succ_mul]
    exact units_mono F (nearestCode_le F hlt)
  · have hpower : n = 1 * 2 ^ (F.fractionBits + 1 + d) := by rw [heq, Nat.one_mul]
    rw [units_nearestCode F hpower (Nat.one_lt_two_pow (Nat.succ_ne_zero _))]
    exact h

/-- A number far enough below the greatest exponent is not rounded to infinity. -/
theorem nearestCode_lt_infinity {n d : Nat} (h : n < 2 ^ (F.fractionBits + 1 + d))
    (hd : d + 2 < 2 ^ F.exponentBits - 1) : F.nearestCode n 0 < F.infinity := by
  rw [infinity_eq]
  exact Nat.lt_of_le_of_lt (nearestCode_le F h)
    ((Nat.mul_lt_mul_right (Nat.two_pow_pos _)).2 hd)

/-!
# Wider formats
-/

/-- The second format has every number of the first. -/
structure Widens (F G : BinaryFormat) : Prop where
  fraction : F.fractionBits ≤ G.fractionBits
  unit : F.unitExponent ≤ G.unitExponent
  exponent : 4 ≤ 2 ^ G.exponentBits
  range : F.fractionBits + 2 ^ F.exponentBits + (G.unitExponent - F.unitExponent) + 2 ≤
    G.fractionBits + 2 ^ G.exponentBits

theorem widens_single_double : binary32.Widens binary64 := by
  constructor <;> decide

/-- The code in a wider format of the number of a code. -/
def widenedCode (F G : BinaryFormat) (code : Nat) : Nat :=
  G.nearestCode (F.units code * 2 ^ (G.unitExponent - F.unitExponent)) 0

variable {F} {G : BinaryFormat}

theorem units_widenedCode (h : F.Widens G) (code : Nat) :
    G.units (widenedCode F G code) = F.units code * 2 ^ (G.unitExponent - F.unitExponent) := by
  obtain ⟨mantissa, exponent, hunits, hmantissa, -⟩ := exists_units F code
  have hparts : F.units code * 2 ^ (G.unitExponent - F.unitExponent) =
      mantissa * 2 ^ (exponent + (G.unitExponent - F.unitExponent)) := by
    rw [hunits, pow_add, Nat.mul_assoc]
  apply units_nearestCode G hparts
  exact Nat.lt_of_lt_of_le hmantissa
    (Nat.pow_le_pow_right Nat.two_pos (Nat.succ_le_succ h.fraction))

theorem widenedCode_lt (h : F.Widens G) {code : Nat} (hcode : code < F.infinity) :
    widenedCode F G code < G.infinity := by
  obtain ⟨mantissa, exponent, hunits, hmantissa, hexponent⟩ := exists_units F code
  have hquotient : code / 2 ^ F.fractionBits < 2 ^ F.exponentBits - 1 := by
    apply Nat.div_lt_of_lt_mul
    rw [Nat.mul_comm]
    exact hcode
  obtain ⟨d, hd⟩ := Nat.exists_eq_add_of_le h.exponent
  have hrange := h.range
  have hbound : F.units code * 2 ^ (G.unitExponent - F.unitExponent) <
      2 ^ (G.fractionBits + 1 + d) := by
    calc F.units code * 2 ^ (G.unitExponent - F.unitExponent)
        = mantissa * 2 ^ (exponent + (G.unitExponent - F.unitExponent)) := by
          rw [hunits, pow_add, Nat.mul_assoc]
      _ < 2 ^ (F.fractionBits + 1) * 2 ^ (exponent + (G.unitExponent - F.unitExponent)) :=
          (Nat.mul_lt_mul_right (Nat.two_pow_pos _)).2 hmantissa
      _ = 2 ^ (F.fractionBits + 1 + (exponent + (G.unitExponent - F.unitExponent))) :=
          (pow_add 2 _ _).symm
      _ ≤ 2 ^ (G.fractionBits + 1 + d) := Nat.pow_le_pow_right Nat.two_pos (by omega)
  exact nearestCode_lt_infinity G hbound (by omega)

end BinaryFormat

namespace Binary

open BinaryFormat

variable {F G : BinaryFormat}

theorem ofCode_val (negative : Bool) (code : Fin (F.infinity + 1)) :
    ofCode negative code.val = number negative code := by
  unfold ofCode
  congr
  exact Nat.min_eq_left (Nat.le_of_lt_succ code.isLt)

theorem ofInt_eq (value : Int) :
    (ofInt value : Binary F) =
      ofCode (value < 0) (F.nearestCode (value.natAbs * 2 ^ F.unitExponent) 0) := rfl

theorem convert_ofCode (h : F.Widens G) (negative : Bool) {code : Nat} (hcode : code < F.infinity) :
    (ofCode negative code : Binary F).convert G = ofCode negative (widenedCode F G code) := by
  have hmin : min code F.infinity = code := Nat.min_eq_left (Nat.le_of_lt hcode)
  have hscale : F.unitExponent - G.unitExponent = 0 := Nat.sub_eq_zero_of_le h.unit
  show (if min code F.infinity = F.infinity then infinite negative
    else round negative (F.units (min code F.infinity) * 2 ^ (G.unitExponent - F.unitExponent))
      (F.unitExponent - G.unitExponent)) = _
  rw [hmin, if_neg (Nat.ne_of_lt hcode), hscale]
  rfl

theorem convert_infinite (negative : Bool) :
    (infinite negative : Binary F).convert G = infinite negative := by
  have hmin : min F.infinity F.infinity = F.infinity := Nat.min_self _
  show (if min F.infinity F.infinity = F.infinity then infinite negative else _) = _
  rw [if_pos hmin]

theorem units?_ofCode (negative : Bool) {code : Nat} (hcode : code < F.infinity) :
    (ofCode negative code : Binary F).units? =
      some (if negative then -(F.units code : Int) else F.units code) := by
  have hmin : min code F.infinity = code := Nat.min_eq_left (Nat.le_of_lt hcode)
  show some (if negative then -(F.units (min code F.infinity) : Int)
    else F.units (min code F.infinity)) = _
  rw [hmin]

/-- A number that was widened is the same number again. -/
theorem convert_convert (h : F.Widens G) (x : Binary F) : (x.convert G).convert F = x := by
  cases x with
  | nan => rfl
  | number negative code =>
      rw [← ofCode_val]
      rcases Nat.lt_or_ge code.val F.infinity with hfinite | hinfinite
      · have hcode := widenedCode_lt h hfinite
        have hmin : min (widenedCode F G code.val) G.infinity = widenedCode F G code.val :=
          Nat.min_eq_left (Nat.le_of_lt hcode)
        have hscale : F.unitExponent - G.unitExponent = 0 := Nat.sub_eq_zero_of_le h.unit
        rw [convert_ofCode h negative hfinite]
        show (if min (widenedCode F G code.val) G.infinity = G.infinity then infinite negative
          else round negative (G.units (min (widenedCode F G code.val) G.infinity) *
            2 ^ (F.unitExponent - G.unitExponent)) (G.unitExponent - F.unitExponent)) = _
        rw [hmin, if_neg (Nat.ne_of_lt hcode), hscale, pow_zero, Nat.mul_one, units_widenedCode h]
        unfold round
        rw [nearestCode_scale, nearestCode_units]
      · have hcode : code.val = F.infinity :=
          Nat.le_antisymm (Nat.le_of_lt_succ code.isLt) hinfinite
        rw [hcode]
        exact (congrArg (convert F) (convert_infinite negative)).trans (convert_infinite negative)

end Binary

/-!
# Host floats
-/

namespace HostFloat

open BinaryFormat

/-- A double is in the range of the singles if it has no more units than the greatest of them. -/
theorem in_range_of_units_le (negative : Bool) {code : Nat} (hcode : code < binary64.infinity)
    (hle : binary64.units code ≤
      binary64.units (widenedCode binary32 binary64 (binary32.infinity - 1))) :
    ((Binary.ofCode negative code : Double).isFinite &&
      (greatestSingle.lt (Binary.ofCode negative code) ||
        (Binary.ofCode negative code : Double).lt greatestSingle.neg)) = false := by
  have hlast : binary32.infinity - 1 < binary32.infinity := by decide
  have hx := Binary.units?_ofCode negative hcode
  have hgreatest := Binary.units?_ofCode false (widenedCode_lt widens_single_double hlast)
  have hleast := Binary.units?_ofCode true (widenedCode_lt widens_single_double hlast)
  have hneg : (Binary.ofCode false (widenedCode binary32 binary64 (binary32.infinity - 1)) :
      Double).neg = Binary.ofCode true _ := rfl
  unfold greatestSingle Binary.lt
  rw [Binary.convert_ofCode widens_single_double false hlast, hneg, hx, hgreatest, hleast,
    Bool.and_eq_false_iff]
  right
  dsimp only
  rw [Bool.or_eq_false_iff, decide_eq_false_iff_not, decide_eq_false_iff_not]
  simp only [Bool.false_eq_true, if_true, if_false]
  cases negative with
  | false =>
      rw [if_neg Bool.false_ne_true]
      omega
  | true =>
      rw [if_pos rfl]
      omega

/-- No single is beyond the greatest one. -/
theorem single_in_range (x : Single) :
    ((x.convert .binary64).isFinite &&
      (greatestSingle.lt (x.convert .binary64) || (x.convert .binary64).lt greatestSingle.neg)) =
      false := by
  cases x with
  | nan => rfl
  | number negative code =>
      rw [← Binary.ofCode_val]
      rcases Nat.lt_or_ge code.val binary32.infinity with hfinite | hinfinite
      · rw [Binary.convert_ofCode widens_single_double negative hfinite]
        apply in_range_of_units_le negative (widenedCode_lt widens_single_double hfinite)
        rw [units_widenedCode widens_single_double, units_widenedCode widens_single_double]
        exact Nat.mul_le_mul_right _ (units_mono binary32 (Nat.le_sub_one_of_lt hfinite))
      · have hcode : code.val = binary32.infinity :=
          Nat.le_antisymm (Nat.le_of_lt_succ code.isLt) hinfinite
        have hinfinite : (Binary.ofCode negative binary32.infinity : Single).convert binary64 =
            Binary.infinite negative := Binary.convert_infinite negative
        rw [hcode, hinfinite]
        rfl

theorem ofDouble_of_in_range {x : Double}
    (h : (x.isFinite && (greatestSingle.lt x || x.lt greatestSingle.neg)) = false) :
    ofDouble .single x = .ok (single (x.convert .binary32)) := by
  unfold ofDouble
  rw [h]
  rfl

/-- The double that a float is gives the float back. -/
theorem ofDouble_toDouble (x : HostFloat) : ofDouble x.kind x.toDouble = .ok x := by
  cases x with
  | double x => rfl
  | single x =>
      have hsingle := ofDouble_of_in_range (single_in_range x)
      rw [Binary.convert_convert widens_single_double] at hsingle
      exact hsingle

end HostFloat
end ForeignBridge
