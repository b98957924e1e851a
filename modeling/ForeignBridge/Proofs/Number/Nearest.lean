import Mathlib.Tactic.Linarith
import Mathlib.Tactic.Qify
import ForeignBridge.Proofs.Number.Whole

/-!
# Nearest numbers

A format rounds a number to one of its data that is as near as any, infinity standing one step above
the greatest finite number, and of two that are equally near to the even one.  The numbers that are
rounded to a code form a cell around its number, whose ends lie half way to the neighbours.  The
leading bits of a number, rounded to an integer, are in the cell of their code; and whatever is in a
cell has nothing nearer than the number in the middle.
-/

namespace ForeignBridge
namespace BinaryFormat

variable (F : BinaryFormat)

/-- A number of units lies no further from the number of a code than half way to its neighbours, and
that far only if the code is even. -/
structure InCell (code : Nat) (n : ℚ) : Prop where
  low : (F.units (code - 1) + F.units code : ℚ) ≤ 2 * n
  high : 2 * n ≤ F.units code + F.units (code + 1)
  inside : code % 2 = 1 →
    (F.units (code - 1) + F.units code : ℚ) < 2 * n ∧ 2 * n < F.units code + F.units (code + 1)

/-- No number of the format is nearer to a number of units than that of a code, and none but that of an
even code is as near as another. -/
def Closest (code : Nat) (n : ℚ) : Prop :=
  ∀ other ≤ F.infinity, |n - F.units code| ≤ |n - F.units other| ∧
    (|n - F.units other| = |n - F.units code| → other = code ∨ code % 2 = 0)

/-!
# Order of the codes
-/

/-- The number of an exponent and a mantissa, which may also be too small or one too large. -/
theorem units_mantissa {exponent mantissa : Nat}
    (hlow : exponent = 0 ∨ 2 ^ F.fractionBits ≤ mantissa)
    (hhigh : mantissa ≤ 2 ^ (F.fractionBits + 1)) :
    F.units (exponent * 2 ^ F.fractionBits + mantissa) = mantissa * 2 ^ exponent := by
  have hleading : 2 ^ F.fractionBits < 2 ^ (F.fractionBits + 1) :=
    Nat.pow_lt_pow_succ Nat.one_lt_two
  rcases Nat.lt_or_eq_of_le hhigh with hlt | heq
  · rcases Nat.lt_or_ge mantissa (2 ^ F.fractionBits) with hsmall | hlarge
    · obtain rfl : exponent = 0 := hlow.resolve_right (Nat.not_le_of_lt hsmall)
      rw [Nat.zero_mul, Nat.zero_add, units_of_lt F hsmall, pow_zero, Nat.mul_one]
    · exact units_normal F exponent hlarge hlt
  · -- The mantissa overflows into the exponent.
    have hcarry : exponent * 2 ^ F.fractionBits + 2 ^ (F.fractionBits + 1) =
        (exponent + 1) * 2 ^ F.fractionBits + 2 ^ F.fractionBits := by ring
    rw [heq, hcarry, units_normal F _ (Nat.le_refl _) hleading]
    ring

/-- Every code has an exponent and a mantissa. -/
theorem exists_mantissa (code : Nat) :
    ∃ exponent mantissa, code = exponent * 2 ^ F.fractionBits + mantissa ∧
      (exponent = 0 ∨ 2 ^ F.fractionBits ≤ mantissa) ∧ mantissa < 2 ^ (F.fractionBits + 1) := by
  rcases Nat.lt_or_ge code (2 ^ F.fractionBits) with hsmall | hlarge
  · refine ⟨0, code, by omega, .inl rfl, ?_⟩
    exact Nat.lt_trans hsmall (Nat.pow_lt_pow_succ Nat.one_lt_two)
  · obtain ⟨exponent, mantissa, hcode, hlow, hhigh⟩ := exists_normal F hlarge
    exact ⟨exponent, mantissa, hcode, .inr hlow, hhigh⟩

/-- The next code is a step of the exponent further. -/
theorem exists_step (code : Nat) : ∃ exponent, F.units (code + 1) = F.units code + 2 ^ exponent := by
  obtain ⟨exponent, mantissa, rfl, hlow, hhigh⟩ := exists_mantissa F code
  refine ⟨exponent, ?_⟩
  rw [Nat.add_assoc, units_mantissa F (hlow.imp_right Nat.le_succ_of_le) hhigh,
    units_mantissa F hlow (Nat.le_of_lt hhigh), Nat.succ_mul]

theorem units_strictMono : StrictMono F.units := by
  refine strictMono_nat_of_lt_succ fun code => ?_
  obtain ⟨exponent, hstep⟩ := exists_step F code
  rw [hstep]
  exact Nat.lt_add_of_pos_right (Nat.two_pow_pos _)

/-- The number of a code. -/
def value (code : Nat) : ℚ := F.units code / 2 ^ F.unitExponent

theorem value_zero : F.value 0 = 0 := by
  unfold value
  rw [units_of_lt F (Nat.two_pow_pos _), Nat.cast_zero, zero_div]

theorem value_nonneg (code : Nat) : 0 ≤ F.value code := by
  unfold value
  positivity

theorem value_strictMono : StrictMono F.value := by
  intro code code' hlt
  exact div_lt_div_of_pos_right (by exact_mod_cast units_strictMono F hlt) (by positivity)

/-- The code before that of an exponent and a mantissa has the mantissa before, if that does not lose its
leading bit. -/
theorem units_before {exponent mantissa : Nat}
    (hlow : exponent = 0 ∧ 0 < mantissa ∨ 2 ^ F.fractionBits < mantissa)
    (hhigh : mantissa ≤ 2 ^ (F.fractionBits + 1)) :
    F.units (exponent * 2 ^ F.fractionBits + mantissa - 1) +
      F.units (exponent * 2 ^ F.fractionBits + mantissa) + 2 ^ exponent =
        2 * (mantissa * 2 ^ exponent) := by
  obtain ⟨before, rfl⟩ := Nat.exists_eq_succ_of_ne_zero (show mantissa ≠ 0 by omega)
  have hbefore : exponent = 0 ∨ 2 ^ F.fractionBits ≤ before :=
    hlow.imp And.left Nat.le_of_lt_succ
  rw [units_mantissa F (hbefore.imp_right Nat.le_succ_of_le) hhigh, Nat.add_succ,
    Nat.succ_sub_one, units_mantissa F hbefore (Nat.le_of_succ_le hhigh), Nat.succ_mul]
  omega

/-- The code after that of an exponent and a mantissa has the mantissa after, if there is one. -/
theorem units_after {exponent mantissa : Nat}
    (hlow : exponent = 0 ∨ 2 ^ F.fractionBits ≤ mantissa)
    (hhigh : mantissa < 2 ^ (F.fractionBits + 1)) :
    F.units (exponent * 2 ^ F.fractionBits + mantissa) +
      F.units (exponent * 2 ^ F.fractionBits + mantissa + 1) =
        2 * (mantissa * 2 ^ exponent) + 2 ^ exponent := by
  rw [Nat.add_assoc _ mantissa, units_mantissa F (hlow.imp_right Nat.le_succ_of_le) hhigh,
    units_mantissa F hlow (Nat.le_of_lt hhigh), Nat.add_one_mul]
  omega

/-!
# Quotients
-/

/-- A quotient is rounded by a half at most, and by a half only to an even number. -/
theorem roundQuotient_half (n k : Nat) :
    (2 * (roundQuotient n k * 2 ^ k) ≤ 2 * n + 2 ^ k ∧
      2 * n ≤ 2 * (roundQuotient n k * 2 ^ k) + 2 ^ k) ∧
    (roundQuotient n k % 2 = 1 →
      2 * (roundQuotient n k * 2 ^ k) < 2 * n + 2 ^ k ∧
        2 * n < 2 * (roundQuotient n k * 2 ^ k) + 2 ^ k) := by
  have hparts : n / 2 ^ k * 2 ^ k + n % 2 ^ k = n := Nat.div_add_mod' n (2 ^ k)
  have hrest : n % 2 ^ k < 2 ^ k := Nat.mod_lt n (Nat.two_pow_pos k)
  rw [roundQuotient_eq]
  split
  · omega
  · rw [Nat.add_one_mul (n / 2 ^ k)]
    omega

theorem le_roundQuotient {n k bound : Nat} (h : bound * 2 ^ k ≤ n) : bound ≤ roundQuotient n k := by
  have hquotient : bound ≤ n / 2 ^ k := (Nat.le_div_iff_mul_le (Nat.two_pow_pos k)).2 h
  rw [roundQuotient_eq]
  split
  · exact hquotient
  · exact Nat.le_succ_of_le hquotient

/-!
# Cells
-/

section Mantissa

variable {exponent mantissa : Nat} {n : ℚ}

/-- The lower end of a cell is half a step away, unless it is that of a power of two. -/
theorem low_cases (hlow : exponent = 0 ∨ 2 ^ F.fractionBits ≤ mantissa)
    (hhigh : mantissa ≤ 2 ^ (F.fractionBits + 1))
    (hleading : exponent = 0 ∨ (2 ^ F.fractionBits * 2 ^ exponent : ℚ) ≤ n) :
    exponent = 0 ∧ mantissa = 0 ∨
    (F.units (exponent * 2 ^ F.fractionBits + mantissa - 1) +
      F.units (exponent * 2 ^ F.fractionBits + mantissa) + 2 ^ exponent : ℚ) =
        2 * (mantissa * 2 ^ exponent) ∨
    (F.units (exponent * 2 ^ F.fractionBits + mantissa - 1) +
      F.units (exponent * 2 ^ F.fractionBits + mantissa) : ℚ) < 2 * n := by
  by_cases hregular : exponent = 0 ∧ 0 < mantissa ∨ 2 ^ F.fractionBits < mantissa
  · right
    left
    exact_mod_cast units_before F hregular hhigh
  · by_cases hzero : exponent = 0
    · left
      omega
    · right
      right
      have hpower : mantissa = 2 ^ F.fractionBits := by omega
      have hunits : (F.units (exponent * 2 ^ F.fractionBits + mantissa) : ℚ) ≤ n := by
        rw [units_mantissa F hlow hhigh, hpower]
        exact_mod_cast hleading.resolve_left hzero
      have hbefore : (F.units (exponent * 2 ^ F.fractionBits + mantissa - 1) : ℚ) <
          F.units (exponent * 2 ^ F.fractionBits + mantissa) := by
        have hpos := Nat.two_pow_pos F.fractionBits
        exact_mod_cast units_strictMono F (Nat.sub_one_lt (by omega))
      linarith

/-- The upper end of a cell is half a step away, unless the mantissa overflows. -/
theorem high_cases (hlow : exponent = 0 ∨ 2 ^ F.fractionBits ≤ mantissa)
    (hhigh : mantissa ≤ 2 ^ (F.fractionBits + 1))
    (hleading : n < 2 ^ (F.fractionBits + 1) * 2 ^ exponent) :
    (F.units (exponent * 2 ^ F.fractionBits + mantissa) +
      F.units (exponent * 2 ^ F.fractionBits + mantissa + 1) : ℚ) =
        2 * (mantissa * 2 ^ exponent) + 2 ^ exponent ∨
    2 * n < (F.units (exponent * 2 ^ F.fractionBits + mantissa) +
      F.units (exponent * 2 ^ F.fractionBits + mantissa + 1) : ℚ) := by
  rcases Nat.lt_or_eq_of_le hhigh with hlt | heq
  · left
    exact_mod_cast units_after F hlow hlt
  · right
    have hunits : n < (F.units (exponent * 2 ^ F.fractionBits + mantissa) : ℚ) := by
      rw [units_mantissa F hlow hhigh, heq]
      exact_mod_cast hleading
    have hafter : (F.units (exponent * 2 ^ F.fractionBits + mantissa) : ℚ) <
        F.units (exponent * 2 ^ F.fractionBits + mantissa + 1) := by
      exact_mod_cast units_strictMono F (Nat.lt_succ_self _)
    linarith

/-- A number is in the cell of its leading bits, rounded. -/
theorem inCell_mantissa (hF : 0 < F.fractionBits)
    (hlow : exponent = 0 ∨ 2 ^ F.fractionBits ≤ mantissa)
    (hhigh : mantissa ≤ 2 ^ (F.fractionBits + 1)) (hn : 0 ≤ n)
    (hleast : exponent = 0 ∨ (2 ^ F.fractionBits * 2 ^ exponent : ℚ) ≤ n)
    (hgreatest : n < 2 ^ (F.fractionBits + 1) * 2 ^ exponent)
    (hnear : (2 * (mantissa * 2 ^ exponent) : ℚ) ≤ 2 * n + 2 ^ exponent ∧
      2 * n ≤ 2 * (mantissa * 2 ^ exponent) + 2 ^ exponent)
    (hinside : mantissa % 2 = 1 → (2 * (mantissa * 2 ^ exponent) : ℚ) < 2 * n + 2 ^ exponent ∧
      2 * n < 2 * (mantissa * 2 ^ exponent) + 2 ^ exponent) :
    F.InCell (exponent * 2 ^ F.fractionBits + mantissa) n := by
  have hbelow := low_cases F hlow hhigh hleast
  have habove := high_cases F hlow hhigh hgreatest
  have hparity : (exponent * 2 ^ F.fractionBits + mantissa) % 2 = mantissa % 2 := by
    obtain ⟨bits, hbits⟩ := Nat.exists_eq_succ_of_ne_zero hF.ne'
    rw [hbits, pow_succ, ← Nat.mul_assoc]
    omega
  refine ⟨?_, ?_, fun hodd => ⟨?_, ?_⟩⟩
  · rcases hbelow with ⟨rfl, rfl⟩ | heven | hlt
    · rw [Nat.zero_mul, Nat.zero_add, Nat.zero_sub, units_of_lt F (Nat.two_pow_pos _),
        Nat.cast_zero]
      linarith
    · linarith [hnear.1]
    · exact hlt.le
  · rcases habove with heven | hlt
    · linarith [hnear.2]
    · exact hlt.le
  · rw [hparity] at hodd
    rcases hbelow with ⟨rfl, rfl⟩ | heven | hlt
    · cases hodd
    · linarith [(hinside hodd).1]
    · exact hlt
  · rw [hparity] at hodd
    rcases habove with heven | hlt
    · linarith [(hinside hodd).2]
    · exact hlt

end Mantissa

/-- A fraction of units is in the cell of its nearest code. -/
theorem inCell_nearestCode (hF : 0 < F.fractionBits) (n scale : Nat) :
    F.InCell (F.nearestCode n scale) (n / 2 ^ scale) := by
  rw [nearestCode_eq]
  generalize hdrop : max scale (n.log2 + 1 - (F.fractionBits + 1)) = drop
  obtain ⟨exponent, rfl⟩ := Nat.exists_eq_add_of_le (show scale ≤ drop by omega)
  have hhalf := roundQuotient_half n (scale + exponent)
  have hscale : (0 : ℚ) < 2 ^ scale := by positivity
  have hbits : n < 2 ^ (F.fractionBits + 1) * 2 ^ (scale + exponent) := by
    rw [← pow_add]
    exact Nat.lt_of_lt_of_le Nat.lt_log2_self (Nat.pow_le_pow_right Nat.two_pos (by omega))
  -- Whatever is dropped beyond the scale makes room for the leading bit.
  have hleading : exponent = 0 ∨ 2 ^ F.fractionBits * 2 ^ (scale + exponent) ≤ n := by
    rcases Nat.eq_zero_or_pos exponent with hzero | hpos
    · exact .inl hzero
    · right
      have hne : n ≠ 0 := by
        rintro rfl
        rw [Nat.log2_zero] at hdrop
        omega
      rw [← pow_add, ← Nat.le_log2 hne]
      omega
  have hmantissa : (exponent = 0 ∨ 2 ^ F.fractionBits ≤ roundQuotient n (scale + exponent)) ∧
      roundQuotient n (scale + exponent) ≤ 2 ^ (F.fractionBits + 1) :=
    ⟨hleading.imp_right le_roundQuotient, roundQuotient_le hbits⟩
  rw [Nat.add_sub_cancel_left]
  generalize roundQuotient n (scale + exponent) = mantissa at hhalf hmantissa ⊢
  obtain ⟨q, hq⟩ : ∃ q : ℚ, (n : ℚ) = q * 2 ^ scale := ⟨n / 2 ^ scale, by field_simp⟩
  have hle : ∀ {a b : ℚ}, a * 2 ^ scale ≤ b * 2 ^ scale → a ≤ b :=
    fun h => le_of_mul_le_mul_right h hscale
  have hlt : ∀ {a b : ℚ}, a * 2 ^ scale < b * 2 ^ scale → a < b :=
    fun h => lt_of_mul_lt_mul_right h hscale.le
  rcases hhalf with ⟨⟨hlow, hhigh⟩, hinside⟩
  have hnonneg : (0 : ℚ) ≤ n := Nat.cast_nonneg n
  qify [pow_add, hq] at hlow hhigh hbits hnonneg
  rw [hq, mul_div_cancel_right₀ _ hscale.ne']
  refine inCell_mantissa F hF hmantissa.1 hmantissa.2 ?_ ?_ ?_ ⟨?_, ?_⟩ fun hodd => ?_
  · exact nonneg_of_mul_nonneg_left hnonneg hscale
  · refine hleading.imp_right fun hleading => ?_
    qify [pow_add, hq] at hleading
    apply hle
    linarith
  · rw [pow_succ]
    apply hlt
    linarith
  · apply hle
    linarith
  · apply hle
    linarith
  · rcases hinside hodd with ⟨hlow, hhigh⟩
    qify [pow_add, hq] at hlow hhigh
    constructor
    · apply hlt
      linarith
    · apply hlt
      linarith

variable {F}

/-- One of two numbers is as near as the other if it is not beyond the middle. -/
theorem abs_sub_le_abs_sub_iff (n a b : ℚ) : |n - a| ≤ |n - b| ↔ 0 ≤ (b - a) * (a + b - 2 * n) := by
  rw [← sq_le_sq]
  constructor
  · intro h
    linarith
  · intro h
    linarith

/-- Two numbers are equally near if they are the same or have the number in their middle. -/
theorem abs_sub_eq_abs_sub_iff (n a b : ℚ) : |n - b| = |n - a| ↔ b = a ∨ 2 * n = a + b := by
  rw [abs_eq_abs]
  constructor
  · rintro (h | h)
    · exact .inl (by linarith)
    · exact .inr (by linarith)
  · rintro (h | h)
    · exact .inl (by linarith)
    · exact .inr (by linarith)

/-- The number in the middle of a cell is the closest one. -/
theorem InCell.closest {code : Nat} {n : ℚ} (h : F.InCell code n) (other : Nat) :
    |n - F.units code| ≤ |n - F.units other| ∧
      (|n - F.units other| = |n - F.units code| → other = code ∨ code % 2 = 0) := by
  have hmono := units_strictMono F
  rw [abs_sub_le_abs_sub_iff, abs_sub_eq_abs_sub_iff]
  rcases Nat.lt_trichotomy other code with hbelow | rfl | habove
  · have hother : (F.units other : ℚ) ≤ F.units (code - 1) := by
      exact_mod_cast hmono.monotone (Nat.le_sub_one_of_lt hbelow)
    have hcode : (F.units other : ℚ) < F.units code := by exact_mod_cast hmono hbelow
    refine ⟨mul_nonneg_of_nonpos_of_nonpos ?_ ?_, fun htie => .inr ?_⟩
    · linarith
    · linarith [h.low]
    · by_contra hodd
      have hinside := (h.inside (Nat.mod_two_ne_zero.1 hodd)).1
      rcases htie with hsame | hmiddle
      · exact hcode.ne hsame
      · linarith
  · exact ⟨by rw [sub_self, zero_mul], fun _ => .inl rfl⟩
  · have hother : (F.units (code + 1) : ℚ) ≤ F.units other := by
      exact_mod_cast hmono.monotone habove
    have hcode : (F.units code : ℚ) < F.units other := by exact_mod_cast hmono habove
    refine ⟨mul_nonneg ?_ ?_, fun htie => .inr ?_⟩
    · linarith
    · linarith [h.high]
    · by_contra hodd
      have hinside := (h.inside (Nat.mod_two_ne_zero.1 hodd)).2
      rcases htie with hsame | hmiddle
      · exact hcode.ne' hsame
      · linarith

/-- What is rounded beyond infinity is closest to it. -/
theorem InCell.closest_infinity {code : Nat} {n : ℚ} (h : F.InCell code n)
    (hcode : F.infinity < code) : F.Closest F.infinity n := by
  have hmono := units_strictMono F
  have hbefore : (F.units F.infinity : ℚ) ≤ F.units (code - 1) := by
    exact_mod_cast hmono.monotone (Nat.le_sub_one_of_lt hcode)
  have hunits : (F.units F.infinity : ℚ) < F.units code := by exact_mod_cast hmono hcode
  have hlarge : (F.units F.infinity : ℚ) < n := by linarith [h.low]
  intro other hother
  have hle : (F.units other : ℚ) ≤ F.units F.infinity := by
    exact_mod_cast hmono.monotone hother
  rw [abs_sub_le_abs_sub_iff, abs_sub_eq_abs_sub_iff]
  refine ⟨mul_nonneg_of_nonpos_of_nonpos ?_ ?_, fun htie => .inl ?_⟩
  · linarith
  · linarith
  · rcases htie with hsame | hmiddle
    · exact hmono.injective (by exact_mod_cast hsame)
    · linarith

/-- Of the codes up to infinity, the nearest code is closest to a fraction of units. -/
theorem closest_nearestCode (hF : 0 < F.fractionBits) (n scale : Nat) :
    F.Closest (min (F.nearestCode n scale) F.infinity) (n / 2 ^ scale) := by
  have hcell := inCell_nearestCode F hF n scale
  rcases Nat.lt_or_ge F.infinity (F.nearestCode n scale) with hlt | hle
  · rw [Nat.min_eq_right (Nat.le_of_lt hlt)]
    exact hcell.closest_infinity hlt
  · rw [Nat.min_eq_left hle]
    exact fun other _ => hcell.closest other

/-- The numbers of the other sign are no nearer. -/
theorem Closest.opposite {code : Nat} {n : ℚ} (h : F.Closest code n) (hn : 0 ≤ n) {other : Nat}
    (hother : other ≤ F.infinity) : |n - F.units code| ≤ |n + F.units other| ∧
      (|n + F.units other| = |n - F.units code| →
        (F.units other : ℚ) = -F.units code ∨ code % 2 = 0) := by
  have hunits : (0 : ℚ) ≤ F.units other := Nat.cast_nonneg _
  have hsame : |n - F.units other| ≤ |n + F.units other| := by
    rw [abs_of_nonneg (add_nonneg hn hunits), abs_le]
    constructor
    · linarith
    · linarith
  refine ⟨(h other hother).1.trans hsame, fun htie => ?_⟩
  refine ((h other hother).2 (le_antisymm (hsame.trans htie.le) (h other hother).1)).imp_left ?_
  rintro rfl
  -- Only zero is as near as its opposite.
  rw [← sub_neg_eq_add, abs_sub_eq_abs_sub_iff] at htie
  rcases htie with hopposite | hmiddle
  · linarith
  · have hzero := (h 0 (Nat.zero_le _)).1
    obtain rfl : n = 0 := by linarith
    rw [units_of_lt F (Nat.two_pow_pos _), Nat.cast_zero, sub_zero, abs_zero, zero_sub, abs_neg,
      abs_of_nonneg hunits] at hzero
    linarith

end BinaryFormat

namespace Binary

open BinaryFormat

variable {F G : BinaryFormat}

/-- The number for which a datum stands when numbers are compared, where infinity is one step above the
greatest finite number. -/
def place? (x : Binary F) : Option ℚ :=
  x.units?.map fun units => units / 2 ^ F.unitExponent

/-- The last bit of the fraction is not set. -/
def IsEven : Binary F → Prop
  | nan => False
  | number _ code => code.val % 2 = 0

/-- No datum is nearer to a number, and none that stands for another number is as near, unless this one
is even. -/
def NearestTo (q : ℚ) (x : Binary F) : Prop :=
  ∃ p, x.place? = some p ∧ ∀ (y : Binary F) (r : ℚ), y.place? = some r →
    |q - p| ≤ |q - r| ∧ (|q - r| = |q - p| → r = p ∨ x.IsEven)

theorem place?_number (negative : Bool) (code : Fin (F.infinity + 1)) :
    (number negative code).place? =
      some (if negative then -F.value code.val else F.value code.val) := by
  unfold place? units? value
  cases negative with
  | true => simp [neg_div]
  | false => simp

theorem place?_ofCode (negative : Bool) {code : Nat} (hcode : code ≤ F.infinity) :
    (ofCode negative code : Binary F).place? =
      some (if negative then -F.value code else F.value code) := by
  unfold ofCode
  rw [place?_number]
  dsimp only
  rw [Nat.min_eq_left hcode]

theorem place?_of_quantity? {x : Binary F} {q : ℚ} (h : x.quantity? = some q) :
    x.place? = some q := by
  cases x with
  | nan => cases h
  | number negative code =>
      rw [place?_number]
      by_cases hinfinite : code.val = F.infinity
      · simp [quantity?, hinfinite] at h
      · simpa [quantity?, hinfinite, value] using h

/-- A datum that stands for a number is that number, or infinite. -/
theorem quantity?_of_place? {x : Binary F} {p : ℚ} (h : x.place? = some p) :
    x.quantity? = some p ∨ |p| = F.value F.infinity := by
  cases x with
  | nan => cases h
  | number negative code =>
      rw [place?_number, Option.some_inj] at h
      by_cases hinfinite : code.val = F.infinity
      · right
        rw [← h, hinfinite]
        have hnonneg := value_nonneg F F.infinity
        cases negative with
        | false => rw [if_neg Bool.false_ne_true, abs_of_nonneg hnonneg]
        | true => rw [if_pos rfl, abs_neg, abs_of_nonneg hnonneg]
      · left
        rw [← h]
        simp [quantity?, hinfinite, value]

theorem lt_infinity_of_quantity? {x : Binary F} {q : ℚ} (h : x.quantity? = some q) :
    q < F.value F.infinity := by
  rcases x.cases_code with rfl | ⟨negative, rfl⟩ | ⟨negative, code, hcode, rfl⟩
  · cases h
  · rw [quantity?_infinite] at h
    cases h
  · have hplace := place?_of_quantity? h
    have hlt := value_strictMono F hcode
    have hnonneg := value_nonneg F code
    rw [place?_ofCode negative (Nat.le_of_lt hcode), Option.some_inj] at hplace
    cases negative with
    | false => rwa [← hplace, if_neg Bool.false_ne_true]
    | true =>
        rw [← hplace, if_pos rfl]
        linarith

theorem place?_neg (x : Binary F) : x.neg.place? = x.place?.map Neg.neg := by
  cases x with
  | nan => rfl
  | number negative code =>
      unfold neg
      dsimp only
      rw [place?_number, place?_number]
      cases negative <;> simp

/-- What is nearest to a number is finite and no greater than a finite datum if the number is not. -/
theorem NearestTo.bounded {x y : Binary F} {q b : ℚ} (hx : x.NearestTo q)
    (hy : y.quantity? = some b) (hq : |q| ≤ b) : ∃ p, x.quantity? = some p ∧ |p| ≤ b := by
  rcases hx with ⟨p, hp, hbest⟩
  have hplace := place?_of_quantity? hy
  have hopposite : y.neg.place? = some (-b) := by
    rw [place?_neg, hplace]
    rfl
  have hupper := (hbest y b hplace).1
  have hlower := (hbest y.neg (-b) hopposite).1
  rw [abs_sub_le_abs_sub_iff] at hupper hlower
  rw [abs_le] at hq
  have hle : |p| ≤ b := by
    rw [abs_le]
    constructor
    · by_contra hlt
      have hfar := nonneg_of_mul_nonneg_right hlower (by linarith)
      linarith
    · by_contra hlt
      have hfar := nonpos_of_mul_nonneg_right hupper (by linarith)
      linarith
  refine ⟨p, ?_, hle⟩
  rcases quantity?_of_place? hp with hquantity | hinfinite
  · exact hquantity
  · exact absurd (hle.trans_lt (lt_infinity_of_quantity? hy)) (not_lt.2 hinfinite.ge)

/-- What is nearest to a number of the format is that number. -/
theorem NearestTo.eq_of_place? {x y : Binary F} {p q : ℚ} (hx : x.NearestTo q)
    (hp : x.place? = some p) (hy : y.place? = some q) : p = q := by
  rcases hx with ⟨p', hp', hbest⟩
  obtain rfl := Option.some.inj (hp.symm.trans hp')
  have hle := (hbest y q hy).1
  rw [sub_self, abs_zero] at hle
  linarith [abs_nonpos_iff.1 hle]

/-- A number is nearest to whatever its code is closest to, with its sign. -/
theorem nearestTo_of_closest (negative : Bool) {code : Fin (F.infinity + 1)} {n : ℚ} (hn : 0 ≤ n)
    (h : F.Closest code.val n) :
    (number negative code).NearestTo
      (if negative then -(n / 2 ^ F.unitExponent) else n / 2 ^ F.unitExponent) := by
  have hunit : (0 : ℚ) < 2 ^ F.unitExponent := by positivity
  have hdistance : ∀ a b : ℚ,
      |(if negative then -(a / 2 ^ F.unitExponent) else a / 2 ^ F.unitExponent) -
        (if negative then -(b / 2 ^ F.unitExponent) else b / 2 ^ F.unitExponent)| =
          |a - b| / 2 ^ F.unitExponent := by
    intro a b
    cases negative with
    | false =>
        rw [if_neg Bool.false_ne_true, if_neg Bool.false_ne_true, ← sub_div, abs_div,
          abs_of_pos hunit]
    | true =>
        rw [if_pos rfl, if_pos rfl, neg_sub_neg, ← sub_div, abs_div, abs_of_pos hunit, abs_sub_comm]
  have hplace : ∀ (sign : Bool) (code : Fin (F.infinity + 1)), (number sign code).place? =
      some (if sign then -(F.units code.val / 2 ^ F.unitExponent : ℚ)
        else F.units code.val / 2 ^ F.unitExponent) := place?_number
  refine ⟨_, hplace negative code, fun y r hy => ?_⟩
  cases y with
  | nan => cases hy
  | number sign other =>
      have hother := Nat.le_of_lt_succ other.isLt
      -- What the other number is once the sign is taken away.
      obtain ⟨b, hr, hle, htie⟩ : ∃ b : ℚ,
          r = (if negative then -(b / 2 ^ F.unitExponent) else b / 2 ^ F.unitExponent) ∧
          |n - F.units code.val| ≤ |n - b| ∧
          (|n - b| = |n - F.units code.val| → b = F.units code.val ∨ code.val % 2 = 0) := by
        rw [hplace, Option.some_inj] at hy
        by_cases hsign : sign = negative
        · rcases h other.val hother with ⟨hle, htie⟩
          exact ⟨F.units other.val, by rw [← hy, hsign], hle,
            fun hsame => (htie hsame).imp_left fun hcode => by rw [hcode]⟩
        · refine ⟨-F.units other.val, ?_, ?_⟩
          · rw [← hy, neg_div, neg_neg]
            cases negative with
            | false =>
                rw [Bool.eq_true_of_not_eq_false hsign]
                rfl
            | true =>
                rw [Bool.eq_false_of_not_eq_true hsign]
                rfl
          · rw [sub_neg_eq_add, neg_eq_iff_eq_neg]
            exact h.opposite hn hother
      rw [hr, hdistance, hdistance, div_le_div_iff_of_pos_right hunit, div_left_inj' hunit.ne']
      exact ⟨hle, fun h => (htie h).imp_left fun hb => by rw [hb]⟩

/-- Rounding takes the nearest datum. -/
theorem nearestTo_round (hF : 0 < F.fractionBits) (negative : Bool) (n scale : Nat) :
    (round negative n scale : Binary F).NearestTo
      (if negative then -(n / 2 ^ scale / 2 ^ F.unitExponent) else
        n / 2 ^ scale / 2 ^ F.unitExponent) :=
  nearestTo_of_closest negative (by positivity) (closest_nearestCode hF n scale)

theorem signed_abs (value : Int) :
    (if decide (value < 0) = true then -|(value : ℚ)| else |(value : ℚ)|) = value := by
  by_cases hneg : value < 0
  · rw [if_pos (decide_eq_true hneg), abs_of_neg (by exact_mod_cast hneg), neg_neg]
  · rw [if_neg (by simpa using hneg), abs_of_nonneg (by exact_mod_cast not_lt.1 hneg)]

/-- An integer becomes the nearest datum. -/
theorem nearestTo_ofInt (hF : 0 < F.fractionBits) (value : Int) :
    (ofInt value : Binary F).NearestTo value := by
  have hround := nearestTo_round hF (value < 0) (value.natAbs * 2 ^ F.unitExponent) 0
  have hunit : (2 : ℚ) ^ F.unitExponent ≠ 0 := by positivity
  have hvalue : (if decide (value < 0) = true then
        -((value.natAbs * 2 ^ F.unitExponent : Nat) / 2 ^ 0 / 2 ^ F.unitExponent)
      else (value.natAbs * 2 ^ F.unitExponent : Nat) / 2 ^ 0 / 2 ^ F.unitExponent : ℚ) = value := by
    push_cast
    rw [pow_zero, div_one, mul_div_cancel_right₀ _ hunit, Nat.cast_natAbs, Int.cast_abs]
    exact signed_abs value
  rwa [hvalue] at hround

/-- A finite number becomes the nearest datum of another format. -/
theorem nearestTo_convert (hG : 0 < G.fractionBits) {x : Binary F} {p : ℚ}
    (hx : x.quantity? = some p) : (x.convert G).NearestTo p := by
  rcases x.cases_code with rfl | ⟨negative, rfl⟩ | ⟨negative, code, hcode, rfl⟩
  · cases hx
  · rw [quantity?_infinite] at hx
    cases hx
  · rw [quantity?_ofCode negative hcode, Option.some_inj] at hx
    have hmin : min code F.infinity = code := Nat.min_eq_left (Nat.le_of_lt hcode)
    have hconvert : (ofCode negative code : Binary F).convert G =
        round negative (F.units code * 2 ^ (G.unitExponent - F.unitExponent))
          (F.unitExponent - G.unitExponent) := by
      show (if min code F.infinity = F.infinity then infinite negative
        else round negative (F.units (min code F.infinity) * 2 ^ (G.unitExponent - F.unitExponent))
          (F.unitExponent - G.unitExponent)) = _
      rw [hmin, if_neg (Nat.ne_of_lt hcode)]
    have hscale : ((F.units code * 2 ^ (G.unitExponent - F.unitExponent) : Nat) /
        2 ^ (F.unitExponent - G.unitExponent) / 2 ^ G.unitExponent : ℚ) =
          F.units code / 2 ^ F.unitExponent := by
      have hexponents : F.unitExponent + (G.unitExponent - F.unitExponent) =
          F.unitExponent - G.unitExponent + G.unitExponent := by omega
      push_cast
      rw [div_div, ← pow_add, ← hexponents, pow_add]
      field_simp
    rw [hconvert, ← hx, ← hscale]
    exact nearestTo_round hG negative _ _

end Binary
end ForeignBridge
