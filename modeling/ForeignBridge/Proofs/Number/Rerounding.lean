import ForeignBridge.Proofs.Number.Exactness
import ForeignBridge.Proofs.Number.Nearest

/-!
# Rounding twice

A number that is rounded to a wide format, and from there to a narrow one, ends at the datum of the
narrow format that is nearest to where it was half way.  If the wide format has the middles of
neighbours of the narrow one, that datum is nearest to the number itself too, unless the number was
rounded to such a middle from beyond it.  This is how a wide integer becomes a single, through a double,
and from 54 bits on there are integers that it leads astray.
-/

namespace ForeignBridge
namespace BinaryFormat

/-- The second format has every number of the first, and the middles of neighbours among them. -/
structure Halves (F G : BinaryFormat) : Prop where
  fraction : F.fractionBits + 1 ≤ G.fractionBits
  unit : F.unitExponent + 1 ≤ G.unitExponent
  range : F.units F.infinity * 2 ^ (G.unitExponent - F.unitExponent) ≤ G.units G.infinity

theorem halves_single_double : binary32.Halves binary64 where
  fraction := by decide
  unit := by decide
  range := by decide +kernel

variable {F G : BinaryFormat}

/-- The middle of two neighbours is a number of the other format. -/
theorem Halves.exists_middle (h : F.Halves G) {code : Nat} (hcode : code < F.infinity) :
    ∃ middle : Fin (G.infinity + 1),
      G.value middle.val = (F.value code + F.value (code + 1)) / 2 := by
  obtain ⟨exponent, mantissa, hparts, hlow, hhigh⟩ := exists_mantissa F code
  obtain ⟨d, hd⟩ := Nat.exists_eq_add_of_le h.unit
  have hsum : F.units code + F.units (code + 1) = (2 * mantissa + 1) * 2 ^ exponent := by
    rw [hparts, units_after F hlow hhigh]
    ring
  have hmantissa : 2 * mantissa + 1 < 2 ^ (G.fractionBits + 1) := by
    have hpower : 2 * 2 ^ (F.fractionBits + 1) ≤ 2 ^ (G.fractionBits + 1) := by
      rw [← pow_succ']
      exact Nat.pow_le_pow_right Nat.two_pos (by have := h.fraction; omega)
    omega
  have hunits : G.units (G.nearestCode ((F.units code + F.units (code + 1)) * 2 ^ d) 0) =
      (F.units code + F.units (code + 1)) * 2 ^ d := by
    refine units_nearestCode G (b := exponent + d) ?_ hmantissa
    rw [hsum, pow_add, Nat.mul_assoc]
  have hle : G.nearestCode ((F.units code + F.units (code + 1)) * 2 ^ d) 0 ≤ G.infinity := by
    rw [← (units_strictMono G).le_iff_le, hunits]
    have hmono := (units_strictMono F).monotone
    have hsecond : F.units (code + 1) ≤ F.units F.infinity := hmono hcode
    have hfirst : F.units code ≤ F.units F.infinity := hmono (Nat.le_of_lt hcode)
    calc (F.units code + F.units (code + 1)) * 2 ^ d
        ≤ 2 * F.units F.infinity * 2 ^ d := Nat.mul_le_mul_right _ (by omega)
      _ = F.units F.infinity * 2 ^ (G.unitExponent - F.unitExponent) := by
          rw [hd, show F.unitExponent + 1 + d - F.unitExponent = d + 1 by omega]
          ring
      _ ≤ G.units G.infinity := h.range
  refine ⟨⟨_, Nat.lt_succ_of_le hle⟩, ?_⟩
  unfold value
  rw [hunits, hd]
  push_cast
  rw [pow_add, pow_succ]
  field_simp

end BinaryFormat

namespace Binary

open BinaryFormat

variable {F G : BinaryFormat}

/-- Between a number and the next one of the same sign is one of the other format. -/
theorem exists_middle (h : F.Halves G) (negative : Bool) {code : Nat} (hcode : code < F.infinity) :
    ∃ m : Binary G, m.place? = some (if negative then -((F.value code + F.value (code + 1)) / 2)
      else (F.value code + F.value (code + 1)) / 2) := by
  rcases h.exists_middle hcode with ⟨middle, hmiddle⟩
  exact ⟨number negative middle, by rw [place?_number, hmiddle]⟩

/-- Next to one number, on the side of another one, is a number of the first format, and the second
format has the middle. -/
def HasBetween (F G : BinaryFormat) (a b : ℚ) : Prop :=
  ∃ (z : Binary F) (c : ℚ) (m : Binary G), z.place? = some c ∧ m.place? = some ((a + c) / 2) ∧
    (a < c ∧ c ≤ b ∨ b ≤ c ∧ c < a)

theorem HasBetween.neg {a b : ℚ} (h : HasBetween F G (-a) (-b)) : HasBetween F G a b := by
  rcases h with ⟨z, c, m, hz, hm, hbetween⟩
  refine ⟨z.neg, -c, m.neg, ?_, ?_, ?_⟩
  · rw [place?_neg, hz]
    rfl
  · rw [place?_neg, hm, Option.map_some]
    congr 1
    ring
  · rcases hbetween with ⟨hlow, hhigh⟩ | ⟨hlow, hhigh⟩
    · exact .inr ⟨by linarith, by linarith⟩
    · exact .inl ⟨by linarith, by linarith⟩

theorem hasBetween_above (h : F.Halves G) {code other : Nat} (hlt : code < other)
    (hother : other ≤ F.infinity) : HasBetween F G (F.value code) (F.value other) := by
  have hmono := value_strictMono F
  rcases exists_middle h false (Nat.lt_of_lt_of_le hlt hother) with ⟨m, hm⟩
  refine ⟨number false ⟨code + 1, by omega⟩, _, m, place?_number _ _, hm, .inl ⟨?_, ?_⟩⟩
  · exact hmono (Nat.lt_succ_self code)
  · exact hmono.monotone hlt

theorem hasBetween_below (h : F.Halves G) {code : Nat} (hcode : code < F.infinity) {b : ℚ}
    (hb : b ≤ F.value code) : HasBetween F G (F.value (code + 1)) b := by
  rcases exists_middle h false hcode with ⟨m, hm⟩
  refine ⟨number false ⟨code, by omega⟩, _, m, place?_number _ _, ?_, .inr ⟨hb, ?_⟩⟩
  · rw [hm, add_comm]
    rfl
  · exact value_strictMono F (Nat.lt_succ_self code)

theorem hasBetween_of_nonneg (h : F.Halves G) {code : Fin (F.infinity + 1)} {y : Binary F} {b : ℚ}
    (hy : y.place? = some b) (hne : b ≠ F.value code.val) : HasBetween F G (F.value code.val) b := by
  have hmono := value_strictMono F
  have hcode := Nat.le_of_lt_succ code.isLt
  cases y with
  | nan => cases hy
  | number negative other =>
      have hother := Nat.le_of_lt_succ other.isLt
      rw [place?_number, Option.some_inj] at hy
      subst hy
      cases negative with
      | false =>
          rw [if_neg Bool.false_ne_true] at hne ⊢
          rcases Nat.lt_trichotomy other.val code.val with hlt | heq | hgt
          · obtain ⟨before, hbefore⟩ := Nat.exists_eq_succ_of_ne_zero (Nat.ne_zero_of_lt hlt)
            rw [hbefore] at hlt hcode ⊢
            exact hasBetween_below h hcode (hmono.monotone (Nat.le_of_lt_succ hlt))
          · exact absurd (congrArg F.value heq) hne
          · exact hasBetween_above h hgt hother
      | true =>
          rw [if_pos rfl] at hne ⊢
          have hnonneg := value_nonneg F other.val
          rcases Nat.eq_zero_or_pos code.val with hfirst | hpos
          · -- Below zero are the opposites of what is above.
            rw [hfirst, value_zero] at hne ⊢
            have hlt : 0 < other.val := by
              rw [← hmono.lt_iff_lt, value_zero]
              exact lt_of_le_of_ne hnonneg fun hzero => hne (by rw [← hzero, neg_zero])
            apply HasBetween.neg
            rw [neg_zero, neg_neg, ← value_zero F]
            exact hasBetween_above h hlt hother
          · obtain ⟨before, hbefore⟩ := Nat.exists_eq_succ_of_ne_zero hpos.ne'
            rw [hbefore] at hcode ⊢
            exact hasBetween_below h hcode (by linarith [value_nonneg F before])

theorem hasBetween (h : F.Halves G) {x y : Binary F} {a b : ℚ} (hx : x.place? = some a)
    (hy : y.place? = some b) (hne : b ≠ a) : HasBetween F G a b := by
  cases x with
  | nan => cases hx
  | number negative code =>
      rw [place?_number, Option.some_inj] at hx
      subst hx
      cases negative with
      | false => exact hasBetween_of_nonneg h hy hne
      | true =>
          have hopposite : y.neg.place? = some (-b) := by
            rw [place?_neg, hy]
            rfl
          apply HasBetween.neg
          rw [if_pos rfl, neg_neg]
          refine hasBetween_of_nonneg h hopposite fun hsame => hne ?_
          rw [if_pos rfl, ← hsame, neg_neg]

/-- A number lies half way between a datum and another one, and a second number lies beyond it. -/
def Strays (x : Binary F) (p v : ℚ) : Prop :=
  ∃ (a b : ℚ) (y : Binary F), x.place? = some a ∧ y.place? = some b ∧ a ≠ b ∧ 2 * p = a + b ∧
    0 < (p - a) * (v - p)

/-- What is next to a number that has been rounded is next to the number itself, unless it was rounded to
the middle. -/
theorem beyond_middle {v p a c : ℚ} (hne : a ≠ c) (hp : |p - a| ≤ |p - c|)
    (hv : |v - p| ≤ |v - (a + c) / 2|) :
    0 < (c - a) * (a + c - 2 * v) ∨ 2 * p = a + c ∧ 0 ≤ (p - a) * (v - p) := by
  rw [abs_sub_le_abs_sub_iff] at hp hv
  rcases lt_or_gt_of_ne hne with hlt | hgt
  · have hhalf := nonneg_of_mul_nonneg_right hp (sub_pos.2 hlt)
    rcases lt_or_ge (2 * v) (a + c) with hbefore | hbeyond
    · exact .inl (mul_pos (sub_pos.2 hlt) (sub_pos.2 hbefore))
    · right
      have hmiddle : (a + c) / 2 - p ≤ 0 := by
        by_contra hpos
        have hfar := nonneg_of_mul_nonneg_right hv (not_le.1 hpos)
        linarith
      exact ⟨by linarith, mul_nonneg (by linarith) (by linarith)⟩
  · have hhalf := nonpos_of_mul_nonneg_right hp (sub_neg.2 hgt)
    rcases lt_or_ge (a + c) (2 * v) with hbefore | hbeyond
    · exact .inl (mul_pos_of_neg_of_neg (sub_neg.2 hgt) (sub_neg.2 hbefore))
    · right
      have hmiddle : 0 ≤ (a + c) / 2 - p := by
        by_contra hneg
        have hfar := nonpos_of_mul_nonneg_right hv (not_le.1 hneg)
        linarith
      exact ⟨by linarith, mul_nonneg_of_nonpos_of_nonpos (by linarith) (by linarith)⟩

/-- Rounding twice takes the nearest datum exactly if the number does not stray. -/
theorem nearestTo_iff_not_strays (h : F.Halves G) {v p : ℚ} {wide : Binary G} {x : Binary F}
    (hwide : wide.NearestTo v) (hp : wide.place? = some p) (hx : x.NearestTo p) :
    x.NearestTo v ↔ ¬ x.Strays p v := by
  rcases hwide with ⟨_, hp', hwide⟩
  obtain rfl := Option.some.inj (hp.symm.trans hp')
  rcases hx with ⟨a, ha, hx⟩
  constructor
  · rintro ⟨_, ha', hnearest⟩ ⟨_, b, y, ha'', hb, hne, hmiddle, hbeyond⟩
    obtain rfl := Option.some.inj (ha.symm.trans ha')
    obtain rfl := Option.some.inj (ha.symm.trans ha'')
    have hle := (hnearest y b hb).1
    rw [abs_sub_le_abs_sub_iff] at hle
    have hb' : b = 2 * p - a := by linarith
    rw [hb'] at hle
    linarith
  · intro hstrays
    refine ⟨a, ha, fun y r hr => ?_⟩
    by_cases hsame : r = a
    · rw [hsame]
      exact ⟨le_rfl, fun _ => .inl rfl⟩
    · rcases hasBetween h ha hr hsame with ⟨z, c, m, hc, hm, hbetween⟩
      have hne : a ≠ c := by
        rcases hbetween with hup | hdown
        · exact hup.1.ne
        · exact hdown.2.ne'
      rcases beyond_middle hne (hx z c hc).1 (hwide m _ hm).1 with hbefore | ⟨hmiddle, hbeyond⟩
      · -- The other number is beyond the middle.
        have hfar : 0 < (r - a) * (a + r - 2 * v) := by
          rcases hbetween with hup | hdown
          · have hpos := (mul_pos_iff_of_pos_left (sub_pos.2 hup.1)).1 hbefore
            exact mul_pos (by linarith) (by linarith)
          · have hneg := neg_of_mul_pos_right hbefore (sub_neg.2 hdown.2).le
            exact mul_pos_of_neg_of_neg (by linarith) (by linarith)
        rw [abs_sub_le_abs_sub_iff, abs_sub_eq_abs_sub_iff]
        refine ⟨hfar.le, ?_⟩
        rintro (hr | hr)
        · exact absurd hr hsame
        · rw [hr, sub_self, mul_zero] at hfar
          exact absurd hfar (lt_irrefl 0)
      · have hzero : (p - a) * (v - p) = 0 :=
          le_antisymm (not_lt.1 fun hpos => hstrays ⟨a, c, z, ha, hc, hne, hmiddle, hpos⟩) hbeyond
        rcases mul_eq_zero.1 hzero with hp | hv
        · exact absurd (by linarith) hne
        · obtain rfl : v = p := by linarith
          exact hx y r hr

/-- An integer of no more bits than a mantissa is one of the numbers of the format. -/
theorem exists_place?_of_natAbs_le {value : Int} (h : value.natAbs ≤ 2 ^ (F.fractionBits + 1))
    (hrange : F.unitExponent + 3 < 2 ^ F.exponentBits - 1) :
    ∃ y : Binary F, y.place? = some (value : ℚ) := by
  have hle : value.natAbs * 2 ^ F.unitExponent < 2 ^ (F.fractionBits + 1 + (F.unitExponent + 1)) := by
    have hpos := Nat.two_pow_pos (F.fractionBits + 1)
    rw [pow_add, pow_succ 2 F.unitExponent]
    calc value.natAbs * 2 ^ F.unitExponent
        ≤ 2 ^ (F.fractionBits + 1) * 2 ^ F.unitExponent := Nat.mul_le_mul_right _ h
      _ < 2 ^ (F.fractionBits + 1) * (2 ^ F.unitExponent * 2) := by
          have hunit := Nat.two_pow_pos F.unitExponent
          exact (Nat.mul_lt_mul_left hpos).2 (by omega)
  have hunits : F.units (F.nearestCode (value.natAbs * 2 ^ F.unitExponent) 0) =
      value.natAbs * 2 ^ F.unitExponent := by
    rcases Nat.lt_or_eq_of_le h with hlt | heq
    · exact units_nearestCode F rfl hlt
    · refine units_nearestCode F (a := 1) (b := F.fractionBits + 1 + F.unitExponent) ?_ ?_
      · rw [heq, ← pow_add, Nat.one_mul]
      · exact Nat.one_lt_two_pow (Nat.succ_ne_zero _)
  have hcode := nearestCode_lt_infinity F hle (by omega)
  refine ⟨ofCode (value < 0) (F.nearestCode (value.natAbs * 2 ^ F.unitExponent) 0), ?_⟩
  rw [place?_ofCode _ (Nat.le_of_lt hcode)]
  unfold BinaryFormat.value
  rw [hunits]
  push_cast
  rw [mul_div_cancel_right₀ _ (by positivity), Nat.cast_natAbs, Int.cast_abs, signed_abs]

end Binary

/-!
# Floats for wide integers
-/

namespace Scalar

/-- What floats become of a wide integer: a double, and a single that is reached through it. -/
structure MadeFloats (wide : BitVec 128) (x : Double) (p : ℚ) (s : Single) : Prop where
  double : ofInt .double wide.toInt = .ok (.real (.double x))
  double_nearest : x.NearestTo wide.toInt
  double_value : x.quantity? = some p
  single : ofInt .single wide.toInt = .ok (.real (.single s))
  single_finite : ∃ q, s.quantity? = some q
  /-- The single is nearest to the double. -/
  single_nearest : s.NearestTo p
  /-- It is nearest to the integer too, unless the integer lies beyond a double that is half way between
  two singles. -/
  single_nearest_iff : s.NearestTo wide.toInt ↔ ¬ s.Strays p wide.toInt
  /-- No integer of 53 bits does. -/
  single_nearest_of_small : wide.toInt.natAbs ≤ 2 ^ 53 → s.NearestTo wide.toInt

theorem eq_single_of_ofDouble {x : Double} {y : HostFloat} (h : HostFloat.ofDouble .single x = .ok y) :
    y = .single (x.convert .binary32) := by
  unfold HostFloat.ofDouble at h
  dsimp only at h
  split at h
  · cases h
  · exact (Except.ok.inj h).symm

/-- Every wide integer becomes the nearest double, and the single that is nearest to that. -/
theorem exists_madeFloats (wide : BitVec 128) : ∃ x p s, MadeFloats wide x p s := by
  have hlow := BitVec.le_toInt wide
  have hhigh := BitVec.toInt_lt (x := wide)
  have hwide : |(wide.toInt : ℚ)| ≤ (2 ^ 127 : Int) := by
    rw [abs_le]
    constructor
    · exact_mod_cast hlow
    · exact_mod_cast hhigh.le
  have hdouble : (Binary.ofInt (2 ^ 127) : Double).integer? = some (2 ^ 127) := by decide +kernel
  have hsingle : (Binary.ofInt (2 ^ 127) : Single).integer? = some (2 ^ 127) := by decide +kernel
  have hnearest : (Binary.ofInt wide.toInt : Double).NearestTo wide.toInt :=
    Binary.nearestTo_ofInt (by decide) wide.toInt
  rcases hnearest.bounded ((Binary.integer?_eq_some_iff _ _).1 hdouble) hwide with ⟨p, hp, hpbound⟩
  have hthrough : ((Binary.ofInt wide.toInt : Double).convert .binary32).NearestTo p :=
    Binary.nearestTo_convert (by decide) hp
  rcases hthrough.bounded ((Binary.integer?_eq_some_iff _ _).1 hsingle) hpbound with ⟨q, hq, -⟩
  have hiff := Binary.nearestTo_iff_not_strays BinaryFormat.halves_single_double hnearest
    (Binary.place?_of_quantity? hp) hthrough
  refine ⟨Binary.ofInt wide.toInt, p, (Binary.ofInt wide.toInt : Double).convert .binary32,
    rfl, hnearest, hp, ?_, ⟨q, hq⟩, hthrough, hiff, fun hsmall => ?_⟩
  · rcases HostFloat.exists_single_ofInt wide with ⟨y, hy⟩
    rw [ofInt_of_isFloat rfl rfl, hy, eq_single_of_ofDouble hy]
    rfl
  · rcases Binary.exists_place?_of_natAbs_le (F := .binary64) hsmall (by decide) with ⟨y, hy⟩
    rw [← hnearest.eq_of_place? (Binary.place?_of_quantity? hp) hy]
    exact hthrough

/-!
An integer that lies beyond a double half way between two singles becomes the further one of them.
-/

theorem not_nearest_of_beyond_middle :
    ofInt .single 1152921573326323713 = .ok (.real (.single (Binary.ofBits 0x5d800000))) ∧
      (Binary.ofBits 0x5d800001 : Single).NearestTo (1152921573326323713 : Int) ∧
      ¬ (Binary.ofBits 0x5d800000 : Single).NearestTo (1152921573326323713 : Int) := by
  have hmade : ofInt .single 1152921573326323713 =
      .ok (.real (.single (Binary.ofBits 0x5d800000))) := by decide +kernel
  have hnext : (Binary.ofInt 1152921573326323713 : Single) = Binary.ofBits 0x5d800001 := by
    decide +kernel
  have hlow : (Binary.ofBits 0x5d800000 : Single).integer? = some 1152921504606846976 := by
    decide +kernel
  have hhigh : (Binary.ofBits 0x5d800001 : Single).integer? = some 1152921642045800448 := by
    decide +kernel
  refine ⟨hmade, ?_, ?_⟩
  · rw [← hnext]
    exact Binary.nearestTo_ofInt (by decide) _
  · rintro ⟨p, hp, hbest⟩
    have hplace := Binary.place?_of_quantity? ((Binary.integer?_eq_some_iff _ _).1 hlow)
    obtain rfl := Option.some.inj (hplace.symm.trans hp)
    have hother := Binary.place?_of_quantity? ((Binary.integer?_eq_some_iff _ _).1 hhigh)
    have hle := (hbest _ _ hother).1
    norm_num at hle

end Scalar
end ForeignBridge
