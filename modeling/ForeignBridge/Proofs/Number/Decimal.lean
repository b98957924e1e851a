import ForeignBridge.Proofs.Number.Nearest

/-!
# Decimals that read back

A decimal consists of digits and perhaps a point with more digits, and of a sign before them.  Read as a
datum of a format it becomes the one that has this sign and is nearest to its number, and there is only
one.  The text of a finite datum is a decimal that reads back as that datum: the ends of the interval of
which it is taken are those of the cell of its code.
-/

namespace ForeignBridge

/-!
# Reading
-/

/-- The number of a sequence of digits. -/
def digits? (text : List Char) : Option Nat :=
  if text ≠ [] ∧ text.all Char.isDigit = true then some (Nat.ofDigitChars 10 text 0) else none

/-- The number of digits, perhaps with a point and more digits after them. -/
def unsigned? (text : List Char) : Option ℚ :=
  match text.span (· != '.') with
  | (whole, []) => (digits? whole).map fun (n : Nat) => (n : ℚ)
  | (whole, _ :: places) =>
    (digits? whole).bind fun (n : Nat) =>
      (digits? places).map fun (m : Nat) => (n + m / 10 ^ places.length : ℚ)

/-- Whether a decimal has a minus sign, and the number that follows. -/
def decimal? : List Char → Option (Bool × ℚ)
  | '-' :: text => (unsigned? text).map fun q => (true, q)
  | text => (unsigned? text).map fun q => (false, q)

section Digits

variable {text whole places : List Char}

theorem digits?_eq (hne : text ≠ []) (h : ∀ c ∈ text, c.isDigit = true) :
    digits? text = some (Nat.ofDigitChars 10 text 0) :=
  if_pos ⟨hne, List.all_eq_true.2 h⟩

/-- Digits end at the point. -/
theorem span_digits (h : ∀ c ∈ text, c.isDigit = true) (rest : List Char)
    (hrest : ∀ c ∈ rest.head?, c = '.') : (text ++ rest).span (· != '.') = (text, rest) := by
  have hpoint : ∀ c ∈ text, (c != '.') = true := by
    intro c hc
    rw [bne_iff_ne]
    rintro rfl
    exact absurd (h _ hc) (by decide)
  rw [List.span_eq_takeWhile_dropWhile, List.takeWhile_append_of_pos hpoint,
    List.dropWhile_append_of_pos hpoint]
  cases rest with
  | nil => simp
  | cons c rest =>
      obtain rfl := hrest c rfl
      simp

theorem unsigned?_digits (hne : text ≠ []) (h : ∀ c ∈ text, c.isDigit = true) :
    unsigned? text = some (Nat.ofDigitChars 10 text 0 : ℚ) := by
  have hspan := span_digits h [] (by simp)
  rw [List.append_nil] at hspan
  unfold unsigned?
  rw [hspan]
  dsimp only
  rw [digits?_eq hne h]
  rfl

/-- Digits after a point count as if they stood before it, but less. -/
theorem unsigned?_point (hwhole : whole ≠ []) (hplaces : places ≠ [])
    (h : ∀ c ∈ whole ++ places, c.isDigit = true) :
    unsigned? (whole ++ '.' :: places) =
      some (Nat.ofDigitChars 10 (whole ++ places) 0 / 10 ^ places.length : ℚ) := by
  have hleft : ∀ c ∈ whole, c.isDigit = true := fun c hc => h c (List.mem_append_left _ hc)
  have hright : ∀ c ∈ places, c.isDigit = true := fun c hc => h c (List.mem_append_right _ hc)
  have hspan := span_digits hleft ('.' :: places) (by simp)
  have hshift : Nat.ofDigitChars 10 places (Nat.ofDigitChars 10 whole 0) =
      10 ^ places.length * Nat.ofDigitChars 10 whole 0 + Nat.ofDigitChars 10 places 0 :=
    Nat.ofDigitChars_eq_ofDigitChars_zero
  unfold unsigned?
  rw [hspan]
  dsimp only
  rw [digits?_eq hwhole hleft, digits?_eq hplaces hright, Option.bind_some, Option.map_some,
    Nat.ofDigitChars_append, hshift]
  push_cast
  rw [add_div, mul_div_cancel_left₀ _ (by positivity)]

theorem unsigned?_minus (text : List Char) : unsigned? ('-' :: text) = none := by
  have hnone : ∀ rest, digits? ('-' :: rest) = none := fun rest => if_neg fun h =>
    absurd (List.all_eq_true.1 h.2 '-' List.mem_cons_self) (by decide)
  have hspan : ('-' :: text).span (· != '.') =
      ('-' :: text.takeWhile (· != '.'), text.dropWhile (· != '.')) := by
    rw [List.span_eq_takeWhile_dropWhile]
    rfl
  unfold unsigned?
  rw [hspan]
  cases text.dropWhile (· != '.') with
  | nil =>
      dsimp only
      rw [hnone]
      rfl
  | cons c rest =>
      dsimp only
      rw [hnone]
      rfl

theorem decimal?_of_unsigned? {q : ℚ} (h : unsigned? text = some q) :
    decimal? text = some (false, q) := by
  unfold decimal?
  split
  · rw [unsigned?_minus] at h
    cases h
  · rw [h]
    rfl

theorem decimal?_sign {text : String} {q : ℚ} (h : unsigned? text.toList = some q)
    (negative : Bool) :
    decimal? ((if negative then "-" else "") ++ text).toList = some (negative, q) := by
  rw [String.toList_append]
  cases negative with
  | false => exact decimal?_of_unsigned? h
  | true =>
      show (unsigned? text.toList).map _ = _
      rw [h]
      rfl

end Digits

/-!
# Writing
-/

section Positional

variable (n : Nat)

theorem isDigit_toDigits : ∀ c ∈ Nat.toDigits 10 n, c.isDigit = true :=
  fun _ => Nat.isDigit_of_mem_toDigits (by decide) (by decide)

theorem unsigned?_toDigits : unsigned? (Nat.toDigits 10 n) = some (n : ℚ) := by
  rw [unsigned?_digits Nat.toDigits_ne_nil (isDigit_toDigits n), Nat.ofDigitChars_ten_toDigits]

/-- Whole numbers are written with their digits. -/
theorem decimal?_int (n : Int) : decimal? (toString n).toList = some (decide (n < 0), |(n : ℚ)|) := by
  cases n with
  | ofNat m =>
      have htext : (toString (Int.ofNat m)).toList = Nat.toDigits 10 m := Nat.toList_repr
      rw [htext, decimal?_of_unsigned? (unsigned?_toDigits m)]
      simp
  | negSucc m =>
      have htext : (toString (Int.negSucc m)).toList = '-' :: Nat.toDigits 10 (m + 1) := by
        show ("-" ++ (m + 1).repr).toList = _
        rw [String.toList_append, Nat.toList_repr]
        rfl
      rw [htext]
      show (unsigned? (Nat.toDigits 10 (m + 1))).map _ = _
      rw [unsigned?_toDigits, Option.map_some, decide_eq_true (Int.negSucc_lt_zero m),
        Int.cast_negSucc, abs_neg, Nat.abs_cast]

/-- Positional notation is read as the number of which it consists. -/
theorem unsigned?_positional (exponent : Int) :
    unsigned? (positional n exponent).toList = some (n * 10 ^ exponent : ℚ) := by
  have hdigits := isDigit_toDigits n
  have hvalue : Nat.ofDigitChars 10 (Nat.toDigits 10 n) 0 = n := Nat.ofDigitChars_ten_toDigits
  have hzeros : ∀ k, ∀ c ∈ List.replicate k '0', c.isDigit = true := by
    intro k c hc
    rw [List.eq_of_mem_replicate hc]
    rfl
  unfold positional
  cases exponent with
  | ofNat zeros =>
      dsimp only
      rw [String.toList_ofList, unsigned?_digits (by simp)]
      · rw [Nat.ofDigitChars_append, hvalue, Nat.ofDigitChars_replicate_zero, Int.ofNat_eq_natCast,
          zpow_natCast]
        push_cast
        rw [mul_comm]
      · exact List.forall_mem_append.2 ⟨hdigits, hzeros zeros⟩
  | negSucc places =>
      dsimp only
      rw [zpow_negSucc, ← div_eq_mul_inv]
      split
      · next hlt =>
          have hlength : ((Nat.toDigits 10 n).drop
              ((Nat.toDigits 10 n).length - (places + 1))).length = places + 1 := by
            rw [List.length_drop]
            omega
          rw [String.toList_ofList, unsigned?_point, List.take_append_drop, hvalue, hlength]
          · exact List.ne_nil_of_length_pos (by rw [List.length_take]; omega)
          · exact List.ne_nil_of_length_pos (by omega)
          · rw [List.take_append_drop]
            exact hdigits
      · next hge =>
          have hlength : (List.replicate (places + 1 - (Nat.toDigits 10 n).length) '0' ++
              Nat.toDigits 10 n).length = places + 1 := by
            rw [List.length_append, List.length_replicate]
            omega
          have hpadded : ∀ k, Nat.ofDigitChars 10 (['0'] ++ (List.replicate k '0' ++
              Nat.toDigits 10 n)) 0 = n := by
            intro k
            rw [← List.append_assoc, Nat.ofDigitChars_append, Nat.ofDigitChars_append,
              Nat.ofDigitChars_replicate_zero]
            exact hvalue
          rw [String.toList_ofList]
          show unsigned? (['0'] ++ '.' :: _) = _
          rw [unsigned?_point (by simp), hpadded, hlength]
          · exact List.ne_nil_of_length_pos (by omega)
          · exact List.forall_mem_append.2
              ⟨hzeros 1, List.forall_mem_append.2 ⟨hzeros _, hdigits⟩⟩

end Positional

/-!
# Shortest decimals
-/

namespace BinaryFormat

namespace Readback

variable {r : Readback}

/-- What is written instead of the number reads back. -/
theorem admits_candidate {t digits : Nat} (h : r.candidate? t = some digits) :
    r.admits (digits * 10 ^ t) = true := by
  unfold candidate? at h
  dsimp only at h
  split at h
  · next hbelow habove =>
      rw [← Option.some.inj h]
      split
      · exact hbelow
      · exact habove
  · next hbelow _ =>
      rw [← Option.some.inj h]
      exact hbelow
  · next _ habove =>
      rw [← Option.some.inj h]
      exact habove
  · cases h

/-- The search ends at the latest with the number itself. -/
theorem admits_shortestFrom (hcentre : r.admits r.centre = true) (t : Nat) :
    r.admits ((r.shortestFrom t).1 * 10 ^ (r.shortestFrom t).2) = true := by
  induction t with
  | zero =>
      show r.admits (r.centre * 10 ^ 0) = true
      rw [pow_zero, Nat.mul_one]
      exact hcentre
  | succ t ih =>
      unfold shortestFrom
      split
      · next digits hdigits => exact admits_candidate hdigits
      · exact ih

end Readback

variable (F : BinaryFormat)

theorem admits_iff {code ticks : Nat} : (F.readback code).admits ticks = true ↔
    ((F.units (code - 1) + F.units code) * 5 ^ (F.unitExponent + 1) ≤ ticks ∧
      ticks ≤ (F.units code + F.units (code + 1)) * 5 ^ (F.unitExponent + 1)) ∧
    (code % 2 = 1 → (F.units (code - 1) + F.units code) * 5 ^ (F.unitExponent + 1) < ticks ∧
      ticks < (F.units code + F.units (code + 1)) * 5 ^ (F.unitExponent + 1)) := by
  have hadmits : (F.readback code).admits ticks =
      if code % 2 == 0 then
        decide ((F.units (code - 1) + F.units code) * 5 ^ (F.unitExponent + 1) ≤ ticks) &&
          decide (ticks ≤ (F.units code + F.units (code + 1)) * 5 ^ (F.unitExponent + 1))
      else
        decide ((F.units (code - 1) + F.units code) * 5 ^ (F.unitExponent + 1) < ticks) &&
          decide (ticks < (F.units code + F.units (code + 1)) * 5 ^ (F.unitExponent + 1)) := rfl
  rw [hadmits]
  rcases Nat.mod_two_eq_zero_or_one code with heven | hodd
  · simp [heven]
  · simp only [hodd, Nat.reduceBEq, Bool.false_eq_true, if_false, Bool.and_eq_true,
      decide_eq_true_eq, forall_const]
    omega

/-- The interval of the decimals that read back is the cell of the code. -/
theorem inCell_of_admits {code ticks : Nat} (h : (F.readback code).admits ticks = true) :
    F.InCell code (ticks / (2 * 5 ^ (F.unitExponent + 1))) := by
  have htick : (0 : ℚ) < 5 ^ (F.unitExponent + 1) := by positivity
  have hdouble : (2 * (ticks / (2 * 5 ^ (F.unitExponent + 1))) : ℚ) =
      ticks / 5 ^ (F.unitExponent + 1) := by
    rw [← mul_div_assoc, mul_div_mul_left _ _ two_ne_zero]
  rcases (admits_iff F).1 h with ⟨⟨hlow, hhigh⟩, hinside⟩
  refine ⟨?_, ?_, fun hodd => ?_⟩
  · rw [hdouble, le_div_iff₀ htick]
    exact_mod_cast hlow
  · rw [hdouble, div_le_iff₀ htick]
    exact_mod_cast hhigh
  · rw [hdouble, lt_div_iff₀ htick, div_lt_iff₀ htick]
    exact_mod_cast hinside hodd

theorem admits_centre {code : Nat} (hcode : 0 < code) :
    (F.readback code).admits (F.readback code).centre = true := by
  have htick : 0 < 5 ^ (F.unitExponent + 1) := Nat.pow_pos (by decide)
  have hbefore := units_strictMono F (Nat.sub_one_lt hcode.ne')
  have hafter : F.units code < F.units (code + 1) := units_strictMono F (Nat.lt_succ_self code)
  have hcentre : (F.readback code).centre = 2 * F.units code * 5 ^ (F.unitExponent + 1) := rfl
  have hlow : (F.units (code - 1) + F.units code) * 5 ^ (F.unitExponent + 1) <
      (F.readback code).centre := by
    rw [hcentre]
    exact (Nat.mul_lt_mul_right htick).2 (by omega)
  have hhigh : (F.readback code).centre <
      (F.units code + F.units (code + 1)) * 5 ^ (F.unitExponent + 1) := by
    rw [hcentre]
    exact (Nat.mul_lt_mul_right htick).2 (by omega)
  exact (admits_iff F).2 ⟨⟨hlow.le, hhigh.le⟩, fun _ => ⟨hlow, hhigh⟩⟩

/-- The shortest decimal of a code is in its cell. -/
theorem inCell_shortestDecimal {code : Nat} (hcode : 0 < code) :
    F.InCell code ((F.shortestDecimal code).1 * 10 ^ (F.shortestDecimal code).2 *
      2 ^ F.unitExponent) := by
  have hadmits := Readback.admits_shortestFrom (admits_centre F hcode)
    ((F.readback code).high.log2 / 3 + 1)
  have hcell := inCell_of_admits F hadmits
  have hdecimal : F.shortestDecimal code = ((F.readback code).shortest.1,
      ((F.readback code).shortest.2 : Int) - (F.unitExponent + 1 : Nat)) := rfl
  have hshortest : (F.readback code).shortestFrom ((F.readback code).high.log2 / 3 + 1) =
      (F.readback code).shortest := rfl
  rw [hshortest] at hcell
  rw [hdecimal]
  dsimp only
  generalize (F.readback code).shortest = shortest at hcell ⊢
  have hticks : (shortest.1 * 10 ^ ((shortest.2 : Int) - (F.unitExponent + 1 : Nat)) *
      2 ^ F.unitExponent : ℚ) =
        (shortest.1 * 10 ^ shortest.2 : Nat) / (2 * 5 ^ (F.unitExponent + 1)) := by
    have hten : (10 : ℚ) ^ (F.unitExponent + 1) =
        2 ^ F.unitExponent * (2 * 5 ^ (F.unitExponent + 1)) := by
      rw [show (10 : ℚ) = 2 * 5 by norm_num, mul_pow, pow_succ 2 F.unitExponent, mul_assoc]
    rw [zpow_sub₀ (by norm_num), zpow_natCast, zpow_natCast, hten]
    push_cast
    field_simp
  rw [hticks]
  exact hcell

end BinaryFormat

namespace Binary

open BinaryFormat

variable {F : BinaryFormat}

/-- A text is a decimal with the sign of a datum, and none is nearer to its number. -/
def ReadsAs (text : String) (x : Binary F) : Prop :=
  ∃ negative q code, decimal? text.toList = some (negative, q) ∧ x = number negative code ∧
    x.NearestTo (if negative then -q else q)

/-- Of two numbers of one sign that are equally near at most one is even, or there is one between. -/
theorem NearestTo.not_lt {negative : Bool} {code other : Fin (F.infinity + 1)} {q : ℚ}
    (hx : (number negative code).NearestTo q) (hy : (number negative other).NearestTo q) :
    ¬ code.val < other.val := by
  intro hlt
  have hmono := value_strictMono F
  have hother := Nat.le_of_lt_succ other.isLt
  rcases hx with ⟨p, hp, hx⟩
  rcases hy with ⟨r, hr, hy⟩
  have htie : |q - r| = |q - p| := le_antisymm (hy _ p hp).1 (hx _ r hr).1
  have hsame := (abs_sub_eq_abs_sub_iff q p r).1 htie
  have hbetween := hx (number negative ⟨code.val + 1, by omega⟩) _ (place?_number _ _)
  have hfirst := hmono (Nat.lt_succ_self code.val)
  have hsum := hmono hlt
  rw [abs_sub_le_abs_sub_iff] at hbetween
  have heven := (hx _ r hr).2 htie
  have heven' := (hy _ p hp).2 htie.symm
  rw [place?_number, Option.some_inj] at hp hr
  subst hp hr
  have hne : (if negative = true then -F.value other.val else F.value other.val) ≠
      if negative = true then -F.value code.val else F.value code.val := by
    cases negative with
    | false => exact hsum.ne'
    | true => exact fun h => hsum.ne' (neg_injective h)
  have hparity : code.val % 2 = 0 := heven.resolve_left hne
  have hparity' : other.val % 2 = 0 := heven'.resolve_left hne.symm
  have hlast := hmono (show code.val + 1 < other.val by omega)
  have hmiddle := hsame.resolve_left hne
  rw [hmiddle] at hbetween
  refine absurd hbetween.1 (not_le.2 ?_)
  cases negative with
  | false =>
      simp only [Bool.false_eq_true, if_false]
      exact mul_neg_of_pos_of_neg (by linarith) (by linarith)
  | true =>
      simp only [if_true]
      exact mul_neg_of_neg_of_pos (by linarith) (by linarith)

/-- A text reads as one datum only. -/
theorem ReadsAs.unique {text : String} {x y : Binary F} (hx : ReadsAs text x) (hy : ReadsAs text y) :
    x = y := by
  rcases hx with ⟨negative, q, code, hdecimal, rfl, hx⟩
  rcases hy with ⟨negative', q', other, hdecimal', rfl, hy⟩
  obtain ⟨rfl, rfl⟩ := Prod.mk.inj (Option.some.inj (hdecimal.symm.trans hdecimal'))
  have hcode : code.val = other.val :=
    Nat.le_antisymm (Nat.not_lt.1 (hy.not_lt hx)) (Nat.not_lt.1 (hx.not_lt hy))
  rw [Fin.ext hcode]

theorem nearestTo_of_place? {x : Binary F} {p : ℚ} (hp : x.place? = some p) : x.NearestTo p := by
  refine ⟨p, hp, fun y r _ => ?_⟩
  rw [sub_self, abs_zero]
  exact ⟨abs_nonneg _, fun h => .inl (by linarith [abs_nonpos_iff.1 h.le])⟩

/-- The text of a finite datum reads back as that datum. -/
theorem readsAs_text {x : Binary F} {p : ℚ} (hx : x.quantity? = some p) : ReadsAs x.text x := by
  cases x with
  | nan => cases hx
  | number negative code =>
      have hfinite : code.val ≠ F.infinity := by
        intro hinfinite
        simp [quantity?, hinfinite] at hx
      by_cases hzero : code.val = 0
      · have htext : (number negative code).text = (if negative then "-" else "") ++ "0" := by
          unfold text
          dsimp only
          rw [if_neg hfinite, if_pos hzero]
        have hread : unsigned? "0".toList = some 0 := by
          simpa using unsigned?_toDigits 0
        refine ⟨negative, 0, code, ?_, rfl, ?_⟩
        · rw [htext]
          exact decimal?_sign hread negative
        · apply nearestTo_of_place?
          rw [place?_number, hzero, value_zero]
      · have htext : (number negative code).text = (if negative then "-" else "") ++
            positional (F.shortestDecimal code.val).1 (F.shortestDecimal code.val).2 := by
          unfold text
          dsimp only
          rw [if_neg hfinite, if_neg hzero]
        have hread := unsigned?_positional (F.shortestDecimal code.val).1
          (F.shortestDecimal code.val).2
        have hdecimal := decimal?_sign hread negative
        have hcell := inCell_shortestDecimal F (Nat.pos_of_ne_zero hzero)
        have hnonneg : (0 : ℚ) ≤ (F.shortestDecimal code.val).1 *
            10 ^ (F.shortestDecimal code.val).2 * 2 ^ F.unitExponent :=
          mul_nonneg (mul_nonneg (Nat.cast_nonneg _) (zpow_nonneg (by decide) _)) (by positivity)
        have hnearest := nearestTo_of_closest negative hnonneg fun other _ => hcell.closest other
        rw [mul_div_cancel_right₀ _ (pow_ne_zero _ two_ne_zero)] at hnearest
        exact ⟨negative, _, code, htext ▸ hdecimal, rfl, hnearest⟩

end Binary
end ForeignBridge
