import Mathlib.Algebra.Order.Field.Rat
import Mathlib.Tactic.FieldSimp
import Mathlib.Tactic.Positivity
import ForeignBridge.Crossing.Chain
import ForeignBridge.Proofs.Number.Rounding

/-!
# Whole numbers

A finite number of a binary format is a rational number, and so is an integer of a fixed kind.  A
conversion to a wider format does not change the number, so it is whole for the one exactly if it is
whole for the other.  This makes the positions that the bridge takes from numbers exact.
-/

namespace ForeignBridge
namespace Binary

open BinaryFormat

variable {F G : BinaryFormat}

/-- The rational number that a datum is, if it is finite. -/
def quantity? : Binary F → Option ℚ
  | nan => none
  | number negative code =>
    if code.val = F.infinity then none
    else
      let magnitude : ℚ := F.units code.val / 2 ^ F.unitExponent
      some (if negative then -magnitude else magnitude)

theorem quantity?_infinite (negative : Bool) : (infinite negative : Binary F).quantity? = none := by
  simp [infinite, ofCode, quantity?]

theorem quantity?_ofCode (negative : Bool) {code : Nat} (hcode : code < F.infinity) :
    (ofCode negative code : Binary F).quantity? =
      some (if negative then -(F.units code / 2 ^ F.unitExponent : ℚ)
        else F.units code / 2 ^ F.unitExponent) := by
  have hmin : min code F.infinity = code := Nat.min_eq_left (Nat.le_of_lt hcode)
  simp [ofCode, quantity?, hmin, hcode.ne]

/-- A datum of a format is not-a-number, infinite, or a finite number. -/
theorem cases_code (x : Binary F) :
    x = nan ∨ (∃ negative, x = infinite negative) ∨
      ∃ negative code, code < F.infinity ∧ x = ofCode negative code := by
  cases x with
  | nan => exact .inl rfl
  | number negative code =>
      rcases Nat.lt_or_ge code.val F.infinity with hfinite | hinfinite
      · exact .inr (.inr ⟨negative, code, hfinite, (ofCode_val negative code).symm⟩)
      · have hcode : code.val = F.infinity :=
          Nat.le_antisymm (Nat.le_of_lt_succ code.isLt) hinfinite
        refine .inr (.inl ⟨negative, ?_⟩)
        rw [← ofCode_val, hcode]
        rfl

/-- A number keeps its value in a wider format. -/
theorem quantity?_convert (h : F.Widens G) (x : Binary F) :
    (x.convert G).quantity? = x.quantity? := by
  rcases x.cases_code with rfl | ⟨negative, rfl⟩ | ⟨negative, code, hcode, rfl⟩
  · rfl
  · rw [convert_infinite, quantity?_infinite, quantity?_infinite]
  · have hunits : (G.units (widenedCode F G code) / 2 ^ G.unitExponent : ℚ) =
        F.units code / 2 ^ F.unitExponent := by
      obtain ⟨d, hd⟩ := Nat.exists_eq_add_of_le h.unit
      rw [units_widenedCode h, hd, Nat.add_sub_cancel_left]
      push_cast
      rw [pow_add]
      field_simp
    rw [convert_ofCode h negative hcode, quantity?_ofCode negative (widenedCode_lt h hcode),
      quantity?_ofCode negative hcode, hunits]

theorem integer?_ofCode (negative : Bool) {code : Nat} (hcode : code < F.infinity) :
    (ofCode negative code : Binary F).integer? =
      if F.units code % 2 ^ F.unitExponent = 0 then
        some (if negative then -((F.units code / 2 ^ F.unitExponent : Nat) : Int)
          else (F.units code / 2 ^ F.unitExponent : Nat))
      else none := by
  have hmin : min code F.infinity = code := Nat.min_eq_left (Nat.le_of_lt hcode)
  simp only [ofCode, integer?, hmin, hcode.ne, if_false]
  rfl

/-- A datum consists of an integer exactly if that is its value. -/
theorem integer?_eq_some_iff (x : Binary F) (n : Int) :
    x.integer? = some n ↔ x.quantity? = some (n : ℚ) := by
  rcases x.cases_code with rfl | ⟨negative, rfl⟩ | ⟨negative, code, hcode, rfl⟩
  · simp [integer?, quantity?]
  · rw [quantity?_infinite]
    simp [infinite, ofCode, integer?]
  · have hpos : (2 : ℚ) ^ F.unitExponent ≠ 0 := by positivity
    rw [integer?_ofCode negative hcode, quantity?_ofCode negative hcode]
    by_cases hwhole : F.units code % 2 ^ F.unitExponent = 0
    · -- The value is the quotient.
      obtain ⟨quotient, hquotient⟩ := Nat.dvd_of_mod_eq_zero hwhole
      have hnat : F.units code / 2 ^ F.unitExponent = quotient := by
        rw [hquotient, Nat.mul_div_cancel_left _ (Nat.two_pow_pos _)]
      have hrat : (F.units code / 2 ^ F.unitExponent : ℚ) = (quotient : Int) := by
        rw [hquotient]
        push_cast
        field_simp
      rw [if_pos hwhole, hnat, hrat, Option.some_inj, Option.some_inj]
      cases negative with
      | true => exact_mod_cast Iff.rfl
      | false => exact_mod_cast Iff.rfl
    · rw [if_neg hwhole]
      refine iff_of_false (Option.some_ne_none _).symm fun hvalue => hwhole ?_
      -- An integer has a whole number of units.
      have hunits : (F.units code : ℚ) = n.natAbs * 2 ^ F.unitExponent := by
        have hmagnitude : (F.units code / 2 ^ F.unitExponent : ℚ) = |(n : ℚ)| := by
          have hnonneg : (0 : ℚ) ≤ F.units code / 2 ^ F.unitExponent := by positivity
          rw [Option.some_inj] at hvalue
          rw [← hvalue]
          cases negative with
          | true => rw [if_pos rfl, abs_neg, abs_of_nonneg hnonneg]
          | false => rw [if_neg Bool.false_ne_true, abs_of_nonneg hnonneg]
        rw [div_eq_iff hpos] at hmagnitude
        rw [hmagnitude, Nat.cast_natAbs, Int.cast_abs]
      have hnat : F.units code = n.natAbs * 2 ^ F.unitExponent := by exact_mod_cast hunits
      rw [hnat, Nat.mul_mod_left]

end Binary

/-!
# Scalars
-/

/-- The rational number that a scalar is, if it is a finite number.  A logical scalar is none. -/
def Scalar.quantity? : Scalar → Option ℚ
  | bool _ => none
  | int i => some i.value
  | real (.single x) => x.quantity?
  | real (.double x) => x.quantity?

theorem HostFloat.quantity?_toDouble (x : HostFloat) :
    x.toDouble.quantity? = (Scalar.real x).quantity? := by
  cases x with
  | single x => exact Binary.quantity?_convert BinaryFormat.widens_single_double x
  | double x => rfl

namespace Context

/-- A scalar is taken for a positive integer exactly if it is that integer and a signed word holds it. -/
theorem wordOf_eq_some_iff (s : Scalar) {n : Int} (hn : 1 ≤ n) :
    wordOf s = some n ↔ s.quantity? = some (n : ℚ) ∧ n ≤ 2 ^ 63 - 1 := by
  cases s with
  | bool b => simp [wordOf, Scalar.quantity?]
  | int i =>
      have hholds : NumericKind.int64.Holds i.value ↔ -2 ^ 63 ≤ i.value ∧ i.value ≤ 2 ^ 63 - 1 :=
        ⟨fun h => h.2, fun h => ⟨rfl, h⟩⟩
      simp only [wordOf, hholds, Scalar.quantity?, Option.some_inj, Int.cast_inj]
      split
      · rw [Option.some_inj]
        omega
      · refine iff_of_false (Option.some_ne_none _).symm ?_
        omega
  | real x =>
      rw [← HostFloat.quantity?_toDouble, ← Binary.integer?_eq_some_iff]
      unfold wordOf
      dsimp only
      cases x.toDouble.integer? with
      | none => simp
      | some m =>
          simp only [Option.some_inj]
          split
          · rw [Option.some_inj]
            omega
          · refine iff_of_false (Option.some_ne_none _).symm ?_
            omega

/-!
# Positions
-/

/-- What is wrong with arguments that are no position. -/
def refusal : List Value → Unsupported
  | [argument] => .indexValue argument.typeName
  | arguments => .indexCount arguments.length

/-- The arguments of a lookup are a single number, which is a positive integer that a signed word of 64
bits holds. -/
def Counts (arguments : List Value) (n : Nat) : Prop :=
  ∃ s : Scalar, arguments = [.scalar s] ∧ s.quantity? = some (n : ℚ) ∧ 1 ≤ n ∧ n ≤ 2 ^ 63 - 1

/-- What the host counts from one, the runtime counts from zero. -/
theorem positionOf_of_counts {arguments : List Value} {n : Nat} (h : Counts arguments n) :
    positionOf arguments = .ok (n - 1) := by
  rcases h with ⟨s, rfl, hquantity, hfirst, hlast⟩
  have hpositive : (1 : Int) ≤ n := by omega
  have hword : wordOf s = some (n : Int) :=
    (wordOf_eq_some_iff s hpositive).2 ⟨by exact_mod_cast hquantity, by omega⟩
  simp [positionOf, Value.scalar?, hword, hpositive]

/-- Nothing else is a position. -/
theorem positionOf_of_not_counts {arguments : List Value} (h : ∀ n, ¬ Counts arguments n) :
    positionOf arguments = .error (refusal arguments) := by
  match arguments with
  | [] | _ :: _ :: _ => rfl
  | [argument] =>
      unfold positionOf refusal
      dsimp only
      cases hword : argument.scalar?.bind wordOf with
      | none => rfl
      | some n =>
          dsimp only
          rw [if_neg]
          intro hpositive
          rcases Option.bind_eq_some_iff.1 hword with ⟨s, hscalar, hs⟩
          have hargument : argument = .scalar s := by
            cases argument with
            | scalar _ => exact congrArg Value.scalar (Option.some.inj hscalar)
            | _ => cases hscalar
          rcases (wordOf_eq_some_iff s hpositive).1 hs with ⟨hquantity, hlast⟩
          obtain ⟨m, rfl⟩ := Int.eq_ofNat_of_zero_le (show 0 ≤ n by omega)
          exact h m ⟨s, by rw [hargument], by exact_mod_cast hquantity, by omega, by omega⟩

end Context
end ForeignBridge
