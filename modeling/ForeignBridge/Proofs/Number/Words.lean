import ForeignBridge.Proofs.Number.Rounding

/-!
# Words of a kind

A kind of integer is a width and a signedness, and its numbers are those of the words of that width.
Their range can be computed by shifts in words of 128 bits, where neither end overflows; a wide word
between the ends loses nothing when it is cut to the width of the kind.  So a number of a kind is
made of a wide integer exactly if its range has it, and is that very integer then.
-/

namespace ForeignBridge
namespace NumericKind

/-- The range that a kind has by its width and signedness. -/
def Spans (kind : NumericKind) (value : Int) : Prop :=
  if kind.descriptor.signed then
    -2 ^ (kind.descriptor.bits - 1) ≤ value ∧ value < 2 ^ (kind.descriptor.bits - 1)
  else 0 ≤ value ∧ value < 2 ^ kind.descriptor.bits

/-- The least number of a kind, as a wide word. -/
def lowEnd (kind : NumericKind) : BitVec 128 :=
  if kind.descriptor.signed then -(1#128 <<< (kind.descriptor.bits - 1)) else 0#128

/-- The greatest number of a kind, as a wide word. -/
def highEnd (kind : NumericKind) : BitVec 128 :=
  if kind.descriptor.signed then (1#128 <<< (kind.descriptor.bits - 1)) - 1#128
  else (1#128 <<< kind.descriptor.bits) - 1#128

/-- The low bits of a wide word, as many as a kind has. -/
def cut (kind : NumericKind) (wide : BitVec 128) : BitVec kind.descriptor.bits :=
  wide.setWidth kind.descriptor.bits

/-- The wide word that stands for the same number as a word of a kind. -/
def widen (kind : NumericKind) (word : BitVec kind.descriptor.bits) : BitVec 128 :=
  if kind.descriptor.signed then word.signExtend 128 else word.setWidth 128

/-- The word of a kind for a wide word, if that lies between the ends of the range. -/
def narrow? (kind : NumericKind) (wide : BitVec 128) : Option (BitVec kind.descriptor.bits) :=
  if kind.lowEnd.sle wide && wide.sle kind.highEnd then some (kind.cut wide) else none

variable {kind : NumericKind} {value : Int} {wide : BitVec 128}

/-!
# Ranges
-/

theorem spans_iff : kind.Spans value ↔ kind.least ≤ value ∧ value ≤ kind.greatest := by
  unfold Spans least greatest
  split
  · exact and_congr_right fun _ => Int.le_sub_one_iff.symm
  · exact and_congr_right fun _ => Int.le_sub_one_iff.symm

theorem holds_iff_spans (hkind : kind.isInteger = true) : kind.Holds value ↔ kind.Spans value :=
  (and_iff_right hkind).trans spans_iff.symm

theorem isInteger_iff : kind.isInteger = true ↔
    kind ∈ [int8, uint8, int16, uint16, int32, uint32, int64, uint64] := by
  cases kind <;> decide

theorem isFloat_of_isInteger (hkind : kind.isInteger = true) : kind.isFloat = false := by
  cases kind with
  | single | double => cases hkind
  | _ => rfl

/-- No kind has more than 64 bits. -/
theorem bits_le (kind : NumericKind) : 0 < kind.descriptor.bits ∧ kind.descriptor.bits ≤ 64 := by
  cases kind <;> decide

theorem Spans.bounds (h : kind.Spans value) : -2 ^ 63 ≤ value ∧ value < 2 ^ 64 := by
  have hends : -2 ^ 63 ≤ kind.least ∧ kind.greatest < 2 ^ 64 := by
    cases kind <;> decide
  have hrange := spans_iff.1 h
  omega

/-- The shifts of wide words do not overflow. -/
theorem toInt_lowEnd (kind : NumericKind) : kind.lowEnd.toInt = kind.least := by
  cases kind <;> decide

theorem toInt_highEnd (kind : NumericKind) : kind.highEnd.toInt = kind.greatest := by
  cases kind <;> decide

theorem between_iff : (kind.lowEnd.sle wide && wide.sle kind.highEnd) = true ↔
    kind.Spans wide.toInt := by
  rw [Bool.and_eq_true, BitVec.sle_iff_toInt_le, BitVec.sle_iff_toInt_le, toInt_lowEnd,
    toInt_highEnd, spans_iff]

/-!
# Narrowing
-/

/-- A signed number keeps its value in as many bits as it needs. -/
theorem signExtend_setWidth {n : Nat} (hn : n + 1 ≤ 128) (hlow : -2 ^ n ≤ wide.toInt)
    (hhigh : wide.toInt < 2 ^ n) : (wide.setWidth (n + 1)).signExtend 128 = wide := by
  have hdvd : 2 ^ (n + 1) ∣ 2 ^ 128 := Nat.pow_dvd_pow 2 hn
  have hhalf : ((2 ^ (n + 1) : Nat) : Int) / 2 = 2 ^ n := by
    rw [Int.natCast_pow, pow_succ]
    exact Int.mul_ediv_cancel _ two_ne_zero
  have hhalf' : (((2 ^ (n + 1) : Nat) : Int) + 1) / 2 = 2 ^ n := by
    rw [Int.natCast_pow, pow_succ]
    push_cast
    omega
  apply BitVec.eq_of_toInt_eq
  calc ((wide.setWidth (n + 1)).signExtend 128).toInt
      = (wide.setWidth (n + 1)).toInt := BitVec.toInt_signExtend_of_le hn
    _ = (wide.toNat : Int).bmod (2 ^ (n + 1)) := BitVec.toInt_setWidth wide
    _ = wide.toInt.bmod (2 ^ (n + 1)) := by
        rw [BitVec.toInt_eq_toNat_bmod wide, Int.bmod_bmod_of_dvd hdvd]
    _ = wide.toInt := Int.bmod_eq_of_le (by rwa [hhalf]) (by rwa [hhalf'])

/-- A natural number keeps its value in as many bits as it needs. -/
theorem setWidth_setWidth {n : Nat} (hlow : 0 ≤ wide.toInt)
    (hhigh : wide.toInt < 2 ^ n) : (wide.setWidth n).setWidth 128 = wide := by
  have hnat : wide.toInt = wide.toNat := by
    have hcond := BitVec.toInt_eq_toNat_cond wide
    have hlt := wide.isLt
    split at hcond
    · exact hcond
    · omega
  have hcut : wide.toNat % 2 ^ n = wide.toNat := by
    rw [hnat] at hhigh
    exact Nat.mod_eq_of_lt (by exact_mod_cast hhigh)
  apply BitVec.eq_of_toNat_eq
  rw [BitVec.toNat_setWidth, BitVec.toNat_setWidth, hcut, Nat.mod_eq_of_lt wide.isLt]

/-- A wide word in the range of a kind is not changed by being cut to its width. -/
theorem widen_cut (h : kind.Spans wide.toInt) : kind.widen (kind.cut wide) = wide := by
  have hbits := kind.bits_le
  unfold Spans at h
  unfold widen cut
  split
  · next hsigned =>
      rw [if_pos hsigned] at h
      obtain ⟨n, hn⟩ := Nat.exists_eq_succ_of_ne_zero hbits.1.ne'
      rw [hn] at h ⊢
      exact signExtend_setWidth (by omega) h.1 h.2
  · next hunsigned =>
      rw [if_neg hunsigned] at h
      exact setWidth_setWidth h.1 h.2

end NumericKind
end ForeignBridge
