/-!
# Binary floating point

The binary interchange formats, exactly.  A format fixes the width of the fraction and of the
exponent.  Its non-negative numbers are numbered in increasing order by *codes*: zero has code 0,
the least positive number code 1, and infinity the greatest code.  Every finite number is a whole
multiple of the least positive one, its *unit*, so all arithmetic here is arithmetic on natural
numbers, followed by one rounding to the nearest code, a tie going to the even one.
-/

namespace ForeignBridge

/-- A binary interchange format, given by the widths of its fraction and exponent fields. -/
structure BinaryFormat where
  fractionBits : Nat
  exponentBits : Nat
  deriving DecidableEq, Repr

namespace BinaryFormat

def binary32 : BinaryFormat := ⟨23, 8⟩

def binary64 : BinaryFormat := ⟨52, 11⟩

/-- The code of infinity: all exponent bits set and no fraction. -/
def infinity (F : BinaryFormat) : Nat :=
  (Nat.pow 2 F.exponentBits - 1) * Nat.pow 2 F.fractionBits

/-- The unit of a format is `2` to the power of minus this number. -/
def unitExponent (F : BinaryFormat) : Nat :=
  F.fractionBits + (Nat.pow 2 (F.exponentBits - 1) - 1) - 1

/-- The number of units in the number of a given code. -/
def units (F : BinaryFormat) (code : Nat) : Nat :=
  if code < Nat.pow 2 F.fractionBits then code
  else
    (Nat.pow 2 F.fractionBits + code % Nat.pow 2 F.fractionBits) *
      Nat.pow 2 (code / Nat.pow 2 F.fractionBits - 1)

/-- The quotient of `n` by `2 ^ k`, rounded to the nearest integer, a tie going to the even one. -/
def roundQuotient (n k : Nat) : Nat :=
  let quotient := n / Nat.pow 2 k
  let rest := 2 * (n % Nat.pow 2 k)
  if rest < Nat.pow 2 k ∨ (rest = Nat.pow 2 k ∧ quotient % 2 = 0) then quotient else quotient + 1

/-- The code nearest to `n / 2 ^ scale` units, as if the exponents had no upper limit.

The number keeps the leading bits that fit the fraction, but never a fraction of a unit. -/
def nearestCode (F : BinaryFormat) (n scale : Nat) : Nat :=
  let drop := max scale (n.log2 + 1 - (F.fractionBits + 1))
  (drop - scale) * Nat.pow 2 F.fractionBits + roundQuotient n drop

end BinaryFormat

/-- A datum of a binary format.  All payloads of not-a-number are one. -/
inductive Binary (F : BinaryFormat) where
  | nan
  | number (negative : Bool) (code : Fin (F.infinity + 1))
  deriving DecidableEq, Repr

abbrev Single := Binary .binary32

abbrev Double := Binary .binary64

namespace Binary

variable {F : BinaryFormat}

/-- The number of a given sign and code; codes above infinity are infinity. -/
def ofCode (negative : Bool) (code : Nat) : Binary F :=
  number negative ⟨min code F.infinity, by omega⟩

def zero : Binary F := ofCode false 0

def infinite (negative : Bool) : Binary F := ofCode negative F.infinity

def round (negative : Bool) (n scale : Nat) : Binary F :=
  ofCode negative (F.nearestCode n scale)

def ofInt (value : Int) : Binary F :=
  round (value < 0) (value.natAbs * Nat.pow 2 F.unitExponent) 0

def isNan : Binary F → Bool
  | nan => true
  | number _ _ => false

def isFinite : Binary F → Bool
  | nan => false
  | number _ code => code.val < F.infinity

/-- The number in units, where infinity stands one step above the greatest finite number. -/
def units? : Binary F → Option Int
  | nan => none
  | number negative code =>
    let magnitude : Int := F.units code.val
    some (if negative then -magnitude else magnitude)

/-! ## Conversion -/

def convert (G : BinaryFormat) : Binary F → Binary G
  | nan => nan
  | number negative code =>
    if code.val = F.infinity then infinite negative
    else
      round negative (F.units code.val * Nat.pow 2 (G.unitExponent - F.unitExponent))
        (F.unitExponent - G.unitExponent)

/-- The integer of which a number consists, if it is finite and has no fraction. -/
def integer? : Binary F → Option Int
  | nan => none
  | number negative code =>
    if code.val = F.infinity then none
    else
      let magnitude := F.units code.val
      if magnitude % Nat.pow 2 F.unitExponent = 0 then
        let whole : Int := (magnitude / Nat.pow 2 F.unitExponent : Nat)
        some (if negative then -whole else whole)
      else none

/-- The bit pattern; not-a-number is written quiet and without payload. -/
def toBits : Binary F → Nat
  | nan => F.infinity + Nat.pow 2 (F.fractionBits - 1)
  | number negative code =>
    (if negative then Nat.pow 2 (F.exponentBits + F.fractionBits) else 0) + code.val

def ofBits (bits : Nat) : Binary F :=
  let code := bits % Nat.pow 2 (F.exponentBits + F.fractionBits)
  if code ≤ F.infinity then ofCode (bits / Nat.pow 2 (F.exponentBits + F.fractionBits) % 2 == 1) code
  else nan

/-! ## Comparison and arithmetic -/

/-- Numbers compare by value, so both zeros are equal and not-a-number equals nothing. -/
def eq (x y : Binary F) : Bool :=
  match x.units?, y.units? with
  | some a, some b => a == b
  | _, _ => false

def lt (x y : Binary F) : Bool :=
  match x.units?, y.units? with
  | some a, some b => decide (a < b)
  | _, _ => false

def isZero (x : Binary F) : Bool := x.units? == some 0

def neg : Binary F → Binary F
  | nan => nan
  | number negative code => number (!negative) code

def mul : Binary F → Binary F → Binary F
  | number s a, number t b =>
    let negative := s != t
    if a.val = F.infinity ∨ b.val = F.infinity then
      if a.val = 0 ∨ b.val = 0 then nan else infinite negative
    else round negative (F.units a.val * F.units b.val) F.unitExponent
  | _, _ => nan

def add : Binary F → Binary F → Binary F
  | number s a, number t b =>
    if a.val = F.infinity then
      if b.val = F.infinity ∧ s ≠ t then nan else infinite s
    else if b.val = F.infinity then infinite t
    else
      let x : Int := F.units a.val
      let y : Int := F.units b.val
      let sum := (if s then -x else x) + (if t then -y else y)
      if sum = 0 then ofCode (s && t) 0 else round (sum < 0) sum.natAbs 0
  | _, _ => nan

end Binary
end ForeignBridge
