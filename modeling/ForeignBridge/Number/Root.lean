import ForeignBridge.Number.Binary

/-!
# Square roots

The root of a number of units is found exactly as far as its whole part, with one more bit that says
whether something is left.  That is enough to round it correctly, since the whole part has far more
bits than a fraction.
-/

namespace ForeignBridge

/-- The greatest number below `root + 2 ^ bits` whose square is at most `n`, if `root` is one. -/
def rootFrom (n root : Nat) : Nat → Nat
  | 0 => root
  | bits + 1 =>
    let next := root + Nat.pow 2 bits
    rootFrom n (if next * next ≤ n then next else root) bits

def wholeRoot (n : Nat) : Nat := rootFrom n 0 (n.log2 / 2 + 1)

namespace Binary

variable {F : BinaryFormat}

/-- The number nearest to the square root, if there is one.  Both zeros are their own roots. -/
def sqrt? : Binary F → Option (Binary F)
  | nan => some nan
  | number negative code =>
    if code.val = 0 then some (number negative code)
    else if negative then none
    else if code.val = F.infinity then some (infinite false)
    else
      let square := F.units code.val * Nat.pow 2 F.unitExponent
      let root := wholeRoot square
      some (round false (2 * root + if root * root = square then 0 else 1) 1)

end Binary
end ForeignBridge
