import ForeignBridge.Number.Binary

/-!
# Shortest decimal text

A finite number is written with the fewest decimal digits that still read back as that number, in
positional notation without exponent.  The decimals that read back form an interval around the
number, whose ends lie half way to its neighbours.  Among the multiples of a power of ten, the
first power, from above, with a multiple in the interval gives the fewest digits; of two such
multiples the nearer one is taken, and the upper one of two equally near.
-/

namespace ForeignBridge

namespace BinaryFormat

/-- The decimals that read back as the number of one code, measured in ticks of
`10 ^ -(unitExponent + 1)`, in which the number and both ends are whole. -/
structure Readback where
  low : Nat
  centre : Nat
  high : Nat
  /-- The ends read back as the number too when its code is even. -/
  closed : Bool

def readback (F : BinaryFormat) (code : Nat) : Readback :=
  let tick := Nat.pow 5 (F.unitExponent + 1)
  let u := F.units code
  { low := (F.units (code - 1) + u) * tick
    centre := 2 * u * tick
    high := (u + F.units (code + 1)) * tick
    closed := code % 2 == 0 }

namespace Readback

def admits (r : Readback) (ticks : Nat) : Bool :=
  if r.closed then r.low ≤ ticks && ticks ≤ r.high else r.low < ticks && ticks < r.high

/-- The multiple of `10 ^ t` to write, divided by `10 ^ t`, if one reads back. -/
def candidate? (r : Readback) (t : Nat) : Option Nat :=
  let step := Nat.pow 10 t
  let below := r.centre / step
  let rest := r.centre % step
  match r.admits (below * step), r.admits ((below + 1) * step) with
  | true, true => some (if rest < step - rest then below else below + 1)
  | true, false => some below
  | false, true => some (below + 1)
  | false, false => none

/-- The first candidate among the powers of ten up to `10 ^ t`, and the power it is a multiple
of. -/
def shortestFrom (r : Readback) : Nat → Nat × Nat
  | 0 => (r.centre, 0)
  | t + 1 =>
    match r.candidate? (t + 1) with
    | some digits => (digits, t + 1)
    | none => shortestFrom r t

/-- The digits to write and the power of ten, in ticks, that they count.  The search starts above
the interval, since `10 ^ (n / 3 + 1)` exceeds a number of `n + 1` bits. -/
def shortest (r : Readback) : Nat × Nat := r.shortestFrom (r.high.log2 / 3 + 1)

end Readback

def shortestDecimal (F : BinaryFormat) (code : Nat) : Nat × Int :=
  let (digits, power) := (F.readback code).shortest
  (digits, (power : Int) - (F.unitExponent + 1 : Nat))

end BinaryFormat

/-- Positional notation of `digits * 10 ^ exponent`. -/
def positional (digits : Nat) (exponent : Int) : String :=
  let text := Nat.toDigits 10 digits
  match exponent with
  | .ofNat zeros => String.ofList (text ++ List.replicate zeros '0')
  | .negSucc places =>
    let places := places + 1
    if places < text.length then
      String.ofList (text.take (text.length - places) ++ '.' :: text.drop (text.length - places))
    else
      String.ofList ('0' :: '.' :: (List.replicate (places - text.length) '0' ++ text))

namespace Binary

variable {F : BinaryFormat}

def text : Binary F → String
  | nan => "NaN"
  | number negative code =>
    let sign := if negative then "-" else ""
    if code.val = F.infinity then sign ++ "inf"
    else if code.val = 0 then sign ++ "0"
    else
      let (digits, exponent) := F.shortestDecimal code.val
      sign ++ positional digits exponent

end Binary
end ForeignBridge
