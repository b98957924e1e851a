/-!
# UTF-16

Decoding of sixteen-bit units, which need not be well formed: a high surrogate has to be followed
by a low one, and a low surrogate to follow a high one.
-/

namespace ForeignBridge
namespace Utf16

def isHigh (unit : UInt16) : Bool := 0xd800 ≤ unit && unit < 0xdc00

def isLow (unit : UInt16) : Bool := 0xdc00 ≤ unit && unit < 0xe000

def pairValue (high low : UInt16) : Nat :=
  0x10000 + (high.toNat - 0xd800) * 0x400 + (low.toNat - 0xdc00)

/-- The characters of a list of units, if every surrogate in it is paired. -/
def decodeChars : List UInt16 → Option (List Char)
  | [] => some []
  | u :: rest =>
    if isHigh u then
      match rest with
      | [] => none
      | v :: rest =>
        if isLow v then return Char.ofNat (pairValue u v) :: (← decodeChars rest) else none
    else if isLow u then none
    else return Char.ofNat u.toNat :: (← decodeChars rest)

def decode? (units : List UInt16) : Option String := (decodeChars units).map String.ofList

end Utf16
end ForeignBridge
