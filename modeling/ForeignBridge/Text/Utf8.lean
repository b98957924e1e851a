/-!
# Strict UTF-8

Decoding of bytes, which accepts the shortest form of every Unicode scalar value and nothing else,
and says of any other input where its first malformed sequence begins and how long it is.
-/

namespace ForeignBridge
namespace Utf8

/-- The first malformed sequence of an input. -/
structure Malformed where
  /-- The number of bytes before it, all well formed. -/
  index : Nat
  /-- Its length, or nothing when the input ends inside a sequence. -/
  length : Option Nat
  deriving DecidableEq, Repr

namespace Malformed

def text (fault : Malformed) : String :=
  match fault.length with
  | some n => s!"invalid utf-8 sequence of {n} bytes from index {fault.index}"
  | none => s!"incomplete utf-8 byte sequence from index {fault.index}"

end Malformed

def encode (text : String) : List UInt8 := text.toList.flatMap String.utf8EncodeChar

/-- The number of bytes that a lead byte announces, none for a byte that begins no sequence.  The
bytes `0xc0` and `0xc1` would begin overlong forms, and those from `0xf5` on numbers beyond
Unicode. -/
def width? (lead : UInt8) : Option Nat :=
  if lead < 0x80 then some 1
  else if lead < 0xc2 then none
  else if lead < 0xe0 then some 2
  else if lead < 0xf0 then some 3
  else if lead < 0xf5 then some 4
  else none

/-- Whether a byte may follow a lead byte.  The bounds are narrower after four lead bytes, to leave
out overlong forms, surrogates and numbers beyond Unicode. -/
def follows (lead next : UInt8) : Bool :=
  let low : UInt8 := if lead = 0xe0 then 0xa0 else if lead = 0xf0 then 0x90 else 0x80
  let high : UInt8 := if lead = 0xed then 0x9f else if lead = 0xf4 then 0x8f else 0xbf
  low ≤ next && next ≤ high

def continues (byte : UInt8) : Bool := 0x80 ≤ byte && byte ≤ 0xbf

/-- The six bits that a continuation byte carries. -/
def payload (byte : UInt8) : Nat := byte.toNat % 64

/-- The characters of a list of bytes, of which the first stands at a given index. -/
def decodeFrom (index : Nat) : List UInt8 → Except Malformed (List Char)
  | [] => .ok []
  | a :: rest =>
    match width? a with
    | some 1 => return Char.ofNat a.toNat :: (← decodeFrom (index + 1) rest)
    | some 2 =>
      match rest with
      | [] => .error ⟨index, none⟩
      | b :: rest =>
        if follows a b then
          return Char.ofNat (a.toNat % 32 * 64 + payload b) :: (← decodeFrom (index + 2) rest)
        else .error ⟨index, some 1⟩
    | some 3 =>
      match rest with
      | [] => .error ⟨index, none⟩
      | b :: rest =>
        if follows a b then
          match rest with
          | [] => .error ⟨index, none⟩
          | c :: rest =>
            if continues c then
              return Char.ofNat ((a.toNat % 16 * 64 + payload b) * 64 + payload c)
                :: (← decodeFrom (index + 3) rest)
            else .error ⟨index, some 2⟩
        else .error ⟨index, some 1⟩
    | some _ =>
      match rest with
      | [] => .error ⟨index, none⟩
      | b :: rest =>
        if follows a b then
          match rest with
          | [] => .error ⟨index, none⟩
          | c :: rest =>
            if continues c then
              match rest with
              | [] => .error ⟨index, none⟩
              | d :: rest =>
                if continues d then
                  return Char.ofNat
                      (((a.toNat % 8 * 64 + payload b) * 64 + payload c) * 64 + payload d)
                    :: (← decodeFrom (index + 4) rest)
                else .error ⟨index, some 3⟩
            else .error ⟨index, some 2⟩
        else .error ⟨index, some 1⟩
    | none => .error ⟨index, some 1⟩

def decode (bytes : List UInt8) : Except Malformed String :=
  (decodeFrom 0 bytes).map String.ofList

end Utf8
end ForeignBridge
