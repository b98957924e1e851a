import ForeignBridge.Interpreter.Call

/-!
# Integers as machine words

An interpreter hands over an integer as a word of 64 bits, signed or unsigned, and has three ways to
refuse one that does not fit: a flag beside the word, an error, and minus one, which is also an integer.
The reader of integers takes all that fit one of the words.
-/

namespace ForeignBridge

/-- The functions of an interpreter that hand over integers, and its error indicator. -/
structure WordReader (σ : Type) where
  /-- A signed word and the direction in which the integer is beyond it, if it is; minus one for what
  is beyond, and for a failure. -/
  signed : Ref → StateM σ (Int × Int)
  /-- An unsigned word, or any word with an error. -/
  unsigned : Ref → StateM σ Int
  occurred : StateM σ Bool
  setError : Diagnostic → StateM σ Unit

namespace WordReader

variable {σ : Type} (reader : WordReader σ)

/-- The integer that an object is, if it fits a signed or an unsigned word.  Minus one is a failure if
an error is pending, and so is all that fits the unsigned word only. -/
def intValue (ref : Ref) : StateM σ (Option Int) := do
  let (value, beyond) ← reader.signed ref
  if beyond = 0 then
    if value = -1 then
      if ← reader.occurred then return none
    return some value
  if 0 < beyond then
    let value ← reader.unsigned ref
    if ← reader.occurred then return none
    return some value
  reader.setError ⟨"OverflowError", "int too small to convert"⟩
  return none

end WordReader

namespace Interpreter

def signedWord (ref : Ref) : StateM Interpreter (Int × Int) := settle (-1, 0) do
  let value ← integerOf ref
  if value < -0x8000000000000000 then return (-1, -1)
  else if 0x8000000000000000 ≤ value then return (-1, 1)
  else return (value, 0)

def unsignedWord (ref : Ref) : StateM Interpreter Int := settle 0xffffffffffffffff do
  let value ← integerOf ref
  if value < 0 then raise "OverflowError" "can't convert negative int to unsigned"
  else if 0x10000000000000000 ≤ value then raise "OverflowError" "int too big to convert"
  else return value

def words : WordReader Interpreter where
  signed := signedWord
  unsigned := unsignedWord
  occurred := do return (← get).pending.isSome
  setError error := modify fun s => { s with pending := some error }

end Interpreter
end ForeignBridge
