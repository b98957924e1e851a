import ForeignBridge.Text.Utf8

/-!
# Texts of code points

Texts whose characters are code points of any kind, so that surrogates may stand in them.  Only a
text without surrogates has a UTF-8 form.
-/

namespace ForeignBridge

abbrev CodePoints := List Nat

namespace CodePoints

def ofString (text : String) : CodePoints := text.toList.map Char.toNat

def isSurrogate (code : Nat) : Bool := 0xd800 ≤ code && code ≤ 0xdfff

/-- The string of a text without surrogates. -/
def toString? (codes : CodePoints) : Option String :=
  if codes.any isSurrogate then none else some (String.ofList (codes.map Char.ofNat))

def hexadecimal (length n : Nat) : String :=
  let digits := Nat.toDigits 16 n
  String.ofList (List.replicate (length - digits.length) '0' ++ digits)

def escape (code : Nat) : String :=
  if code < 0x100 then "\\x" ++ hexadecimal 2 code
  else if code < 0x10000 then "\\u" ++ hexadecimal 4 code
  else "\\U" ++ hexadecimal 8 code

/-- What is said of a text with surrogates: where the first ones stand that follow each other. -/
def encodeFault (codes : CodePoints) : String :=
  let index := (codes.takeWhile (!isSurrogate ·)).length
  let run := (codes.drop index).takeWhile isSurrogate
  let place := match run with
    | [code] => s!"character '{escape code}' in position {index}"
    | _ => s!"characters in position {index}-{index + run.length - 1}"
  s!"'utf-8' codec can't encode {place}: surrogates not allowed"

def encode (codes : CodePoints) : Except String (List UInt8) :=
  match toString? codes with
  | some text => .ok (Utf8.encode text)
  | none => .error (encodeFault codes)

/-- The string of a text, in which every surrogate is replaced by three replacement characters, one
for each byte that it would have taken. -/
def toStringLossy (codes : CodePoints) : String :=
  String.ofList (codes.flatMap fun code =>
    if isSurrogate code then List.replicate 3 '\ufffd' else [Char.ofNat code])

end CodePoints
end ForeignBridge
