import ForeignBridge.Settings.Reader

/-!
# Plain values of a settings document

Strings in four notations, numbers, and moments in time.
-/

namespace ForeignBridge

namespace Document

open Reader

/-! ## Blanks and line ends -/

def isBlank (c : Char) : Bool := c == ' ' || c == '\t'

/-- Whether a character may stand in a line: all but controls, of which only the tab may. -/
def isLineChar (c : Char) : Bool := c == '\t' || (' ' ≤ c && c != '\x7f')

def blanks : Reader Unit := discard (run isBlank)

def lineEnd : Reader Unit := do
  let _ ← maybe (word ['\r'])
  word ['\n']

def comment : Reader Unit := do
  word ['#']
  discard (run isLineChar)

def gaps : Reader Unit := do
  blanks
  let _ ← many do
    let _ ← maybe comment
    lineEnd
    blanks

/-! ## Digits -/

def digitValue (c : Char) : Nat :=
  if c.isDigit then c.toNat - '0'.toNat else c.toLower.toNat - 'a'.toNat + 10

def isDigitOf (base : Nat) (c : Char) : Bool :=
  (c.isDigit || ('a' ≤ c.toLower && c.toLower ≤ 'f')) && digitValue c < base

def valueOf (base : Nat) (digits : List Char) : Nat :=
  digits.foldl (fun n c => n * base + digitValue c) 0

/-! ## Strings -/

/-- The character of a code that is written with a given number of digits. -/
def codePoint (digits : Nat) : Reader Char := do
  let code := valueOf 16 (← exactly (isDigitOf 16) digits)
  if code.isValidChar then return Char.ofNat code else failure

def escaped : Reader Char := do
  match ← one fun _ => true with
  | 'b' => return '\x08'
  | 't' => return '\t'
  | 'n' => return '\n'
  | 'f' => return '\x0c'
  | 'r' => return '\r'
  | '"' => return '"'
  | '\\' => return '\\'
  | 'u' => codePoint 4
  | 'U' => codePoint 8
  | _ => failure

def basicChar : Reader Char := do
  let c ← one fun c => isLineChar c && c != '"'
  if c = '\\' then escaped else return c

def literalChar : Reader Char := one fun c => isLineChar c && c != '\''

def basicText : Reader String := do
  word ['"']
  let chars ← many basicChar
  word ['"']
  return String.ofList chars

def literalText : Reader String := do
  word ['\'']
  let chars ← many literalChar
  word ['\'']
  return String.ofList chars

/-- A backslash at the end of a line, with all blanks and line ends that follow it. -/
def continuedLine : Reader (List Char) := do
  word ['\\']
  blanks
  lineEnd
  discard (many do
    let _ ← maybe lineEnd
    blanks)
  return []

/-- Text between three quotes on each side.  A line end right after the opening quotes is left out,
and one or two quotes may stand anywhere, also before the closing ones. -/
def multiline (quote : Char) (piece : Reader (List Char)) : Reader String := do
  word [quote, quote, quote]
  let _ ← maybe lineEnd
  let pieces ← many do
    let quotes ← run (· == quote)
    if quotes.length < 3 then
      let following ← match ← maybe lineEnd with
        | some () => pure ['\n']
        | none => piece
      return quotes ++ following
    else failure
  let quotes ← run (· == quote)
  if 3 ≤ quotes.length && quotes.length ≤ 5 then
    return String.ofList (pieces.flatten ++ quotes.drop 3)
  else failure

def multilineBasic : Reader String := multiline '"' do
  match ← maybe continuedLine with
  | some chars => return chars
  | none => return [← basicChar]

def multilineLiteral : Reader String := multiline '\'' do return [← literalChar]

def textLiteral : Reader String := do
  if ← isNext ['"', '"', '"'] then multilineBasic
  else if ← isNext ['\'', '\'', '\''] then multilineLiteral
  else if ← isNext ['"'] then basicText
  else literalText

/-! ## Numbers -/

/-- One or more digits; single underscores may stand between them. -/
def digits (base : Nat) : Reader (List Char) := do
  let first ← one (isDigitOf base)
  let rest ← many do
    let _ ← maybe (word ['_'])
    one (isDigitOf base)
  return first :: rest

def sign : Reader Bool := do
  match ← maybe (one fun c => c == '+' || c == '-') with
  | some '-' => return true
  | _ => return false

/-- A sign and digits, of which the first is zero only if it is the only one.  The answer says
whether the sign is minus. -/
def decimal : Reader (Bool × List Char) := do
  let negative ← sign
  if ← isNext ['0'] then
    word ['0']
    return (negative, ['0'])
  else return (negative, ← digits 10)

/-- Integers are words of 64 bits. -/
def fits (negative : Bool) (magnitude : Nat) : Bool :=
  if negative then magnitude ≤ 0x8000000000000000 else magnitude < 0x8000000000000000

def integerLiteral : Reader Unit := do
  let based (mark : Char) (base : Nat) : Reader Bool := do
    word ['0', mark]
    return fits false (valueOf base (← digits base))
  let fitting ←
    if ← isNext ['0', 'x'] then based 'x' 16
    else if ← isNext ['0', 'o'] then based 'o' 8
    else if ← isNext ['0', 'b'] then based 'b' 2
    else do
      let (negative, digits) ← decimal
      pure (fits negative (valueOf 10 digits))
  if fitting then return () else failure

/-- Whether a positive decimal number is rounded to infinity, the greatest finite double being
`2 ^ 1024 - 2 ^ 971`. -/
def overflows (digits : List Char) (exponent : Int) : Bool :=
  let mantissa := valueOf 10 digits
  let order := (Nat.toDigits 10 mantissa).length + exponent
  if mantissa = 0 ∨ order < 300 then false
  else if 400 < order then true
  else
    (Nat.pow 2 1024 - Nat.pow 2 970) * Nat.pow 10 (-exponent).toNat ≤
      mantissa * Nat.pow 10 exponent.toNat

def exponent : Reader Int := do
  let _ ← one fun c => c == 'e' || c == 'E'
  let negative ← sign
  let magnitude := valueOf 10 (← digits 10)
  return if negative then -magnitude else magnitude

/-- A number with a fraction, an exponent or both.  Only a positive one must not be rounded to
infinity. -/
def fractional : Reader Unit := do
  let (negative, whole) ← decimal
  let fraction ← maybe do
    word ['.']
    digits 10
  let power ← maybe exponent
  if fraction.isNone && power.isNone then failure
  else
    let places := (fraction.getD []).length
    if !negative && overflows (whole ++ fraction.getD []) (power.getD 0 - places) then failure
    else return ()

def exceptional : Reader Unit := do
  let _ ← sign
  if ← isNext ['i'] then word ['i', 'n', 'f'] else word ['n', 'a', 'n']

/-! ## Moments -/

def twoDigits (low high : Nat) : Reader Nat := do
  let value := valueOf 10 (← exactly (isDigitOf 10) 2)
  if low ≤ value && value ≤ high then return value else failure

def daysIn (year month : Nat) : Nat :=
  if month = 2 then
    if year % 4 = 0 ∧ (year % 100 ≠ 0 ∨ year % 400 = 0) then 29 else 28
  else if month = 4 ∨ month = 6 ∨ month = 9 ∨ month = 11 then 30
  else 31

def date : Reader Unit := do
  let year := valueOf 10 (← exactly (isDigitOf 10) 4)
  word ['-']
  let month ← twoDigits 1 12
  word ['-']
  discard (twoDigits 1 (daysIn year month))

/-- The time of a day, in which a leap second may stand. -/
def time : Reader Unit := do
  discard (twoDigits 0 23)
  word [':']
  discard (twoDigits 0 59)
  word [':']
  discard (twoDigits 0 60)
  discard (maybe do
    word ['.']
    let _ ← one (isDigitOf 10)
    run (isDigitOf 10))

def offset : Reader Unit := do
  match ← one fun c => c == 'Z' || c == 'z' || c == '+' || c == '-' with
  | 'Z' | 'z' => return ()
  | _ =>
    discard (twoDigits 0 23)
    word [':']
    discard (twoDigits 0 59)

/-- A date, a time, or both, which then may have an offset. -/
def moment : Reader Unit := do
  match ← maybe date with
  | some () =>
    discard (maybe do
      let _ ← one fun c => c == 'T' || c == 't' || c == ' '
      time
      maybe offset)
  | none => time

end Document
end ForeignBridge
