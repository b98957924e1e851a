import ForeignBridge.Interpreter.State
import ForeignBridge.Number.Shortest
import ForeignBridge.Text.Unprintable

/-!
# Written objects

The form in which an error shows an object: texts in quotes, numbers with the fewest digits that
read back, containers with their items.  Objects that are nested too deeply, also because they
contain themselves, are cut short.
-/

namespace ForeignBridge
namespace Interpreter

/-! ## Texts and bytes -/

/-- The quotes around a text: double ones only if single ones would have to be escaped. -/
def quoteFor (codes : CodePoints) : Char :=
  if codes.contains '\''.toNat && !codes.contains '"'.toNat then '"' else '\''

def writtenCode (quote : Char) (isPlain : Nat → Bool) (code : Nat) : String :=
  if code = quote.toNat ∨ code = '\\'.toNat then String.ofList ['\\', Char.ofNat code]
  else if code = '\n'.toNat then "\\n"
  else if code = '\r'.toNat then "\\r"
  else if code = '\t'.toNat then "\\t"
  else if isPlain code then String.singleton (Char.ofNat code)
  else CodePoints.escape code

def writtenCodes (isPlain : Nat → Bool) (codes : CodePoints) : String :=
  let quote := quoteFor codes
  String.singleton quote ++ String.join (codes.map (writtenCode quote isPlain))
    ++ String.singleton quote

def writtenText (codes : CodePoints) : String := writtenCodes (!Unprintable.contains ·) codes

def writtenBytes (octets : List UInt8) : String :=
  "b" ++ writtenCodes (fun code => 0x20 ≤ code && code < 0x7f) (octets.map UInt8.toNat)

/-! ## Numbers -/

/-- Scientific notation, with an exponent of two digits at least. -/
def scientific (digits : List Char) (exponent : Int) : String :=
  let magnitude := Nat.toDigits 10 exponent.natAbs
  let fraction := if digits.length ≤ 1 then [] else '.' :: digits.drop 1
  String.ofList (digits.take 1 ++ fraction ++ ['e', if exponent < 0 then '-' else '+']
    ++ List.replicate (2 - magnitude.length) '0' ++ magnitude)

/-- A float has a fraction also if it is whole, and an exponent if its first digit stands before
the fourth place after the point or its point after the sixteenth digit. -/
def writtenFloat : Double → String
  | .nan => "nan"
  | .number negative code =>
    let sign := if negative then "-" else ""
    if code.val = BinaryFormat.infinity .binary64 then sign ++ "inf"
    else if code.val = 0 then sign ++ "0.0"
    else
      let (digits, exponent) := BinaryFormat.shortestDecimal .binary64 code.val
      let text := Nat.toDigits 10 digits
      let point := text.length + exponent
      if point ≤ -4 ∨ 16 < point then sign ++ scientific text (point - 1)
      else sign ++ positional digits exponent ++ (if 0 ≤ exponent then ".0" else "")

/-! ## Objects -/

def writtenWith (write : Ref → String) (typeName : String) : Content → String
  | .null => "None"
  | .bool b => if b then "True" else "False"
  | .int value => toString value
  | .float x => writtenFloat x
  | .text codes => writtenText codes
  | .bytes octets => writtenBytes octets
  | .tuple [item] => "(" ++ write item ++ ",)"
  | .tuple items => "(" ++ ", ".intercalate (items.map write) ++ ")"
  | .list items => "[" ++ ", ".intercalate (items.map write) ++ "]"
  | .dict entries =>
    let written := entries.map fun (key, value) => write key ++ ": " ++ write value
    "\x7b" ++ ", ".intercalate written ++ "\x7d"
  | .moduleOf name origin _ => "<module " ++ writtenText (.ofString name) ++ " " ++ origin ++ ">"
  | .builtinType which => "<class '" ++ which.name ++ "'>"
  | .classOf info => "<class '" ++ info.module ++ "." ++ info.name ++ "'>"
  | .function code _ _ _ => "<function " ++ code.qualifiedName ++ ">"
  | .primitive p _ => "<built-in function " ++ p.name ++ ">"
  | .exception _ arguments =>
    match arguments with
    | [argument] => typeName ++ "(" ++ write argument ++ ")"
    | _ => typeName ++ "(" ++ ", ".intercalate (arguments.map write) ++ ")"
  | .method _ _ | .plain => "<" ++ typeName ++ " object>"

def writtenWithin (heap : Heap Object) : Nat → Ref → String
  | 0, _ => "..."
  | depth + 1, ref =>
    let object := (heap.get? ref).getD default
    let typeName := ((classInfo? heap object).map Class.name).getD object.content.builtin.name
    writtenWith (writtenWithin heap depth) typeName object.content

def written (ref : Ref) : StateM Interpreter String := do return writtenWithin (← get).heap 100 ref

/-- The text that an object stands for. -/
def displayed (ref : Ref) : StateM Interpreter CodePoints := do
  match ← content ref with
  | .text codes => return codes
  | _ => return .ofString (← written ref)

/-- What an exception object says: its only argument or all of them.  A missing key is written. -/
def saying (which : Builtin) (arguments : List Ref) : StateM Interpreter String := do
  match arguments with
  | [] => return ""
  | [argument] =>
    if which = .keyError then written argument
    else return (← displayed argument).toStringLossy
  | _ => return "(" ++ ", ".intercalate (← arguments.mapM written) ++ ")"

end Interpreter
end ForeignBridge
