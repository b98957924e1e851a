import ForeignBridge.Settings.Document
import ForeignBridge.Settings.Literal

/-!
# The form of a settings document

Keys, values and lines of TOML 1.0, and how lines make sections.  Arrays and inline tables may be
nested in each other, and keys be dotted, only up to a limit.
-/

namespace ForeignBridge
namespace Document

open Reader

/-! ## Keys -/

def isBareKeyChar (c : Char) : Bool := c.isAlphanum || c == '-' || c == '_'

def keyPart : Reader String := do
  match ← next? with
  | some '"' => basicText
  | some '\'' => literalText
  | _ =>
    let first ← one isBareKeyChar
    return String.ofList (first :: (← run isBareKeyChar))

def maxDepth : Nat := 79

/-- A dotted key: its path and its last part. -/
def dottedKey : Reader (List String × String) := do
  let parts ← separated (word ['.']) do
    blanks
    let part ← keyPart
    blanks
    return part
  match parts.getLast? with
  | some last => if parts.length ≤ maxDepth then return (parts.dropLast, last) else failure
  | none => failure

/-! ## Values -/

def assignment (value : Reader Node) : Reader Assignment := do
  let (path, key) ← dottedKey
  word ['=']
  blanks
  let value ← value
  blanks
  return ⟨path, key, value⟩

/-- The items of an array, each of which may stand on a line of its own, also with a comma after
the last. -/
def arrayItems (value : Reader Node) : Reader (List Node) := do
  word ['[']
  let items ← maybe (separated (word [',']) do
    gaps
    let item ← value
    gaps
    return item)
  if items.isSome then discard (maybe (word [',']))
  gaps
  word [']']
  return items.getD []

def inlineTable (value : Reader Node) : Reader Entries := do
  word ['\x7b']
  let assignments ← maybe (separated (word [',']) (assignment value))
  blanks
  word ['\x7d']
  Entries.assignAll [] (assignments.getD [])

def numberOrMoment : Reader Node := do
  if (← maybe moment).isSome then return .moment
  else if (← maybe fractional).isSome then return .number
  else if (← maybe exceptional).isSome then return .number
  else
    integerLiteral
    return .number

def plainValue : Reader Node := do
  match ← next? with
  | some '"' | some '\'' => return .text (← textLiteral)
  | some 't' =>
    word ['t', 'r', 'u', 'e']
    return .flag true
  | some 'f' =>
    word ['f', 'a', 'l', 's', 'e']
    return .flag false
  | _ => numberOrMoment

/-- A value in which containers are nested up to a depth. -/
def value : Nat → Reader Node
  | 0 => plainValue
  | depth + 1 => do
    match ← next? with
    | some '[' => return .array (← arrayItems (value depth))
    | some '\x7b' => return .table .inline (← inlineTable (value depth))
    | _ => plainValue

/-! ## Lines -/

/-- The end of a line, which may be the end of the document. -/
def lineRest : Reader Unit := do
  blanks
  let _ ← maybe comment
  if (← next?).isSome then lineEnd

def header : Reader Header := do
  if ← isNext ['[', '['] then
    word ['[', '[']
    let (path, key) ← dottedKey
    word [']', ']']
    lineRest
    return .element path key
  else
    word ['[']
    let (path, key) ← dottedKey
    word [']']
    lineRest
    return .table path key

def fullLine : Reader Assignment := do
  let a ← assignment (value maxDepth)
  lineRest
  return a

def assignments : Reader (List Assignment) := do
  gaps
  many do
    let a ← fullLine
    gaps
    return a

/-- A whole document, which may begin with a byte order mark and end in a comment. -/
def sections : Reader (List Section) := do
  discard (maybe (word ['\ufeff']))
  let first ← assignments
  let rest ← many do
    let header ← header
    return ⟨some header, ← assignments⟩
  discard (maybe comment)
  return ⟨none, first⟩ :: rest

def ofText? (text : String) : Option Entries := do
  Entries.ofSections (← readAll sections text)

end Document
end ForeignBridge
