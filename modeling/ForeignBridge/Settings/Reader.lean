/-!
# Readers

A reader takes characters off the front of a text and answers what it read, or fails.  A reader
that fails has read nothing, so that another can be tried in its place.
-/

namespace ForeignBridge

/-- Reads a value off the front of a list of characters. -/
abbrev Reader (α : Type) := StateT (List Char) Option α

namespace Reader

variable {α : Type}

def next? : Reader (Option Char) := do return (← get).head?

def one (isMember : Char → Bool) : Reader Char := fun
  | c :: rest => if isMember c then some (c, rest) else none
  | [] => none

def run (isMember : Char → Bool) : Reader (List Char) := fun text =>
  some (text.takeWhile isMember, text.dropWhile isMember)

def word : List Char → Reader Unit
  | [] => return ()
  | c :: rest => do
    let _ ← one (· == c)
    word rest

/-- Whether the text begins with given characters, which are not taken. -/
def isNext (chars : List Char) : Reader Bool := do return chars.isPrefixOf (← get)

def maybe (reader : Reader α) : Reader (Option α) := fun text =>
  match reader text with
  | some (a, rest) => some (some a, rest)
  | none => some (none, text)

/-- The items that a reader reads one after another, and the rest of the text.  An item that takes
no character ends them. -/
def itemsOf (reader : Reader α) (text : List Char) : List α × List Char :=
  match reader text with
  | some (a, rest) =>
    if _h : rest.length < text.length then
      let (items, rest) := itemsOf reader rest
      (a :: items, rest)
    else ([], text)
  | none => ([], text)
termination_by text.length

def many (reader : Reader α) : Reader (List α) := fun text => some (itemsOf reader text)

def separated (separator : Reader Unit) (reader : Reader α) : Reader (List α) := do
  let first ← reader
  let rest ← many do
    separator
    reader
  return first :: rest

def exactly (isMember : Char → Bool) : Nat → Reader (List Char)
  | 0 => return []
  | n + 1 => do
    let c ← one isMember
    return c :: (← exactly isMember n)

def readAll (reader : Reader α) (text : String) : Option α :=
  match reader text.toList with
  | some (a, []) => some a
  | _ => none

end Reader
end ForeignBridge
