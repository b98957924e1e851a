import ForeignBridge.Host.Matrix

/-!
# Host values

The values of the host language.  A foreign object appears among them as a handle, which names the
object, the context through which it was obtained, and the class name to display.
-/

namespace ForeignBridge

/-- A host value that stands for a foreign object and owns one reference to it. -/
structure Handle where
  /-- The bridge through which the object was obtained. -/
  context : Nat
  ref : Ref
  className : String
  deriving DecidableEq, Repr

namespace Handle

/-- Handles are the same if they hold the same reference, whatever their contexts. -/
def sameObject (a b : Handle) : Bool := a.ref == b.ref

def text (h : Handle) : String := s!"<Foreign object: {h.className}>"

end Handle

inductive Value where
  | undefined
  | scalar (s : Scalar)
  | text (s : String)
  | cell (items : List Value)
  | matrix (m : Matrix)
  | foreign (h : Handle)

namespace Value

instance : Inhabited Value := ⟨undefined⟩

def isForeign : Value → Bool
  | foreign _ => true
  | _ => false

def handle? : Value → Option Handle
  | foreign h => some h
  | _ => none

def scalar? : Value → Option Scalar
  | scalar s => some s
  | _ => none

def text? : Value → Option String
  | text s => some s
  | _ => none

def typeName : Value → String
  | undefined => "undefined"
  | scalar s => s.kind.name
  | text _ => "string"
  | cell _ => "cell"
  | matrix _ => "matrix"
  | foreign _ => "foreign"

def display : Value → String
  | undefined => "[]"
  | scalar (.bool b) => if b then "1" else "0"
  | scalar s => s.text
  | text s => s
  | cell items => "\x7b1x" ++ toString items.length ++ " cell\x7d"
  | matrix m => m.text
  | foreign h => h.text

mutual

/-- Values are equal if they have one form and equal parts; handles compare by reference. -/
def eq : Value → Value → Bool
  | undefined, undefined => true
  | scalar s, scalar t => s.eq t
  | text s, text t => s == t
  | cell xs, cell ys => eqAll xs ys
  | matrix m, matrix n => m.eq n
  | foreign h, foreign k => h.sameObject k
  | _, _ => false

def eqAll : List Value → List Value → Bool
  | [], [] => true
  | x :: xs, y :: ys => x.eq y && eqAll xs ys
  | _, _ => false

end

mutual

def handles : Value → List Handle
  | cell items => handlesAll items
  | foreign h => [h]
  | _ => []

def handlesAll : List Value → List Handle
  | [] => []
  | x :: xs => x.handles ++ handlesAll xs

end

/-- The value wrapped in a number of one-element cells. -/
def nest (v : Value) : Nat → Value
  | 0 => v
  | n + 1 => cell [v.nest n]

end Value
end ForeignBridge
