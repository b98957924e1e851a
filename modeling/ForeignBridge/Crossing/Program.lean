import ForeignBridge.Crossing.Event
import ForeignBridge.Crossing.Request
import ForeignBridge.Foreign.Panic

/-!
# Programs over a foreign runtime

What the bridge does between two moments of the host is a finite tree of requests and log events:
after each request the program goes on with whatever the runtime answers.  A statement about every
runtime, however it behaves, is therefore a statement about all branches of such a tree.  A branch
can also be broken off, which counts as a panic and yields no result.
-/

namespace ForeignBridge

/-- A program that asks requests, notes events and ends with a result. -/
inductive Program (α : Type) where
  | done (result : α)
  | abort (panic : Panic)
  | ask (request : Request) (next : request.Answer → Program α)
  | note (event : Event) (next : Program α)

namespace Program

variable {α β : Type}

protected def bind : Program α → (α → Program β) → Program β
  | done result, f => f result
  | abort panic, _ => abort panic
  | ask request next, f => ask request fun answer => (next answer).bind f
  | note event next, f => note event (next.bind f)

instance : Monad Program where
  pure := done
  bind := Program.bind

theorem bind_done (p : Program α) : p.bind done = p := by
  induction p with
  | done result => rfl
  | abort panic => rfl
  | ask request next ih => exact congrArg (ask request) (funext ih)
  | note event next ih => exact congrArg (note event) ih

theorem bind_assoc {γ : Type} (p : Program α) (f : α → Program β) (g : β → Program γ) :
    (p.bind f).bind g = p.bind fun a => (f a).bind g := by
  induction p with
  | done result => rfl
  | abort panic => rfl
  | ask request next ih => exact congrArg (ask request) (funext ih)
  | note event next ih => exact congrArg (note event) ih

instance : LawfulMonad Program :=
  LawfulMonad.mk' Program (fun p => bind_done p) (fun _ _ => rfl) (fun p f g => bind_assoc p f g)

def request (r : Request) : Program r.Answer := ask r done

def releaseAll : List Ref → Program Unit
  | [] => done ()
  | ref :: rest => ask (.release ref) fun _ => releaseAll rest

end Program

/-- A program that ends with a result or with an error for the host. -/
abbrev Crossing := ExceptT BridgeError Program

namespace Crossing

variable {α β : Type}

def ask (r : Request) : Crossing r.Answer := ExceptT.lift (Program.request r)

def note (event : Event) : Crossing Unit := ExceptT.lift (.note event (.done ()))

def abort (panic : Panic) : Crossing α := ExceptT.mk (.abort panic)

def releaseAll (refs : List Ref) : Crossing Unit := ExceptT.lift (Program.releaseAll refs)

/-! ## Ownership

A crossing owns the references that it acquires until it gives them back or returns them.  The
three combinators below give references back on every way out of a crossing, on failure only, and
on failure of a later one of several.
-/

/-- Gives references back after a crossing, whether it succeeds or fails. -/
def owningAll (refs : List Ref) (body : Crossing α) : Crossing α := ExceptT.mk do
  let outcome ← body.run
  Program.releaseAll refs
  return outcome

def owning (ref : Ref) (body : Crossing α) : Crossing α := owningAll [ref] body

/-- Gives references back when a crossing fails, and keeps them when it succeeds. -/
def keeping (refs : List Ref) (body : Crossing α) : Crossing α := ExceptT.mk do
  match ← body.run with
  | .ok result => return .ok result
  | .error error => Program.releaseAll refs; return .error error

/-- Acquires one reference for each element, or none at all. -/
def acquireEach (acquire : β → Crossing Ref) : List β → Crossing (List Ref)
  | [] => return []
  | x :: xs => do
    let ref ← acquire x
    let refs ← keeping [ref] (acquireEach acquire xs)
    return ref :: refs

end Crossing
end ForeignBridge
