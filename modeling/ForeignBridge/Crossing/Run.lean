import ForeignBridge.Crossing.Program

/-!
# Running programs

A program runs against whatever answers its requests.  While it runs, the references that it
acquired and did not give back yet are written down; if the run ends in a panic, they are given
back then.
-/

namespace ForeignBridge
namespace Program

variable {σ α : Type}

def heldAfter (held : List Ref) (r : Request) (answer : r.Answer) : List Ref :=
  r.acquired answer ++ (match r.returned with | some ref => held.erase ref | none => held)

/-- Runs a program and says which references it holds in the end. -/
def runHolding (answer : (r : Request) → Attempt σ r.Answer) (record : Event → StateM σ Unit)
    (held : List Ref) : Program α → StateM σ (Except Panic α × List Ref)
  | done result => return (.ok result, held)
  | abort panic => return (.error panic, held)
  | ask request next => do
    match ← (answer request).run with
    | .ok given => runHolding answer record (heldAfter held request given) (next given)
    | .error panic => return (.error panic, held)
  | note event next => do
    record event
    runHolding answer record held next

def unwind (answer : (r : Request) → Attempt σ r.Answer) : List Ref → StateM σ Unit
  | [] => return ()
  | ref :: rest => do
    match ← (answer (.release ref)).run with
    | .ok _ => unwind answer rest
    | .error _ => return ()

/-- Runs a program; a panic gives back all that the program holds. -/
def run (answer : (r : Request) → Attempt σ r.Answer) (record : Event → StateM σ Unit)
    (program : Program α) : Attempt σ α := ExceptT.mk do
  let (outcome, held) ← runHolding answer record [] program
  match outcome with
  | .ok result => return .ok result
  | .error panic =>
    unwind answer held
    return .error panic

end Program
end ForeignBridge
