import ForeignBridge.Simulation.Runtime

/-!
# Faults

A simulated runtime behind a bridge can be made to misbehave: after a number of ordinary answers to
one method, a number of faulty ones.  A faulty answer is a given one, the real one or the sentinel
of a failure, and may leave an error pending.
-/

namespace ForeignBridge
namespace Session

inductive FaultyAnswer where
  | kind (kind : ForeignKind)
  | numericKind (kind : Option NumericKind)
  | text (text : String)
  | names (names : List String)
  | int (value : Option Int)
  | float (x : Double)
  | count (n : Nat)
  | flag (b : Bool)

/-- A rule for the answers to one method. -/
structure Fault where
  method : String
  /-- How many ordinary answers come first. -/
  skip : Nat
  /-- How many faulty answers follow. -/
  count : Nat
  /-- Whether the request is served all the same. -/
  keep : Bool
  raises : Option Diagnostic
  answer : Option FaultyAnswer

namespace Fault

/-- The faulty answer to a request that is not served: the given one if it fits, and else the
sentinel of a failure. -/
def substitute (given : Option FaultyAnswer) : (r : Request) → r.Answer
  | .kindOf _ => match given with | some (.kind kind) => kind | _ => .object
  | .numericKind _ => match given with | some (.numericKind kind) => kind | _ => none
  | .typeName _ => match given with | some (.text text) => some text | _ => none
  | .memberNames _ => match given with | some (.names names) => some names | _ => none
  | .isCallable _ | .supportsIndexing _ | .boolValue _ | .setAttr _ _ _ | .setItem _ _ _
  | .errorPending => match given with | some (.flag b) => b | _ => false
  | .intValue _ => match given with | some (.int value) => value | _ => none
  | .floatValue _ => match given with | some (.float x) => x | _ => Binary.ofInt (-1)
  | .stringBytes _ => match given with | some (.text text) => some (Utf8.encode text) | _ => none
  | .sequenceLength _ => match given with | some (.count n) => some n | _ => none
  | .sequenceItem _ _ | .newScalar _ | .newString _ | .newTuple _ | .importModule _
  | .getAttr _ _ | .call _ _ | .getItem _ _ => none
  | .null => Simulation.nullRef
  | .retain _ | .release _ => ()
  | .takeError => none

end Fault

/-- A simulated runtime with the rules by which it misbehaves. -/
structure Rig where
  simulation : Simulation
  faults : List Fault
  callDepth : Nat

namespace Rig

/-- The first rule for a method that has faulty answers left, and the rules after one more request:
it is skipped or spent. -/
def nextFault (method : String) : List Fault → Option Fault × List Fault
  | [] => (none, [])
  | fault :: rest =>
    if fault.method = method ∧ 0 < fault.count then
      if 0 < fault.skip then (none, { fault with skip := fault.skip - 1 } :: rest)
      else (some fault, { fault with count := fault.count - 1 } :: rest)
    else
      let (found, rest) := nextFault method rest
      (found, fault :: rest)

def inSimulation {α : Type} (attempt : Attempt Simulation α) : Attempt Rig α :=
  attempt.within Rig.simulation fun simulation rig => { rig with simulation }

def ordinary (r : Request) : Attempt Rig r.Answer := do
  let rig ← get
  inSimulation (Simulation.answer (Simulation.run rig.callDepth) r)

/-- A faulty answer.  A fetched error is lost even if it is not answered. -/
def faulty (fault : Fault) (r : Request) : Attempt Rig r.Answer := do
  let answer ←
    if fault.keep then ordinary r
    else
      if r.method = "take_error" then
        inSimulation (modify fun s => { s with pending := none })
      pure (Fault.substitute fault.answer r)
  match fault.raises with
  | some diagnostic => inSimulation (Simulation.raise diagnostic.kind diagnostic.message)
  | none => pure ()
  return answer

def answer (r : Request) : Attempt Rig r.Answer := do
  let (fault, faults) := nextFault r.method (← get).faults
  modify fun rig => { rig with faults }
  match fault with
  | some fault => faulty fault r
  | none => ordinary r

end Rig
end Session
end ForeignBridge
