import ForeignBridge.Proofs.Crossing.Protocol

/-!
# Failures of a runtime

A runtime fails in two ways that do not exclude each other: it raises an error, which stays pending
until it is fetched, or it answers with the sentinel of a request.  Some failures are tolerated,
because the bridge has something else to go on with; any other one is a mishap.
-/

namespace ForeignBridge

namespace Request

/-- The requests during which a runtime may raise an error. -/
def mayRaise : Request → Bool
  | typeName _ | memberNames _ | numericKind _ | intValue _ | floatValue _ | stringBytes _
  | sequenceLength _ | sequenceItem _ _ | newScalar _ | newString _ | newTuple _ | importModule _
  | getAttr _ _ | setAttr _ _ _ | call _ _ | getItem _ _ | setItem _ _ _ => true
  | _ => false

/-- The requests that make or change something in a runtime, or run its code. -/
def active : Request → Bool
  | newScalar _ | newString _ | newTuple _ | importModule _ | getAttr _ _ | setAttr _ _ _
  | call _ _ | getItem _ _ | setItem _ _ _ => true
  | _ => false

/-- Whether an answer is the sentinel by which a request says that it failed. -/
def refused : (r : Request) → r.Answer → Bool
  | typeName _, answer => answer.isNone
  | memberNames _, answer => answer.isNone
  | numericKind _, answer => answer.isNone
  | intValue _, answer => answer.isNone
  | stringBytes _, answer => answer.isNone
  | sequenceLength _, answer => answer.isNone
  | sequenceItem _ _, answer | newScalar _, answer | newString _, answer | newTuple _, answer
  | importModule _, answer | getAttr _ _, answer | call _ _, answer | getItem _ _, answer =>
    answer.isNone
  | setAttr _ _ _, answer | setItem _ _ _, answer => !answer
  | _, _ => false

/-- The operations as a part of which the bridge reports a failure of a request. -/
def operations : Request → List Operation
  | memberNames _ => [.members]
  | numericKind _ => [.packInteger, .packFloat]
  | intValue _ => [.packInteger]
  | floatValue _ => [.packFloat]
  | stringBytes _ => [.packString]
  | sequenceLength _ => [.sequenceLength]
  | sequenceItem _ _ => [.sequenceItem]
  | newScalar _ => [.unpackScalar]
  | newString _ => [.unpackString]
  | newTuple _ => [.buildSequence]
  | importModule _ => [.importModule]
  | getAttr _ _ => [.getField]
  | setAttr _ _ _ => [.setField]
  | call _ _ => [.call]
  | getItem _ _ => [.index]
  | setItem _ _ _ => [.assignIndex]
  | _ => []

/-- The diagnostics that come with an answer. -/
def fetched : (r : Request) → r.Answer → List (Option Diagnostic)
  | takeError, diagnostic => [diagnostic]
  | _, _ => []

/-- What a runtime answers if it says truly whether an error is pending. -/
def reported : (r : Request) → Bool → r.Answer → r.Answer
  | errorPending, pending, _ => pending
  | _, _, answer => answer

/-- Whether an error is pending after a request. -/
def pendingAfter : Request → Bool → Bool
  | takeError, _ => false
  | _, pending => pending

end Request

/-- An exchange, and whether an error was raised during it. -/
structure Occurrence extends Exchange where
  raised : Bool

namespace Occurrence

/-- A runtime fails if it raises an error or answers with a sentinel. -/
def failed (o : Occurrence) : Bool := o.raised || o.request.refused o.answer

/-- The failures that the bridge can do without an answer for: a class without a name, a number
without a kind, and a dotted prefix of a name that is no module. -/
def tolerated (prefixes : List String) (o : Occurrence) : Bool :=
  match o.request with
  | .typeName _ => true
  | .numericKind _ => !o.raised
  | .importModule name => prefixes.contains name
  | _ => false

/-- A failure that is not tolerated. -/
def mishap (prefixes : List String) (o : Occurrence) : Bool := o.failed && !o.tolerated prefixes

end Occurrence

end ForeignBridge
