import ForeignBridge.Foreign.Reference

/-!
# Panics

Misuse that no caller can recover from: use of a runtime outside its life, and use of an object
after its death.  A panic breaks off what is being done.
-/

namespace ForeignBridge

inductive Panic where
  | usedAfterShutdown (runtime : String)
  | clonedAfterShutdown (ref : Ref)
  | notStarted (operation : String)
  | stopped (operation : String)
  | deadAccess (ref : Ref)
  | deadRetain (ref : Ref)
  | deadRelease (ref : Ref)
  | nestedTooDeep
  | calledTooDeep
  deriving DecidableEq, Repr

namespace Panic

def message (refText : Ref → String) : Panic → String
  | usedAfterShutdown runtime => s!"{runtime} runtime used after shutdown"
  | clonedAfterShutdown ref => s!"foreign reference {refText ref} cloned after shutdown"
  | notStarted operation => s!"SimRuntime::{operation} called before initialize"
  | stopped operation => s!"SimRuntime::{operation} called after finalize"
  | deadAccess ref => s!"access to dead object {refText ref}"
  | deadRetain ref => s!"retain of dead object {refText ref}"
  | deadRelease ref => s!"release of dead object {refText ref}"
  | nestedTooDeep => "sequences nested too deeply"
  | calledTooDeep => "calls nested too deeply"

end Panic

/-- A computation on a state that may panic, which leaves the state as it was at that moment. -/
abbrev Attempt (σ α : Type) := ExceptT Panic (StateM σ) α

namespace Attempt

variable {σ α : Type}

def outcome (attempt : Attempt σ α) (state : σ) : Except Panic α × σ := attempt.run.run state

def within {τ : Type} (part : τ → σ) (replace : σ → τ → τ) (attempt : Attempt σ α) :
    Attempt τ α :=
  ExceptT.mk fun whole =>
    let (outcome, changed) := attempt.outcome (part whole)
    (outcome, replace changed whole)

end Attempt
end ForeignBridge
