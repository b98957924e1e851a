import ForeignBridge.Crossing.Program
import ForeignBridge.Settings.Basic

/-!
# Reporting foreign failures

A runtime reports a failure twice, by the sentinel that it answers and by a pending error.  Before
an answer is used it is checked for both: a pending error is fetched, which clears it, and ends the
crossing even if an answer came with it; a sentinel alone ends the crossing too.
-/

namespace ForeignBridge

structure Context where
  /-- Tells the handles of one bridge from those of another. -/
  id : Nat
  runtime : String
  settings : Settings
  /-- How often the host can go on converting a sequence inside a sequence. -/
  nesting : Nat

namespace Context

variable {α : Type} (ctx : Context)

/-- What is said of a failure: its diagnostic, unless there is none or it is empty. -/
def failureText (diagnostic : Option Diagnostic) : String :=
  match diagnostic with
  | some d => if d.text.isEmpty then "operation failed" else d.text
  | none => "operation failed"

/-- Ends a crossing with a foreign failure, which is also logged if the settings ask for it. -/
def fail (operation : Operation) (diagnostic : Option Diagnostic) : Crossing α := do
  let message := failureText diagnostic
  if ctx.settings.debug then
    Crossing.note (.foreignError ctx.runtime operation message)
  throw (.foreignRuntime operation message)

/-- Checks an answer that is a new reference, which is given back if an error came with it. -/
def checkRef (operation : Operation) (answer : Option Ref) : Crossing Ref := do
  if ← Crossing.ask .errorPending then
    let diagnostic ← Crossing.ask .takeError
    Crossing.releaseAll answer.toList
    ctx.fail operation diagnostic
  else
    match answer with
    | some ref => return ref
    | none => ctx.fail operation none

def checkValue (operation : Operation) (answer : Option α) : Crossing α := do
  if ← Crossing.ask .errorPending then
    let diagnostic ← Crossing.ask .takeError
    ctx.fail operation diagnostic
  else
    match answer with
    | some value => return value
    | none => ctx.fail operation none

def checkStatus (operation : Operation) (answer : Bool) : Crossing Unit :=
  ctx.checkValue operation (if answer then some () else none)

def clearError : Crossing (Option Diagnostic) := do
  if ← Crossing.ask .errorPending then Crossing.ask .takeError else return none

def refuse (fault : ConversionFault) : Crossing α := throw (.typeConversion fault)

end Context
end ForeignBridge
