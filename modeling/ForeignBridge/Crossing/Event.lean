import ForeignBridge.Host.Error

/-!
# Log events

What the bridge and its runtimes report while they work, with the severity of each event and the
fields under which it is logged.
-/

namespace ForeignBridge

/-- How severe an event is, from most to least. -/
inductive Severity where
  | error | warn | debug | trace
  deriving DecidableEq, Repr

namespace Severity

def name : Severity → String
  | error => "ERROR"
  | warn => "WARN"
  | debug => "DEBUG"
  | trace => "TRACE"

def rank : Severity → Nat
  | error => 0
  | warn => 1
  | debug => 2
  | trace => 3

end Severity

inductive StorageFormat where
  | ascii | binary | hdf5
  deriving DecidableEq, Repr

namespace StorageFormat

def name : StorageFormat → String
  | ascii => "ascii"
  | binary => "binary"
  | hdf5 => "hdf5"

def ofName? (name : String) : Option StorageFormat :=
  [ascii, binary, hdf5].find? (·.name == name)

end StorageFormat

inductive Event where
  | foreignError (runtime : String) (operation : Operation) (message : String)
  | nestedSequence (length : Nat)
  | saveSkipped (format : StorageFormat) (className : String)
  | loadSkipped (format : StorageFormat) (className : String)
  | pathNotAdded (path : String)
  | noRuntime
  | started (runtime : String) (searchPaths : List String)
  | stopped (runtime : String)
  | leaked (ref : Ref)
  | importing (module : String)
  | notImportable (module : String) (diagnostic : Diagnostic)
  | gettingAttr (target : Ref) (name : String)
  | settingAttr (target : Ref) (name : String)
  | calling (target : Ref) (count : Nat)
  | gettingItem (target : Ref)
  | settingItem (target : Ref)
  | unpackingScalar (kind : NumericKind)
  deriving DecidableEq

namespace Event

def severity : Event → Severity
  | foreignError _ _ _ => .error
  | nestedSequence _ | saveSkipped _ _ | loadSkipped _ _ | pathNotAdded _ => .warn
  | noRuntime | started _ _ | stopped _ | leaked _ => .debug
  | importing _ | notImportable _ _ | gettingAttr _ _ | settingAttr _ _ | calling _ _
  | gettingItem _ | settingItem _ | unpackingScalar _ => .trace

end Event
end ForeignBridge
