import ForeignBridge.Crossing.Event
import ForeignBridge.Text.Quoted

/-!
# Log lines

An event is logged with its severity and its fields, sorted by name and then by text.  The field
`message` says what happened.
-/

namespace ForeignBridge
namespace Event

/-- The fields of an event in no particular order, given how to write a reference. -/
def rawFields (refText : Ref → String) : Event → List (String × String)
  | foreignError runtime operation message =>
    [("runtime", runtime), ("operation", operation.text), ("message", message),
      ("message", "foreign error")]
  | nestedSequence length =>
    [("error", (BridgeError.typeConversion .nestedSequences).message), ("len", toString length),
      ("message", "packing nested sequence as undefined placeholders")]
  | saveSkipped format className =>
    [("format", format.name), ("class", className),
      ("message", "save: unable to save foreign objects, skipping")]
  | loadSkipped format className =>
    [("format", format.name), ("class", className),
      ("message", "load: unable to load foreign objects, keeping the handle")]
  | pathNotAdded path => [("path", path), ("message", "failed to extend sys.path")]
  | noRuntime => [("message", "no foreign runtime backend compiled in")]
  | started runtime searchPaths =>
    [("runtime", runtime), ("search_paths", Quoted.quoteAll searchPaths),
      ("message", "foreign runtime initialized")]
  | stopped runtime => [("runtime", runtime), ("message", "foreign runtime finalized")]
  | leaked ref =>
    [("raw", refText ref), ("message", "leaking foreign reference dropped after shutdown")]
  | importing module => [("module", module), ("message", "import")]
  | notImportable module diagnostic =>
    [("module", module), ("diagnostic", diagnostic.text), ("message", "not importable")]
  | gettingAttr target name =>
    [("target", refText target), ("name", name), ("message", "get attribute")]
  | settingAttr target name =>
    [("target", refText target), ("name", name), ("message", "set attribute")]
  | calling target count =>
    [("target", refText target), ("argc", toString count), ("message", "call")]
  | gettingItem target => [("target", refText target), ("message", "get item")]
  | settingItem target => [("target", refText target), ("message", "set item")]
  | unpackingScalar kind =>
    [("code", kind.descriptor.code.toString), ("kind", kind.name), ("message", "unpack scalar")]

def fields (refText : Ref → String) (event : Event) : List (String × String) :=
  (event.rawFields refText).mergeSort fun a b => a.1 < b.1 || a.1 == b.1 && a.2 ≤ b.2

end Event
end ForeignBridge
