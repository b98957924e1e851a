import ForeignBridge.Settings.Basic
import ForeignBridge.Settings.Grammar

/-!
# Settings from a document

The table `bridge` of a document holds the settings; what it leaves out keeps its default, and keys
that are no setting are ignored.  The settings may also be listed in an array in their order.
-/

namespace ForeignBridge

namespace Document.Node

def text? : Node → Option String
  | text s => some s
  | _ => none

def flag? : Node → Option Bool
  | flag b => some b
  | _ => none

def texts? : Node → Option (List String)
  | array items => items.mapM text?
  | _ => none

end Document.Node

namespace Settings

open Document (Node Entries)

/-- The settings of three nodes, each of which may be missing but must not be of another type. -/
def ofNodes? (searchPaths matrixAutoconversion debug : Option Node) : Option Settings := do
  let base : Settings := {}
  return {
    searchPaths := (← searchPaths.mapM Node.texts?).getD base.searchPaths
    matrixAutoconversion := (← matrixAutoconversion.mapM Node.flag?).getD base.matrixAutoconversion
    debug := (← debug.mapM Node.flag?).getD base.debug }

/-- A moment is read as a table without settings. -/
def ofNode? : Node → Option Settings
  | .table _ entries =>
    ofNodes? (entries.lookup "search_paths") (entries.lookup "matrix_autoconversion")
      (entries.lookup "debug")
  | .array items => ofNodes? items[0]? items[1]? items[2]?
  | .moment => some {}
  | _ => none

def ofEntries? (entries : Entries) : Option Settings :=
  match entries.lookup "bridge" with
  | some node => ofNode? node
  | none => some {}

def ofText? (text : String) : Option Settings := do ofEntries? (← Document.ofText? text)

end Settings
end ForeignBridge
