import ForeignBridge.Interpreter.Call

/-!
# Importing modules

A module is loaded when it is imported for the first time: the packages around it first, then what
its source defines, from top to bottom.  A module whose source ends with an error is not kept.
-/

namespace ForeignBridge
namespace Interpreter

/-! ## Definitions -/

mutual

def Literal.build : Literal → StateM Interpreter Ref
  | .null => make .null
  | .bool b => make (.bool b)
  | .int value => make (.int value)
  | .text codes => make (.text codes)
  | .bytes octets => make (.bytes octets)
  | .tuple items => do make (.tuple (← Literal.buildAll items))

def Literal.buildAll : List Literal → StateM Interpreter (List Ref)
  | [] => return []
  | item :: items => do
    let ref ← item.build
    let refs ← Literal.buildAll items
    return ref :: refs

end

def tallyIn (module : Ref) : Option String → StateM Interpreter (Option (Ref × String))
  | none => return none
  | some name => do return some (← retain module, name)

def makeClass (info : Class) (attrs : List (String × Ref)) : StateM Interpreter Ref :=
  allocate ⟨.classOf info, none, some (.ofList attrs)⟩

def moduleName (module : Ref) : StateM Interpreter String := do
  match ← content module with
  | .moduleOf name _ _ => return name
  | _ => return ""

mutual

def Definition.build (module : Ref) : Definition → Act Ref
  | .value literals result => do
    let literals ← Literal.buildAll literals
    owning literals (evaluate call ⟨module, literals, []⟩ result)
  | .function code defaults literals => do
    let defaults ← Literal.buildAll defaults
    let literals ← Literal.buildAll literals
    allocate ⟨.function code (← retain module) defaults literals, none, some .empty⟩
  | .classOf name base isOpen tally entries => do
    let attrs ← Definition.buildAll module entries
    makeClass ⟨name, ← moduleName module, base, isOpen, ← tallyIn module tally⟩ attrs
  | .dict entries => do
    let refs ← Definition.buildAll module entries
    let keys ← (refs.map Prod.fst).mapM fun key => make (.text (.ofString key))
    make (.dict (keys.zip (refs.map Prod.snd)))
  | .primitive p => do
    let content := Content.primitive p none
    allocate ⟨content, none, if content.builtin = .function then some .empty else none⟩
  | .loaded name => do
    match (← get).modules.find? name with
    | some ref => retain ref
    | none => raise "ModuleNotFoundError" s!"No module named {writtenText (.ofString name)}"

/-- New references to the objects of several definitions; after a failure none of them. -/
def Definition.buildAll (module : Ref) :
    List (String × Definition) → Act (List (String × Ref))
  | [] => return []
  | (name, definition) :: rest => do
    let ref ← definition.build module
    let refs ← keeping [ref] (Definition.buildAll module rest)
    return (name, ref) :: refs

end

/-! ## Loading -/

/-- Binds names of a module to what they are defined as, one after another. -/
def define (module : Ref) : List (String × Definition) → Act Unit
  | [] => return ()
  | (name, definition) :: rest => do
    let ref ← definition.build module
    owning [ref] (setAttr module name ref)
    define module rest

def load (name : String) (source : ModuleSource) : Act Ref := do
  let module ← allocate ⟨.moduleOf source.name source.origin source.isPackage, none, some .empty⟩
  keeping [module] (define module source.definitions)
  match source.failure with
  | some error => keeping [module] (throw error)
  | none =>
    let ref ← retain module
    modify fun s => { s with modules := s.modules.insert name ref }
    return module

/-! ## The search path -/

def systemVariable (name : String) : StateM Interpreter (Option Ref) := do
  match (← get).modules.find? "sys" with
  | some module => ownAttr module name
  | none => return none

def textsAmong (refs : List Ref) : StateM Interpreter (List String) := do
  return (← refs.mapM content).filterMap fun
    | .text codes => codes.toString?
    | _ => none

def searchPaths : Act (List String) := do
  match ← systemVariable "path" with
  | none => raise "AttributeError" "module 'sys' has no attribute 'path'"
  | some ref =>
    match ← content ref with
    | .tuple items | .list items => textsAmong items
    | .dict entries => textsAmong (entries.map Prod.fst)
    | .text codes => return codes.map fun code => String.singleton (Char.ofNat code)
    | .bytes _ => return []
    | _ => raise "TypeError" s!"'{← typeName ref}' object is not iterable"

/-- Appends paths to the search path, and says which ones could not be appended. -/
def extendSearchPath (paths : List String) : StateM Interpreter (List String) := do
  match ← systemVariable "path" with
  | none => return []
  | some ref =>
    let found ← object ref
    match found.content with
    | .list items =>
      let added ← paths.mapM fun path => make (.text (.ofString path))
      setObject ref { found with content := .list (items ++ added) }
      return []
    | _ =>
      if paths ≠ [] then modify fun s => { s with pending := none }
      return paths

/-! ## Importing -/

/-- The source of a module outside all packages. -/
def findSource (name : String) : Act (Option ModuleSource) := do
  let paths ← searchPaths
  let directories := (← get).directories
  return paths.findSome? fun path =>
    (directories.filter fun d => d.isAt path).findSome? fun d => d.find? name

/-- The source of a module in a package, which stands in the directory of the package. -/
def findSubmodule (name : String) : StateM Interpreter (Option ModuleSource) := do
  return (← get).directories.findSome? (·.find? name)

def notFound (name : String) : Act Ref :=
  raise "ModuleNotFoundError" s!"No module named {writtenText (.ofString name)}"

/-- Loads a module that is no part of another one. -/
def importOuter (name : String) : Act Ref := do
  match ← findSource name with
  | some source => load name source
  | none => notFound name

/-- Loads a module that is part of another one, where it becomes an attribute. -/
def importInner (parent : Ref) (package name segment : String) : Act Ref := do
  match ← content parent with
  | .moduleOf _ _ true =>
    match ← findSubmodule name with
    | some source =>
      let module ← load name source
      keeping [module] (setAttr parent segment module)
      return module
    | none => notFound name
  | _ =>
    raise "ModuleNotFoundError" ("No module named " ++ writtenText (.ofString name) ++ "; "
      ++ writtenText (.ofString package) ++ " is not a package")

/-- A new reference to the module of a dotted name, whose last segment comes first. -/
def importSegments : List String → Act Ref
  | [] => notFound ""
  | segment :: outer => do
    let name := ".".intercalate (segment :: outer).reverse
    let package := ".".intercalate outer.reverse
    match (← get).modules.find? name with
    | some loaded => retain loaded
    | none =>
      if package.isEmpty then importOuter name
      else
        let parent ← importSegments outer
        owning [parent] (importInner parent package name segment)

def importModule (name : String) : Act Ref :=
  if name.isEmpty then raise "ValueError" "Empty module name"
  else importSegments ((name.toList.splitOn '.').map String.ofList).reverse

end Interpreter
end ForeignBridge
