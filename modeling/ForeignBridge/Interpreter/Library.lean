import ForeignBridge.Interpreter.Import

/-!
# Modules that come with the interpreter

The modules that are loaded when the interpreter starts: built-in functions and types, the search
path, square roots, and the names of files.
-/

namespace ForeignBridge
namespace Interpreter
namespace Library

def builtins : ModuleSource where
  name := "builtins"
  origin := "(built-in)"
  isPackage := false
  definitions := [
    ("len", .primitive .length),
    ("chr", .primitive .character),
    ("int", .value [] (.type .int)),
    ("str", .value [] (.type .str)),
    ("dict", .value [] (.type .dict)),
    ("object", .value [] (.type .object)),
    ("BaseException", .value [] (.type .baseException)),
    ("Exception", .value [] (.type .exception)),
    ("LookupError", .value [] (.type .lookupError)),
    ("ValueError", .value [] (.type .valueError)),
    ("KeyError", .value [] (.type .keyError))]
  failure := none

/-- The search path begins with the directories of the interpreter itself. -/
def sys : ModuleSource where
  name := "sys"
  origin := "(built-in)"
  isPackage := false
  definitions := [
    ("path", .value
      [.text (.ofString "/usr/lib/python311.zip"), .text (.ofString "/usr/lib/python3.11"),
        .text (.ofString "/usr/lib/python3.11/lib-dynload")]
      (.list [.constant 0, .constant 1, .constant 2]))]
  failure := none

def pi : Double := .ofBits 0x400921fb54442d18

def math : ModuleSource where
  name := "math"
  origin := "(built-in)"
  isPackage := false
  definitions := [
    ("sqrt", .primitive .squareRoot),
    ("pi", .value [] (.float pi))]
  failure := none

def separator : String × Definition := ("sep", .value [.text (.ofString "/")] (.constant 0))

def filePaths : ModuleSource where
  name := "posixpath"
  origin := "(frozen)"
  isPackage := false
  definitions := [("join", .primitive .joinPaths), separator]
  failure := none

def os : ModuleSource where
  name := "os"
  origin := "(frozen)"
  isPackage := false
  definitions := [("path", .loaded "os.path"), separator]
  failure := none

def modules : List (String × ModuleSource) :=
  [("builtins", builtins), ("sys", sys), ("math", math), ("os.path", filePaths), ("os", os)]

end Library

/-- An interpreter that has just started and looks for modules in given directories. -/
def fresh (directories : List Directory) : Interpreter :=
  let loading : Act Unit := Library.modules.forM fun (name, source) => do
    release (← load name source)
  (loading.run.run (bare directories)).2

end Interpreter
end ForeignBridge
