import ForeignBridge.Simulation.Form

/-!
# The geometry modules

Two modules to try a bridge on: points with fields, methods and a list of items, functions that
answer, fail or misbehave in every way a function can, and a submodule.
-/

namespace ForeignBridge
namespace Simulation
namespace Geometry

def function (name : String) (body : Body) : String × Form := (name, .function name body)

def row (values : List Int) : Form := .tuple (values.map .int)

def point : Form :=
  .classOf "Point" [
    function "__init__"
      (.initialiser "Point" ["x", "y"] (some ("items", .list [.int 10, .int 20, .int 30]))),
    function "pair" (.scaling [("x", "first"), ("y", "second")]),
    function "get_x" (.getter "x"),
    function "set_x" (.setter "x"),
    function "_secret" .argumentCount,
    ("dims", .int 2)]

def geometry : List (String × Form) := [
  ("Point", point),
  ("Empty", .classOf "Empty" []),
  ("Broken", .classOf "Broken" [function "__init__" (.raising ⟨"ValueError", "no instance"⟩)]),
  ("Mute", .classOf "Mute" [function "__init__" .silent]),
  function "echo" (.argument 0),
  function "all" .arguments,
  function "argc" .argumentCount,
  function "calls" .callCount,
  function "kind_name" .kindName,
  function "apply" .applying,
  function "fail" (.raising ⟨"ValueError", "boom"⟩),
  function "silent_fail" .silent,
  function "stray" (.stray ⟨"RuntimeError", "late"⟩ (.list [.int 1, .text "a"])),
  function "matrix" (.making (.tuple [row [1, 2, 3], row [4, 5, 6]])),
  function "ragged" (.making (.tuple [row [1, 2], row [3]])),
  function "big" (.making (.int 0x400000000000000000)),
  function "surrogate" (.making (.units [0xd800])),
  function "bag" (.making (.bag [
    ("a", .int 1), ("_p", .int 2), ("inner", .bag [("leaf", .text "ok")])]))]

def shapes : List (String × Form) := [
  ("unit", .float (Binary.ofInt 1)),
  function "area" .square]

/-- The scripts that register the modules. -/
def scripts : List Script :=
  [moduleScript "geometry" geometry, moduleScript "geometry.shapes" shapes]

end Geometry
end Simulation
end ForeignBridge
