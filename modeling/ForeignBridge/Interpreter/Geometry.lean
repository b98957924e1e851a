import ForeignBridge.Interpreter.Library

/-!
# Modules to try a bridge on

Points with fields, methods and a list of items, classes with unusual abilities, values of every
kind, errors, and functions that answer or fail; a package with a submodule; and a module that
cannot be loaded.
-/

namespace ForeignBridge
namespace Interpreter
namespace Geometry

/-! ## Ways to define things -/

def text (s : String) : Literal := .text (.ofString s)

def function (name : String) (parameters : List String) (statements : List Statement)
    (result : Option Expr) (literals : List Literal) : String × Definition :=
  (name, .function ⟨name, name, parameters, false, statements, result⟩ [] literals)

def method (className name : String) (parameters : List String) (statements : List Statement)
    (result : Option Expr) (literals : List Literal) : String × Definition :=
  (name, .function ⟨name, className ++ "." ++ name, "self" :: parameters, false, statements, result⟩
    [] literals)

/-- A function that takes any number of arguments. -/
def variadic (name : String) (result : Expr) : String × Definition :=
  (name, .function ⟨name, name, ["args"], true, [], some result⟩ [] [])

def thunk (name : String) (result : Expr) (literals : List Literal) : String × Definition :=
  (name, .function ⟨"<lambda>", "<lambda>", [], false, [], some result⟩ [] literals)

def answering (name : String) (literal : Literal) : String × Definition :=
  thunk name (.constant 0) [literal]

/-- Instances have attributes of their own and no tally. -/
def classOf (name : String) (base : Builtin) (entries : List (String × Definition)) :
    String × Definition :=
  (name, .classOf name base true none entries)

/-! ## Classes -/

/-- The first argument of a method is the instance. -/
def self : Expr := .parameter 0

def addToCount (literal : Nat) : Statement :=
  .setGlobal "count" (.binary .add (.global "count") (.constant literal))

def point : Definition :=
  .classOf "Point" .object true (some "count") [
    ("dims", .value [.int 2] (.constant 0)),
    method "Point" "__init__" ["x", "y"]
      [addToCount 0, .setAttribute self "x" (.parameter 1), .setAttribute self "y" (.parameter 2),
        .setAttribute self "items" (.list [.constant 1, .constant 2, .constant 3])]
      none [.int 1, .int 10, .int 20, .int 30],
    method "Point" "__del__" [] [addToCount 0] none [.int (-1)],
    method "Point" "pair" ["k"] []
      (some (.dict [.constant 0, .constant 1]
        [.binary .multiply (.attribute self "x") (.parameter 1),
          .binary .multiply (.attribute self "y") (.parameter 1)]))
      [text "first", text "second"],
    method "Point" "get_x" [] [] (some (.attribute self "x")) [],
    method "Point" "set_x" ["v"] [.setAttribute self "x" (.parameter 1)] none [],
    method "Point" "_secret" [] [] (some (.constant 0)) [.int 0]]

/-- Items under the numbers up to four. -/
def sequenceItem : String × Definition :=
  method "Seq" "__getitem__" ["i"]
    [.failAbove (.parameter 1) (.constant 0) ⟨"IndexError", "Seq index out of range"⟩]
    (some (.binary .multiply (.parameter 1) (.constant 1))) [.int 4, .int 10]

def adderCall : String × Definition :=
  ("__call__", .function
    ⟨"__call__", "Adder.__call__", ["self", "a", "b"], false, [],
      some (.binary .add (.parameter 1) (.parameter 2))⟩
    [.int 1] [])

/-- A listing with a surrogate, a private name and a name that comes twice. -/
def oddListing : String × Definition :=
  method "OddDir" "__dir__" [] []
    (some (.list [.constant 0, .constant 1, .constant 2, .constant 3, .constant 0]))
    [text "b", text "a", text "_p", .text [0xd800]]

def classes : List (String × Definition) := [
  ("Point", point),
  ("Frozen", .classOf "Frozen" .object false none
    [("__slots__", .value [.tuple []] (.constant 0))]),
  classOf "Seq" .object [sequenceItem],
  classOf "Adder" .object [adderCall],
  classOf "NoDir" .object
    [method "NoDir" "__dir__" [] [.fail ⟨"RuntimeError", "no listing"⟩] none []],
  classOf "OddDir" .object [oddListing],
  classOf "Custom" .exception [],
  classOf "MyInt" .int [],
  classOf "MyStr" .str [],
  classOf "MyDict" .dict []]

/-! ## Errors and values -/

def exception (name : String) (type : Expr) (arguments : List Literal) : String × Definition :=
  (name, .value arguments (.call type ((List.range arguments.length).map .constant)))

def errors : List (String × Definition) := [
  exception "value" (.type .valueError) [text "bad value"],
  exception "empty" (.type .valueError) [],
  exception "key" (.type .keyError) [text "k"],
  exception "custom" (.global "Custom") [text "own"],
  exception "unicode" (.type .valueError) [text "é ✓ 𝄞"]]

def ints (values : List Int) : Literal := .tuple (values.map .int)

def integers : List (String × Definition) := [
  answering "big" (.int 0x400000000000000000),
  answering "small" (.int (-0x400000000000000000)),
  answering "u64" (.int 0xffffffffffffffff),
  answering "u64_over" (.int 0x10000000000000000),
  answering "i64_min" (.int (-0x8000000000000000)),
  answering "i64_under" (.int (-0x8000000000000000 - 1)),
  answering "minus_one" (.int (-1))]

def texts : List (String × Definition) := [
  answering "surrogate" (.text [0xd800]),
  answering "nul" (text "a\x00b"),
  answering "bytes" (.bytes [97, 98, 99]),
  answering "bytes_empty" (.bytes []),
  answering "bytes_nul" (.bytes [97, 0, 98]),
  thunk "bytes_utf8" (.bytes (Utf8.encode "é𝄞")) [],
  answering "bytes_bad" (.bytes [97, 255])]

def sequences : List (String × Definition) := [
  thunk "matrix"
    (.tuple [.constant 0, .list [.constant 1, .constant 2, .constant 3]])
    [ints [1, 2, 3], .int 4, .int 5, .int 6],
  thunk "mixed_matrix"
    (.list [.tuple [.constant 0, .float (.ofBits 0x4004000000000000)],
      .list [.constant 1, .constant 2]])
    [.bool true, .int 3, .bool false],
  answering "ragged" (.tuple [ints [1, 2], ints [3]]),
  answering "ragged_big" (.tuple [ints [1, 2], ints [0x400000000000000000]]),
  answering "matrix_big" (.tuple [ints [1, 0x8000000000000000]]),
  thunk "strings" (.list [.constant 0, .constant 1, .constant 2])
    [text "a", .bytes [98], text "é"],
  thunk "strings_bad" (.list [.constant 0, .constant 1]) [text "a", .text [0xd800]],
  thunk "deep" (.list [.list [.list [.constant 0], .constant 1], .constant 2])
    [.int 1, .int 2, text "x"],
  thunk "empty" (.list []) [],
  thunk "rows_empty" (.list [.constant 0, .list []]) [.tuple []]]

def containers : List (String × Definition) := [
  thunk "objects"
    (.list [.constant 0, .dict [.constant 1] [.constant 0], .constant 2, .global "echo"])
    [.int 1, text "a", .null],
  thunk "bag"
    (.dict [.constant 0, .constant 1, .constant 2]
      [.constant 3, .constant 4, .dict [.constant 5] [.constant 6]])
    [text "a", text "_p", text "inner", .int 1, .int 2, text "leaf", text "ok"],
  thunk "odd_bag"
    (.dict [.constant 0, .constant 1, .constant 2, .constant 3, .constant 4, .constant 5]
      [.constant 6, .constant 7, .constant 8, .constant 9, .constant 10, .constant 11])
    [.int 1, text "b", .text [0xd800], text "a", .null, text "é",
      text "one", .int 2, .int 3, .int 4, .int 5, .int 6]]

def instances : List (String × Definition) := [
  thunk "my_int" (.call (.global "MyInt") [.constant 0]) [.int 5],
  thunk "my_str" (.call (.global "MyStr") [.constant 0]) [text "sub"],
  thunk "my_dict" (.call (.global "MyDict") [.dict [.constant 0] [.constant 1]])
    [text "a", .int 1],
  ("frozen", .value [] (.global "Frozen")),
  ("seq", .value [] (.global "Seq")),
  ("adder", .value [] (.global "Adder")),
  ("nodir", .value [] (.global "NoDir")),
  ("odddir", .value [] (.global "OddDir"))]

def values : List (String × Definition) :=
  [answering "none" .null, answering "true" (.bool true)] ++ integers
    ++ [thunk "nan" (.float .nan) [], thunk "inf" (.float (.infinite false)) []]
    ++ texts ++ sequences ++ containers ++ instances

/-! ## Modules -/

def functions : List (String × Definition) := [
  function "make" ["name"] [] (some (.call (.item (.global "VALUES") (.parameter 0)) [])) [],
  function "fail" ["name"] [.raise (.item (.global "ERRORS") (.parameter 0))] none [],
  function "echo" ["v"] [] (some (.parameter 0)) [],
  variadic "all" (.parameter 0),
  variadic "argc" (.size (.parameter 0)),
  function "kind_name" ["v"] [] (some (.typeName (.parameter 0))) [],
  function "alive" [] [] (some (.global "count")) [],
  function "hold" ["store", "key", "value"]
    [.setItem (.parameter 0) (.parameter 1) (.parameter 2)] none []]

def geometry : ModuleSource where
  name := "pygeo"
  origin := "from 'py/pygeo.py'"
  isPackage := false
  definitions := ("count", .value [.int 0] (.constant 0)) :: classes
    ++ [("ERRORS", .dict errors), ("VALUES", .dict values)] ++ functions
  failure := none

def package : ModuleSource where
  name := "pypkg"
  origin := "from 'py/pypkg/__init__.py'"
  isPackage := true
  definitions := [
    ("level", .value [text "package"] (.constant 0)),
    ("sub_like", .dict [("v", .value [text "attribute"] (.constant 0))])]
  failure := none

def submodule : ModuleSource where
  name := "pypkg.sub"
  origin := "from 'py/pypkg/sub.py'"
  isPackage := false
  definitions := [
    ("level", .value [text "submodule"] (.constant 0)),
    function "twice" ["v"] [] (some (.binary .add (.parameter 0) (.parameter 0))) []]
  failure := none

/-- A module that ends with an error. -/
def broken : ModuleSource where
  name := "pybad"
  origin := "from 'py/pybad.py'"
  isPackage := false
  definitions := []
  failure := some ⟨"RuntimeError", "bad import"⟩

def directory : Directory := ⟨"py", [geometry, package, submodule, broken]⟩

end Geometry
end Interpreter
end ForeignBridge
