import ForeignBridge.Interpreter.Object

/-!
# Attributes of the built-in types

The names of the attributes that the types of the interpreter have of their own, in ascending
order.  The listing of an object shows those of its type and of all types above it.
-/

namespace ForeignBridge
namespace Interpreter
namespace Builtin

def ownNames : Builtin → List String
  | object =>
    ["__class__", "__delattr__", "__dir__", "__doc__", "__eq__", "__format__", "__ge__",
      "__getattribute__", "__getstate__", "__gt__", "__hash__", "__init__", "__init_subclass__",
      "__le__", "__lt__", "__ne__", "__new__", "__reduce__", "__reduce_ex__", "__repr__",
      "__setattr__", "__sizeof__", "__str__", "__subclasshook__"]
  | type =>
    ["__abstractmethods__", "__annotations__", "__base__", "__bases__", "__basicsize__",
      "__call__", "__delattr__", "__dict__", "__dictoffset__", "__dir__", "__doc__", "__flags__",
      "__getattribute__", "__init__", "__instancecheck__", "__itemsize__", "__module__",
      "__mro__", "__name__", "__new__", "__or__", "__prepare__", "__qualname__", "__repr__",
      "__ror__", "__setattr__", "__sizeof__", "__subclasscheck__", "__subclasses__",
      "__text_signature__", "__weakrefoffset__", "mro"]
  | null =>
    ["__bool__", "__doc__", "__new__", "__repr__"]
  | bool =>
    ["__and__", "__doc__", "__new__", "__or__", "__rand__", "__repr__", "__ror__", "__rxor__",
      "__xor__"]
  | int =>
    ["__abs__", "__add__", "__and__", "__bool__", "__ceil__", "__divmod__", "__doc__", "__eq__",
      "__float__", "__floor__", "__floordiv__", "__format__", "__ge__", "__getattribute__",
      "__getnewargs__", "__gt__", "__hash__", "__index__", "__int__", "__invert__", "__le__",
      "__lshift__", "__lt__", "__mod__", "__mul__", "__ne__", "__neg__", "__new__", "__or__",
      "__pos__", "__pow__", "__radd__", "__rand__", "__rdivmod__", "__repr__", "__rfloordiv__",
      "__rlshift__", "__rmod__", "__rmul__", "__ror__", "__round__", "__rpow__", "__rrshift__",
      "__rshift__", "__rsub__", "__rtruediv__", "__rxor__", "__sizeof__", "__sub__",
      "__truediv__", "__trunc__", "__xor__", "as_integer_ratio", "bit_count", "bit_length",
      "conjugate", "denominator", "from_bytes", "imag", "numerator", "real", "to_bytes"]
  | float =>
    ["__abs__", "__add__", "__bool__", "__ceil__", "__divmod__", "__doc__", "__eq__",
      "__float__", "__floor__", "__floordiv__", "__format__", "__ge__", "__getattribute__",
      "__getformat__", "__getnewargs__", "__gt__", "__hash__", "__int__", "__le__", "__lt__",
      "__mod__", "__mul__", "__ne__", "__neg__", "__new__", "__pos__", "__pow__", "__radd__",
      "__rdivmod__", "__repr__", "__rfloordiv__", "__rmod__", "__rmul__", "__round__", "__rpow__",
      "__rsub__", "__rtruediv__", "__sub__", "__truediv__", "__trunc__", "as_integer_ratio",
      "conjugate", "fromhex", "hex", "imag", "is_integer", "real"]
  | str =>
    ["__add__", "__contains__", "__doc__", "__eq__", "__format__", "__ge__", "__getattribute__",
      "__getitem__", "__getnewargs__", "__gt__", "__hash__", "__iter__", "__le__", "__len__",
      "__lt__", "__mod__", "__mul__", "__ne__", "__new__", "__repr__", "__rmod__", "__rmul__",
      "__sizeof__", "__str__", "capitalize", "casefold", "center", "count", "encode", "endswith",
      "expandtabs", "find", "format", "format_map", "index", "isalnum", "isalpha", "isascii",
      "isdecimal", "isdigit", "isidentifier", "islower", "isnumeric", "isprintable", "isspace",
      "istitle", "isupper", "join", "ljust", "lower", "lstrip", "maketrans", "partition",
      "removeprefix", "removesuffix", "replace", "rfind", "rindex", "rjust", "rpartition",
      "rsplit", "rstrip", "split", "splitlines", "startswith", "strip", "swapcase", "title",
      "translate", "upper", "zfill"]
  | bytes =>
    ["__add__", "__bytes__", "__contains__", "__doc__", "__eq__", "__ge__", "__getattribute__",
      "__getitem__", "__getnewargs__", "__gt__", "__hash__", "__iter__", "__le__", "__len__",
      "__lt__", "__mod__", "__mul__", "__ne__", "__new__", "__repr__", "__rmod__", "__rmul__",
      "__str__", "capitalize", "center", "count", "decode", "endswith", "expandtabs", "find",
      "fromhex", "hex", "index", "isalnum", "isalpha", "isascii", "isdigit", "islower", "isspace",
      "istitle", "isupper", "join", "ljust", "lower", "lstrip", "maketrans", "partition",
      "removeprefix", "removesuffix", "replace", "rfind", "rindex", "rjust", "rpartition",
      "rsplit", "rstrip", "split", "splitlines", "startswith", "strip", "swapcase", "title",
      "translate", "upper", "zfill"]
  | tuple =>
    ["__add__", "__class_getitem__", "__contains__", "__doc__", "__eq__", "__ge__",
      "__getattribute__", "__getitem__", "__getnewargs__", "__gt__", "__hash__", "__iter__",
      "__le__", "__len__", "__lt__", "__mul__", "__ne__", "__new__", "__repr__", "__rmul__",
      "count", "index"]
  | list =>
    ["__add__", "__class_getitem__", "__contains__", "__delitem__", "__doc__", "__eq__",
      "__ge__", "__getattribute__", "__getitem__", "__gt__", "__hash__", "__iadd__", "__imul__",
      "__init__", "__iter__", "__le__", "__len__", "__lt__", "__mul__", "__ne__", "__new__",
      "__repr__", "__reversed__", "__rmul__", "__setitem__", "__sizeof__", "append", "clear",
      "copy", "count", "extend", "index", "insert", "pop", "remove", "reverse", "sort"]
  | dict =>
    ["__class_getitem__", "__contains__", "__delitem__", "__doc__", "__eq__", "__ge__",
      "__getattribute__", "__getitem__", "__gt__", "__hash__", "__init__", "__ior__", "__iter__",
      "__le__", "__len__", "__lt__", "__ne__", "__new__", "__or__", "__repr__", "__reversed__",
      "__ror__", "__setitem__", "__sizeof__", "clear", "copy", "fromkeys", "get", "items", "keys",
      "pop", "popitem", "setdefault", "update", "values"]
  | moduleType =>
    ["__annotations__", "__delattr__", "__dict__", "__dir__", "__doc__", "__getattribute__",
      "__init__", "__new__", "__repr__", "__setattr__"]
  | function =>
    ["__annotations__", "__builtins__", "__call__", "__closure__", "__code__", "__defaults__",
      "__dict__", "__doc__", "__get__", "__globals__", "__kwdefaults__", "__module__", "__name__",
      "__new__", "__qualname__", "__repr__"]
  | method =>
    ["__call__", "__delattr__", "__doc__", "__eq__", "__func__", "__ge__", "__getattribute__",
      "__gt__", "__hash__", "__le__", "__lt__", "__ne__", "__new__", "__reduce__", "__repr__",
      "__self__", "__setattr__"]
  | primitive =>
    ["__call__", "__doc__", "__eq__", "__ge__", "__getattribute__", "__gt__", "__hash__",
      "__le__", "__lt__", "__module__", "__name__", "__ne__", "__qualname__", "__reduce__",
      "__repr__", "__self__", "__text_signature__"]
  | baseException =>
    ["__cause__", "__context__", "__delattr__", "__dict__", "__doc__", "__getattribute__",
      "__init__", "__new__", "__reduce__", "__repr__", "__setattr__", "__setstate__", "__str__",
      "__suppress_context__", "__traceback__", "add_note", "args", "with_traceback"]
  | exception =>
    ["__doc__", "__init__", "__new__"]
  | lookupError =>
    ["__doc__", "__init__", "__new__"]
  | valueError =>
    ["__doc__", "__init__", "__new__"]
  | keyError =>
    ["__doc__", "__init__", "__str__"]

/-- The names of the attributes of a type and of the types above it. -/
def attributeNames (b : Builtin) : List String := b.lineage.flatMap ownNames

end Builtin
end Interpreter
end ForeignBridge
