/-!
# Names that values keep for themselves

Each kind of value keeps some names for its methods and for the operators that it has.  A template
that asks a value for a part with such a name gets the method or operator, even where the value is
an object with a field of that name.
-/

namespace EntityMapping.Template

/-- The names that a kind of value keeps for itself. -/
structure OwnNames where
  /-- The names of methods. -/
  methods : List String := []
  /-- The names of operators. -/
  operators : List String := []

/-- The names that every value keeps for itself. -/
def commonNames : OwnNames where
  methods := [
    "__dir__", "__format__", "__getstate__", "__init_subclass__", "__new__", "__reduce__",
    "__reduce_ex__", "__sizeof__", "__subclasshook__"]
  operators := [
    "__delattr__", "__eq__", "__ge__", "__getattribute__", "__gt__", "__init__", "__le__", "__lt__",
    "__ne__", "__repr__", "__setattr__", "__str__"]

/-- The names that objects keep for themselves. -/
def objectNames : OwnNames where
  methods := [
    "clear", "copy", "fromkeys", "get", "items", "keys", "pop", "popitem", "setdefault", "update",
    "values", "__class_getitem__", "__contains__", "__getitem__", "__reversed__"]
  operators := ["__delitem__", "__ior__", "__iter__", "__len__", "__or__", "__ror__", "__setitem__"]

/-- The names that lists keep for themselves. -/
def listNames : OwnNames where
  methods := [
    "append", "clear", "copy", "count", "extend", "index", "insert", "pop", "remove", "reverse",
    "sort", "__class_getitem__", "__getitem__", "__reversed__"]
  operators := [
    "__add__", "__contains__", "__delitem__", "__iadd__", "__imul__", "__iter__", "__len__",
    "__mul__", "__rmul__", "__setitem__"]

/-- The names that texts keep for themselves. -/
def textNames : OwnNames where
  methods := [
    "capitalize", "casefold", "center", "count", "encode", "endswith", "expandtabs", "find",
    "format", "format_map", "index", "isalnum", "isalpha", "isascii", "isdecimal", "isdigit",
    "isidentifier", "islower", "isnumeric", "isprintable", "isspace", "istitle", "isupper", "join",
    "ljust", "lower", "lstrip", "maketrans", "partition", "removeprefix", "removesuffix", "replace",
    "rfind", "rindex", "rjust", "rpartition", "rsplit", "rstrip", "split", "splitlines",
    "startswith", "strip", "swapcase", "title", "translate", "upper", "zfill", "__getnewargs__"]
  operators := [
    "__add__", "__contains__", "__getitem__", "__hash__", "__iter__", "__len__", "__mod__",
    "__mul__", "__rmod__", "__rmul__"]

/-- The names of operators that all numbers keep for themselves. -/
def numberOperators : List String := [
  "__abs__", "__add__", "__bool__", "__divmod__", "__float__", "__floordiv__", "__hash__",
  "__int__", "__mod__", "__mul__", "__neg__", "__pos__", "__pow__", "__radd__", "__rdivmod__",
  "__rfloordiv__", "__rmod__", "__rmul__", "__rpow__", "__rsub__", "__rtruediv__", "__sub__",
  "__truediv__"]

/-- The names of methods that all numbers keep for themselves. -/
def numberMethods : List String := [
  "as_integer_ratio", "conjugate", "__ceil__", "__floor__", "__getnewargs__", "__round__",
  "__trunc__"]

/-- The names that whole numbers and truth values keep for themselves. -/
def intNames : OwnNames where
  methods := ["bit_count", "bit_length", "from_bytes", "to_bytes"] ++ numberMethods
  operators := [
    "__and__", "__index__", "__invert__", "__lshift__", "__or__", "__rand__", "__rlshift__",
    "__ror__", "__rrshift__", "__rshift__", "__rxor__", "__xor__"] ++ numberOperators

/-- The names that binary64 numbers keep for themselves. -/
def floatNames : OwnNames where
  methods := ["fromhex", "hex", "is_integer", "__getformat__"] ++ numberMethods
  operators := numberOperators

/-- The names that null keeps for itself. -/
def nullNames : OwnNames where
  operators := ["__bool__", "__hash__"]

end EntityMapping.Template
