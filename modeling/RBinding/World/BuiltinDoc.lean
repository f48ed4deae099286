import RBinding.Value

/-!
# RBinding.World.BuiltinDoc

Documentation that comes with Python itself, which a lookup finds where a class says nothing: that
of the members every class has (`rootDoc?`), and that of values by their type (`Value.typeDoc?`).
-/

namespace RBinding
namespace World

def commonInitDoc : String :=
  "Initialize self.  See help(type(self)) for accurate signature."

def subclassInitDoc : String :=
  "\n".intercalate [
    "This method is called when a class is subclassed.",
    "",
    "The default implementation does nothing. It may be",
    "overridden to extend subclasses.",
    ""]

def subclassHookDoc : String :=
  "\n".intercalate [
    "Abstract classes can override this to customize issubclass().",
    "",
    "This is invoked early on by abc.ABCMeta.__subclasscheck__().",
    "It should return True, False or NotImplemented.  If it returns",
    "NotImplemented, the normal algorithm is used.  Otherwise, it",
    "overrides the normal algorithm (and the outcome is cached).",
    ""]

def prepareDoc : String :=
  "\n".intercalate [
    "__prepare__() -> dict",
    "used to create the namespace for the class statement"]

def rootDocs : List (String × String) := [
  ("__call__", "Call self as a function."),
  ("__delattr__", "Implement delattr(self, name)."),
  ("__dir__", "Default dir() implementation."),
  ("__eq__", "Return self==value."),
  ("__format__", "Default object formatter."),
  ("__ge__", "Return self>=value."),
  ("__getattribute__", "Return getattr(self, name)."),
  ("__getstate__", "Helper for pickle."),
  ("__gt__", "Return self>value."),
  ("__hash__", "Return hash(self)."),
  ("__init__", commonInitDoc),
  ("__init_subclass__", subclassInitDoc),
  ("__instancecheck__", "Check if an object is an instance."),
  ("__le__", "Return self<=value."),
  ("__lt__", "Return self<value."),
  ("__ne__", "Return self!=value."),
  ("__new__", "Create and return a new object.  See help(type) for accurate signature."),
  ("__or__", "Return self|value."),
  ("__prepare__", prepareDoc),
  ("__reduce__", "Helper for pickle."),
  ("__reduce_ex__", "Helper for pickle."),
  ("__repr__", "Return repr(self)."),
  ("__ror__", "Return value|self."),
  ("__setattr__", "Implement setattr(self, name, value)."),
  ("__sizeof__", "Size of object in memory, in bytes."),
  ("__str__", "Return str(self)."),
  ("__subclasscheck__", "Check if a class is a subclass."),
  ("__subclasses__", "Return a list of immediate subclasses."),
  ("__subclasshook__", subclassHookDoc),
  ("mro", "Return a type's method resolution order.")]

def rootDoc? (name : String) : Option String :=
  rootDocs.lookup name

end World

namespace Value

def booleanDoc : String :=
  "\n".intercalate [
    "bool(x) -> bool",
    "",
    "Returns True when the argument x is true, False otherwise.",
    "The builtins True and False are the only two instances of the class bool.",
    "The class bool is a subclass of the class int, and cannot be subclassed."]

def integerDoc : String :=
  "\n".intercalate [
    "int([x]) -> integer",
    "int(x, base=10) -> integer",
    "",
    "Convert a number or string to an integer, or return 0 if no arguments",
    "are given.  If x is a number, return x.__int__().  For floating point",
    "numbers, this truncates towards zero.",
    "",
    "If x is not a number or if base is given, then x must be a string,",
    "bytes, or bytearray instance representing an integer literal in the",
    "given base.  The literal can be preceded by '+' or '-' and be surrounded",
    "by whitespace.  The base defaults to 10.  Valid bases are 0 and 2-36.",
    "Base 0 means to interpret the base from the string as an integer literal.",
    ">>> int('0b100', base=0)",
    "4"]

def realDoc : String :=
  "\n".intercalate [
    "Convert a string or number to a floating point number, if possible."]

def textDoc : String :=
  "\n".intercalate [
    "str(object='') -> str",
    "str(bytes_or_buffer[, encoding[, errors]]) -> str",
    "",
    "Create a new string object from the given object. If encoding or",
    "errors is specified, then the object must expose a data buffer",
    "that will be decoded using the given encoding and error handler.",
    "Otherwise, returns the result of object.__str__() (if defined)",
    "or repr(object).",
    "encoding defaults to sys.getdefaultencoding().",
    "errors defaults to 'strict'."]

def listDoc : String :=
  "\n".intercalate [
    "Built-in mutable sequence.",
    "",
    "If no argument is given, the constructor creates a new empty list.",
    "The argument must be an iterable if specified."]

def tupleDoc : String :=
  "\n".intercalate [
    "Built-in immutable sequence.",
    "",
    "If no argument is given, the constructor returns an empty tuple.",
    "If iterable is specified the tuple is initialized from iterable's items.",
    "",
    "If the argument is a tuple, the return value is the same object."]

def dictDoc : String :=
  "\n".intercalate [
    "dict() -> new empty dictionary",
    "dict(mapping) -> new dictionary initialized from a mapping object's",
    "    (key, value) pairs",
    "dict(iterable) -> new dictionary initialized as if via:",
    "    d = \x7b\x7d",
    "    for k, v in iterable:",
    "        d[k] = v",
    "dict(**kwargs) -> new dictionary initialized with the name=value pairs",
    "    in the keyword argument list.  For example:  dict(one=1, two=2)"]

def typeDoc? : Value → Option String
  | .null => none
  | .boolean _ => some booleanDoc
  | .integer _ => some integerDoc
  | .real _ => some realDoc
  | .text _ => some textDoc
  | .list _ => some listDoc
  | .tuple _ => some tupleDoc
  | .dict _ => some dictDoc
  | .other _ => none

end Value

namespace World

def recordDoc : String :=
  "\n".intercalate [
    "A simple attribute-based namespace.",
    "",
    "SimpleNamespace(**kwargs)"]

end World
end RBinding
