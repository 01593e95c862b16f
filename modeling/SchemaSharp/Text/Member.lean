/-!
What a template may name about a text besides its characters: its kind, the operations that texts
have, and what texts are said to be. In a filled template kinds and operations show as a description.
-/

namespace SchemaSharp.Text

inductive Member where
  | kind
  | operation (name : String)
  deriving DecidableEq, Repr

def operationNames : List String := [
  "__add__", "__contains__", "__delattr__", "__dir__", "__eq__", "__format__", "__ge__",
  "__getattribute__", "__getitem__", "__getnewargs__", "__getstate__", "__gt__",
  "__hash__", "__init__", "__init_subclass__", "__iter__", "__le__", "__len__", "__lt__",
  "__mod__", "__mul__", "__ne__", "__new__", "__reduce__", "__reduce_ex__", "__repr__",
  "__rmod__", "__rmul__", "__setattr__", "__sizeof__", "__str__", "__subclasshook__",
  "capitalize", "casefold", "center", "count", "encode", "endswith", "expandtabs", "find",
  "format", "format_map", "index", "isalnum", "isalpha", "isascii", "isdecimal", "isdigit",
  "isidentifier", "islower", "isnumeric", "isprintable", "isspace", "istitle", "isupper",
  "join", "ljust", "lower", "lstrip", "maketrans", "partition", "removeprefix",
  "removesuffix", "replace", "rfind", "rindex", "rjust", "rpartition", "rsplit", "rstrip",
  "split", "splitlines", "startswith", "strip", "swapcase", "title", "translate", "upper",
  "zfill"]

def member? (name : String) : Option Member :=
  if name == "__class__" then some .kind
  else if operationNames.contains name then some (.operation name)
  else none

/-- What texts are said to be, in several lines. -/
def documentation : String := "\n".intercalate [
  "str(object='') -> str",
  "str(bytes_or_buffer[, encoding[, errors]]) -> str",
  "",
  "Create a new string object from the given object. If encoding or",
  "errors is specified, then the object must expose a data buffer",
  "that will be decoded using the given encoding and error handler.",
  "Otherwise, returns the result of object.__str__() (if defined)",
  "or repr(object).",
  "encoding defaults to sys.getdefaultencoding().",
  "errors defaults to 'strict'."]

/-- What every text has to say about itself. -/
def textFacts : List (String × String) := [("__doc__", documentation)]

/-- What the kind of a text has to say about itself. -/
def kindFacts : List (String × String) := [
  ("__name__", "str"),
  ("__qualname__", "str"),
  ("__module__", "builtins"),
  ("__doc__", documentation)]

def Member.text : Member → String
  | .kind => "<class 'str'>"
  | .operation name => "<built-in method " ++ name ++ " of str object>"

end SchemaSharp.Text
