import GraphGateway.Value.Basic

/-!
# Members of values

The attributes that values have by their kinds. `Value.methods` are the names of those that are methods, and
`Value.attribute?` gives the other ones. Mappings are asked for their entries instead; of what the host supplies no
more is known than of every value.
-/

namespace GraphGateway.Value

open Number

/-- Whether nothing is asked of a value: of null, of a method or of an object of an unknown kind. -/
def isReticent : Value → Bool
  | .null | .method .. | .other _ | .cut _ | .shared _ | .part .. => true
  | _ => false

/-- Whether the class of a value says what it is. -/
def isDocumented : Value → Bool
  | .ellipsis | .function .. | .factory .. | .made .. => false
  | _ => true

section Methods

private def numberSlots : List String :=
  ["__abs__", "__add__", "__bool__", "__mul__", "__neg__", "__pos__", "__pow__", "__radd__", "__rmul__", "__rpow__",
    "__rsub__", "__rtruediv__", "__sub__", "__truediv__"]

private def realSlots : List String :=
  numberSlots ++ ["__ceil__", "__divmod__", "__float__", "__floor__", "__floordiv__", "__int__", "__mod__",
    "__rdivmod__", "__rfloordiv__", "__rmod__", "__round__", "__trunc__"]

private def integerSlots : List String :=
  realSlots ++ ["__and__", "__index__", "__invert__", "__lshift__", "__or__", "__rand__", "__rlshift__", "__ror__",
    "__rrshift__", "__rshift__", "__rxor__", "__xor__"]

private def sequenceSlots : List String :=
  ["__add__", "__contains__", "__getitem__", "__iter__", "__len__", "__mul__", "__rmul__"]

/-- The special methods that every value has. -/
private def objectSlots : List String :=
  ["__delattr__", "__dir__", "__eq__", "__format__", "__ge__", "__getattribute__", "__getstate__", "__gt__",
    "__init__", "__init_subclass__", "__le__", "__lt__", "__ne__", "__new__", "__reduce__", "__reduce_ex__",
    "__repr__", "__setattr__", "__sizeof__", "__str__", "__subclasshook__"]

/-- The special methods of a value that others do not have. -/
private def ownSlots : Value → List String
  | .bool _ | .int _ => integerSlots ++ ["__getnewargs__", "__hash__"]
  | .real _ => realSlots ++ ["__getformat__", "__getnewargs__", "__hash__"]
  | .imaginary _ => numberSlots ++ ["__complex__", "__getnewargs__", "__hash__"]
  | .text _ | .illFormed _ => sequenceSlots ++ ["__getnewargs__", "__hash__", "__mod__", "__rmod__"]
  | .bytes _ => sequenceSlots ++ ["__bytes__", "__getnewargs__", "__hash__", "__mod__", "__rmod__"]
  | .list _ =>
    sequenceSlots ++ ["__class_getitem__", "__delitem__", "__iadd__", "__imul__", "__reversed__", "__setitem__"]
  | .tuple _ => sequenceSlots ++ ["__class_getitem__", "__getnewargs__", "__hash__"]
  | .error .. | .fieldError .. => ["__hash__", "__setstate__"]
  | .function .. => ["__call__", "__get__", "__hash__"]
  | .factory .. => ["__call__", "__hash__"]
  | .ellipsis | .made .. => ["__hash__"]
  | _ => []

private def textMethods : List String :=
  ["capitalize", "center", "count", "endswith", "expandtabs", "find", "index", "isalnum", "isalpha", "isascii",
    "isdigit", "islower", "isspace", "istitle", "isupper", "join", "ljust", "lower", "lstrip", "maketrans",
    "partition", "removeprefix", "removesuffix", "replace", "rfind", "rindex", "rjust", "rpartition", "rsplit",
    "rstrip", "split", "splitlines", "startswith", "strip", "swapcase", "title", "translate", "upper", "zfill"]

/-- The methods of a value that are no special ones. -/
private def plainMethods : Value → List String
  | .bool _ | .int _ => ["as_integer_ratio", "bit_count", "bit_length", "conjugate", "from_bytes", "to_bytes"]
  | .real _ => ["as_integer_ratio", "conjugate", "fromhex", "hex", "is_integer"]
  | .imaginary _ => ["conjugate"]
  | .text _ | .illFormed _ =>
    textMethods ++ ["casefold", "encode", "format", "format_map", "isdecimal", "isidentifier", "isnumeric",
      "isprintable"]
  | .bytes _ => textMethods ++ ["decode", "fromhex", "hex"]
  | .list _ =>
    ["append", "clear", "copy", "count", "extend", "index", "insert", "pop", "remove", "reverse", "sort"]
  | .tuple _ => ["count", "index"]
  | .error .. | .fieldError .. => ["add_note", "with_traceback"]
  | .factory .. => ["mro"]
  | _ => []

def methods (v : Value) : List String :=
  if v.isReticent then [] else plainMethods v ++ ownSlots v ++ objectSlots

end Methods

section Errors

private def importErrors : List String := ["ImportError", "ModuleNotFoundError"]

private def nameErrors : List String := ["NameError", "UnboundLocalError"]

private def syntaxErrors : List String := ["SyntaxError", "IndentationError", "TabError"]

private def systemErrors : List String :=
  ["OSError", "BlockingIOError", "BrokenPipeError", "ChildProcessError", "ConnectionAbortedError", "ConnectionError",
    "ConnectionRefusedError", "ConnectionResetError", "FileExistsError", "FileNotFoundError", "InterruptedError",
    "IsADirectoryError", "NotADirectoryError", "PermissionError", "ProcessLookupError", "TimeoutError"]

/-- Under which name an error of a kind has its message, too. -/
private def messageName? (kind : String) : Option String :=
  if importErrors.contains kind || syntaxErrors.contains kind then some "msg"
  else if kind = "StopIteration" then some "value"
  else if kind = "SystemExit" then some "code"
  else none

/-- The attributes of errors of a kind that are null, unless they are given. -/
private def detailNames (kind : String) : List String :=
  if importErrors.contains kind then ["name", "path"]
  else if nameErrors.contains kind then ["name"]
  else if kind = "AttributeError" then ["name", "obj"]
  else if syntaxErrors.contains kind then
    ["end_lineno", "end_offset", "filename", "lineno", "offset", "print_file_and_line", "text"]
  else if systemErrors.contains kind then ["errno", "filename", "filename2", "strerror"]
  else []

/-- The part of an error that is the attribute of a name. -/
def errorPart? (v : Value) (name : String) : Option ErrorPart :=
  match v with
  | .error kind _ _ =>
    if name = "args" then some .arguments
    else if messageName? kind = some name then some .message
    else none
  | .fieldError .. =>
    if name = "args" then some .arguments
    else if name = "message" then some .message
    else none
  | _ => none

/-- The attribute of every error, for those of which the history is not known. -/
def historyOf? : String → Option Value
  | "__cause__" | "__context__" | "__traceback__" => some .null
  | "__suppress_context__" => some (.bool false)
  | "__dict__" => some (.map [])
  | _ => none

/-- The attribute of an error of a kind with a given name. -/
def detail? (kind : String) (given : Option String) (name : String) : Option Value :=
  if (detailNames kind).contains name then
    some (if name = "name" then given.elim .null .text else .null)
  else historyOf? name

end Errors

/-- Whether a number is asked for itself. -/
def isItself (v : Value) (name : String) : Bool :=
  match v, name with
  | .int _, "real" | .int _, "numerator" | .real _, "real" => true
  | _, _ => false

def response? (v : Value) (name : String) : Option (String × Value) :=
  match v with
  | .fieldError message _ extensions => if name = "formatted" then some (message, extensions) else none
  | _ => none

def integerMember? (n : Int) : String → Option Value
  | "real" | "numerator" => some (.int n)
  | "imag" => some (.int 0)
  | "denominator" => some (.int 1)
  | _ => none

def complexMember? (re im : Binary64) : String → Option Value
  | "real" => some (.real re)
  | "imag" => some (.real im)
  | _ => none

def fieldErrorMember? (underlying extensions : Value) : String → Option Value
  | "original_error" => some underlying
  | "extensions" => some extensions
  | "locations" | "nodes" | "path" | "positions" | "source" => some .null
  | name => historyOf? name

def recordMember? (fields : List (String × Value)) (name : String) : Option Value :=
  (fields.lookup name).or
    (if name = "__dict__" then some (.map (fields.map fun f => (.text f.1, f.2))) else none)

/-- The attribute of every value, which is described by its class. -/
def described? (v : Value) (name : String) : Option Value :=
  if v.isReticent then none
  else if name = "__class__" then some (.other "type")
  else if name = "__doc__" && v.isDocumented then some (.other "str")
  else none

/-- The attribute of a name that is no method, nor part of an error. -/
def attribute? (v : Value) (name : String) : Option Value :=
  let own := match v with
    | .bool b => integerMember? (if b then 1 else 0) name
    | .int n => integerMember? n name
    | .real x => complexMember? x Binary64.zero name
    | .imaginary x => complexMember? Binary64.zero x name
    | .error kind _ given => detail? kind given name
    | .fieldError _ underlying extensions => fieldErrorMember? underlying extensions name
    | .record fields => recordMember? fields name
    | _ => none
  own.or (described? v name)

end GraphGateway.Value
