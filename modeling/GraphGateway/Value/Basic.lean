import GraphGateway.Number.Binary64

/-!
# Values

The values that a gateway's configuration, its requests and its events consist of. Containers keep the
order in which their entries were put in. A value owns the containers inside it, except behind `shared`,
which refers to a container that other values may refer to as well and that a `Store` holds.
-/

namespace GraphGateway

open Number

/-- The number of a container in a store. -/
abbrev Handle := Nat

/-- The parts that every error has: its message, and the tuple of its arguments, which is the message. -/
inductive ErrorPart where
  | message
  | arguments
  deriving Repr, DecidableEq

/-- A dynamic value. -/
inductive Value where
  | null
  | bool (b : Bool)
  | int (n : Int)
  | real (x : Binary64)
  /-- A multiple of the imaginary unit. -/
  | imaginary (x : Binary64)
  | ellipsis
  | text (s : String)
  /-- A text that holds surrogates, which are code points of no character. -/
  | illFormed (codes : List Nat)
  | bytes (bs : List UInt8)
  | list (items : List Value)
  | tuple (items : List Value)
  /-- Keys and values, no key twice. -/
  | map (entries : List (Value × Value))
  /-- An object with named attributes. -/
  | record (fields : List (String × Value))
  /-- A read-only mapping that came from another schema: its entries, the errors of that schema that no
  path locates, the schema, and the schemas of single fields where they differ. -/
  | external (data : List (Value × Value)) (errors : List Value) (subschema : Value)
      (fieldSubschemas : List (Value × Value))
  /-- An error of a named kind; the name is that of a module that was not found. -/
  | error (kind text : String) (name : Option String)
  /-- An error of a field: its message, the error it stands for, and further data. -/
  | fieldError (message : String) (underlying extensions : Value)
  /-- A function that the host supplies. -/
  | function (id : Nat) (label : String)
  /-- A class that the host supplies: applied to a configuration, it keeps it or fails. -/
  | factory (id : Nat) (name : String) (failure : Option (String × String))
  /-- What a class makes of a configuration. -/
  | made (className : String) (configuration : Value)
  /-- A method bound to its object: something callable of which nothing else is asked. -/
  | method (object : Value) (name : String)
  /-- The variables of the process. -/
  | environment (vars : List (String × String))
  /-- Anything else, of which only the kind is known. -/
  | other (kind : String)
  /-- A container inside itself, where a cyclic value is cut to be shown; it is given without contents. -/
  | cut (container : Value)
  | shared (handle : Handle)
  /-- A part of a shared error. -/
  | part (handle : Handle) (which : ErrorPart)
  deriving Inhabited

namespace Value

/-- The special methods that are functions as other methods are. -/
def specialFunctions : List String :=
  ["__bytes__", "__ceil__", "__class_getitem__", "__complex__", "__dir__", "__floor__", "__format__",
    "__getformat__", "__getnewargs__", "__getstate__", "__init_subclass__", "__new__", "__reduce__",
    "__reduce_ex__", "__reversed__", "__round__", "__setstate__", "__sizeof__", "__subclasshook__", "__trunc__"]

/-- Whether a method is one that stands for an operation of the language. -/
def isWrapper (name : String) : Bool :=
  ['_', '_'].isPrefixOf name.toList && !specialFunctions.contains name

def kind : Value → String
  | .null => "NoneType"
  | .bool _ => "bool"
  | .int _ => "int"
  | .real _ => "float"
  | .imaginary _ => "complex"
  | .ellipsis => "ellipsis"
  | .text _ | .illFormed _ => "str"
  | .bytes _ => "bytes"
  | .list _ => "list"
  | .tuple _ => "tuple"
  | .map _ => "dict"
  | .record _ => "types.SimpleNamespace"
  | .external .. => "ExternalObject"
  | .error kind _ _ => kind
  | .fieldError .. => "GraphQLError"
  | .function .. => "function"
  | .factory .. => "type"
  | .made className _ => className
  | .method _ name => if isWrapper name then "method-wrapper" else "builtin_function_or_method"
  | .environment _ => "_Environ"
  | .other kind => kind
  | .cut container => container.kind
  | .shared _ | .part .. => "object"

/-- The name of a value's kind without that of the module it comes from, as some messages give it. -/
def shortKind : Value → String
  | .record _ => "SimpleNamespace"
  | v => v.kind

def owner : Value → String
  | .factory _ name _ => "type object '" ++ name ++ "'"
  | v => "'" ++ v.kind ++ "' object"

/-- A value that has no elements, as messages speak of it. -/
def bearer : Value → String
  | .factory _ name _ => "type '" ++ name ++ "'"
  | v => "'" ++ v.kind ++ "' object"

/-- Whether a value counts as true: it is neither null, nor false, nor zero, nor empty. -/
def truthy : Value → Bool
  | .null => false
  | .bool b => b
  | .int n => n ≠ 0
  | .real x | .imaginary x => !x.isZero
  | .text s => !s.isEmpty
  | .bytes bs => !bs.isEmpty
  | .list items | .tuple items => !items.isEmpty
  | .map entries => !entries.isEmpty
  | .external data _ _ _ => !data.isEmpty
  | .environment vars => !vars.isEmpty
  | _ => true

def entries? : Value → Option (List (Value × Value))
  | .map entries => some entries
  | .external data _ _ _ => some data
  | .environment vars => some (vars.map fun v => (.text v.1, .text v.2))
  | _ => none

def isMapping (v : Value) : Bool :=
  v.entries?.isSome

def isError : Value → Bool
  | .error .. | .fieldError .. => true
  | _ => false

def callable : Value → Bool
  | .function .. | .factory .. | .method .. => true
  | _ => false

/-- An error of a field. Without data of its own it takes the mapping of the error it stands for; data that
counts as false is an empty mapping. -/
def ofFieldError (message : String) (underlying extensions : Value) : Value :=
  let data := match extensions, underlying with
    | .null, .fieldError _ _ (.map entries) => .map entries
    | data, _ => data
  .fieldError message underlying (if data.truthy then data else .map [])

/-- Whether a value is one of those of which there is only one: a constant, a small integer, or a text or
bytes of at most one element, which is a character of Latin-1. -/
def isCommon : Value → Bool
  | .null | .bool _ | .ellipsis => true
  | .int n => -5 ≤ n && n ≤ 256
  | .text s => s.length ≤ 1 && s.toList.all (·.toNat < 256)
  | .bytes bs => bs.length ≤ 1
  | _ => false

/-- Whether a value may be one of several alike that are told apart by identity alone, although there is nothing in
it that could change: a scalar that is not one of its kind, or an object of which only the kind is known, or the
class, or the method. -/
def isSingular : Value → Bool
  | .int n => !(Value.int n).isCommon
  | .text s => !(Value.text s).isCommon
  | .bytes bs => !(Value.bytes bs).isCommon
  | .real _ | .imaginary _ | .illFormed _ | .other _ | .made .. | .method .. | .cut _ => true
  | _ => false

def errorPart (which : ErrorPart) : Value → Value
  | .error _ message _ | .fieldError message _ _ =>
    match which with
    | .message => .text message
    | .arguments => .tuple [.text message]
  | _ => .null

/-- A container without its contents. -/
def emptied : Value → Value
  | .list _ => .list []
  | .tuple _ => .tuple []
  | .record _ => .record []
  | .external _ errors subschema _ => .external [] errors subschema []
  | _ => .map []

/-- Whether a code point is a surrogate. -/
def isSurrogate (code : Nat) : Bool :=
  0xD800 ≤ code && code < 0xE000

def ofCodes (codes : List Nat) : Value :=
  if codes.any isSurrogate then .illFormed codes else .text (String.ofList (codes.map Char.ofNat))

def codes? : Value → Option (List Nat)
  | .text s => some (s.toList.map Char.toNat)
  | .illFormed codes => some codes
  | _ => none

mutual

/-- Replace every shared container in a value. -/
def mapShared (f : Handle → Value) : Value → Value
  | .list items => .list (mapSharedItems f items)
  | .tuple items => .tuple (mapSharedItems f items)
  | .map entries => .map (mapSharedEntries f entries)
  | .record fields => .record (mapSharedFields f fields)
  | .external data errors subschema fieldSubschemas =>
    .external (mapSharedEntries f data) (mapSharedItems f errors) (mapShared f subschema)
      (mapSharedEntries f fieldSubschemas)
  | .fieldError message underlying extensions =>
    .fieldError message (mapShared f underlying) (mapShared f extensions)
  | .made className configuration => .made className (mapShared f configuration)
  | .method object name => .method (mapShared f object) name
  | .shared h => f h
  | .part h which => (f h).errorPart which
  | v => v

def mapSharedItems (f : Handle → Value) : List Value → List Value
  | [] => []
  | v :: rest => mapShared f v :: mapSharedItems f rest

def mapSharedEntries (f : Handle → Value) : List (Value × Value) → List (Value × Value)
  | [] => []
  | (k, v) :: rest => (mapShared f k, mapShared f v) :: mapSharedEntries f rest

def mapSharedFields (f : Handle → Value) : List (String × Value) → List (String × Value)
  | [] => []
  | (k, v) :: rest => (k, mapShared f v) :: mapSharedFields f rest

end

mutual

def depth : Value → Nat
  | .list items | .tuple items => depthItems items + 1
  | .map entries => depthEntries entries + 1
  | .record fields => depthFields fields + 1
  | .external data errors subschema fieldSubschemas =>
    max (max (depthEntries data) (depthItems errors))
      (max (depth subschema) (depthEntries fieldSubschemas)) + 1
  | .fieldError _ underlying extensions => max (depth underlying) (depth extensions) + 1
  | .made _ v | .method v _ => depth v + 1
  | _ => 0

def depthItems : List Value → Nat
  | [] => 0
  | v :: rest => max (depth v) (depthItems rest)

def depthEntries : List (Value × Value) → Nat
  | [] => 0
  | (k, v) :: rest => max (max (depth k) (depth v)) (depthEntries rest)

def depthFields : List (String × Value) → Nat
  | [] => 0
  | (_, v) :: rest => max (depth v) (depthFields rest)

end

end Value

end GraphGateway
