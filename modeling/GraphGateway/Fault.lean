import GraphGateway.Value.Text

/-!
# Faults

Why an operation fails, by cause. `Fault.message` is the wording and `Fault.kind` the name of the sort
of failure, as both appear when a failure is reported.
-/

namespace GraphGateway

open Text

/-- Why a field of a type cannot be made. -/
inductive FieldDefect where
  /-- An argument has a type that is given to no argument. -/
  | argumentType
  /-- A field has a type that no field answers. -/
  | fieldType
  /-- The further data of a field is no mapping of texts. -/
  | fieldData
  /-- A field of an input has a type that is given to no argument. -/
  | inputFieldType
  | inputFieldData
  deriving Repr, DecidableEq

/-- A value of a kind for which an operation is not defined. -/
inductive Misuse where
  | notIterable (kind : String)
  /-- Membership was asked of something that is no container. -/
  | notContainer (kind : String)
  | notSubscriptable (bearer : String)
  | notCallable (kind : String)
  | notAssignable (kind : String)
  | unhashable (kind : String)
  | notOrdered (operator left right : String)
  | notNegatable (kind : String)
  /-- A sequence is indexed by something that is no integer. -/
  | badIndex (sequence kind : String)
  | badTextIndex (kind : String)
  | badSubtext (kind : String)
  | notBytes (kind : String)
  /-- A text pattern is applied to something that is no text. -/
  | notText (kind : String)
  | textPatternOnBytes
  | notPath (kind : String)
  /-- A variable of the process is set to something that is no text. -/
  | notVariable (kind : String)
  /-- A path is continued by something that is no path. -/
  | notPathPart (kind : String)
  /-- A path of bytes continues one of text. -/
  | mixedPath
  /-- An element of an update is no pair, nor a sequence at all. -/
  | badUpdateElement (position : Nat)
  | badAttributeName (kind : String)
  | badLevel (written : String)
  | relativeModule (name : String)
  /-- A reader that takes one payload was given two. -/
  | twoPayloads
  /-- An argument of a function is given both by its place and by its name. -/
  | givenTwice (function argument : String)
  /-- Arguments are named by something that is no text. -/
  | badArgumentName
  /-- A function is given an argument that it does not have. -/
  | unknownArgument (function argument : String)
  /-- Entries are taken over from something that is no mapping. -/
  | notMapping (kind : String)
  /-- Two types of one name in a schema. -/
  | duplicateType (name : String)
  /-- A part of a schema that cannot be extended. -/
  | badExtension (message : String)
  | badField (defect : FieldDefect)
  /-- A union has members that are no object types. -/
  | badMembers (type : String)
  /-- A type has interfaces that are no interface types. -/
  | badInterfaces (type : String)
  deriving Repr, DecidableEq

/-- The reason for which an operation fails. -/
inductive Fault where
  /-- A function of the host failed. -/
  | raised (kind text : String) (name : Option String)
  | misuse (cause : Misuse)
  | missingAttribute (owner name : String)
  | missingKey (key : Value)
  | outOfRange (sequence : String)
  | indexTooLarge
  | byteOutOfRange
  /-- A list would get longer than an index may be. -/
  | lengthTooLarge
  | outOfMemory
  /-- An integer beyond the doubles is added to one. -/
  | integerTooLarge
  | emptyPath
  /-- A list was given a key that is no index. -/
  | notAnIndex (key : String)
  | notANumeral (text : String)
  | numeralTooLong (digits : Nat)
  /-- An element of an update has the wrong length. -/
  | badUpdateLength (position length : Nat)
  | nullCharacter
  /-- A null stands in a name or value of the system. -/
  | embeddedNull
  | badVariableName
  | filterSyntax (message : String)
  /-- A filter fails, which is written in messages as `source`. -/
  | filterEvaluation (source : String) (cause : Fault)
  /-- An expression outside the filter language is evaluated. -/
  | unsupportedExpression (kind : String)
  | capacity (limit topic : String)
  | packageNotFound (category name : String)
  | packageLoad (category name : String) (cause : Fault)
  | moduleNotFound (identifier message : String)
  | emptyModuleName
  /-- A module cannot be read from a line on. -/
  | brokenModule (file : String) (line : Nat)
  | nameTooLong (path : String)
  | fileNotFound (path : String)
  | isDirectory (path : String)
  | notADirectory (path : String)
  | notJson
  | negativeSize
  | entryTooLarge
  | unknownLevel (name : String)
  | nestedTooDeep
  /-- A text of JSON nests too deep at a container of a kind. -/
  | jsonTooDeep (container : String)
  /-- The fields of a type cannot be made. -/
  | badFields (type : String) (cause : Fault)
  /-- A task fails in a way that means elsewhere that an iteration has ended. -/
  | endedTask (cause : Fault)
  deriving Inhabited

def FieldDefect.message : FieldDefect → String
  | .argumentType => "Argument type must be a GraphQL input type."
  | .fieldType => "Field type must be an output type."
  | .fieldData => "Field extensions must be a dictionary with string keys."
  | .inputFieldType => "Input field type must be a GraphQL input type."
  | .inputFieldData => "Input field extensions must be a dictionary with string keys."

namespace Misuse

def message : Misuse → String
  | .notIterable k => "'" ++ k ++ "' object is not iterable"
  | .notContainer k => "argument of type '" ++ k ++ "' is not iterable"
  | .notSubscriptable bearer => bearer ++ " is not subscriptable"
  | .notCallable k => "'" ++ k ++ "' object is not callable"
  | .notAssignable k => "'" ++ k ++ "' object does not support item assignment"
  | .unhashable k => "unhashable type: '" ++ k ++ "'"
  | .notOrdered operator a b =>
    "'" ++ operator ++ "' not supported between instances of '" ++ a ++ "' and '" ++ b ++ "'"
  | .notNegatable k => "bad operand type for unary -: '" ++ k ++ "'"
  | .badIndex sequence k => sequence ++ " indices must be integers or slices, not " ++ k
  | .badTextIndex k => "string indices must be integers, not '" ++ k ++ "'"
  | .badSubtext k => "'in <string>' requires string as left operand, not " ++ k
  | .notBytes k => "a bytes-like object is required, not '" ++ k ++ "'"
  | .notText k => "expected string or bytes-like object, got '" ++ k ++ "'"
  | .textPatternOnBytes => "cannot use a string pattern on a bytes-like object"
  | .notVariable k => "str expected, not " ++ k
  | .notPath k => "expected str, bytes or os.PathLike object, not " ++ k
  | .notPathPart k => "join() argument must be str, bytes, or os.PathLike object, not '" ++ k ++ "'"
  | .mixedPath => "Can't mix strings and bytes in path components"
  | .badUpdateElement n =>
    "cannot convert dictionary update sequence element #" ++ toString n ++ " to a sequence"
  | .badAttributeName k => "attribute name must be string, not '" ++ k ++ "'"
  | .badLevel written => "Level not an integer or a valid string: " ++ written
  | .relativeModule name =>
    "the 'package' argument is required to perform a relative import for " ++ quoted name
  | .twoPayloads =>
    "PubSubAsyncIterator._push() takes 2 positional arguments but 3 were given"
  | .givenTwice function argument =>
    function ++ "() got multiple values for argument '" ++ argument ++ "'"
  | .badArgumentName => "keywords must be strings"
  | .unknownArgument function argument =>
    function ++ "() got an unexpected keyword argument '" ++ argument ++ "'"
  | .notMapping k => "'" ++ k ++ "' object is not a mapping"
  | .duplicateType name =>
    "Schema must contain uniquely named types but contains multiple types named '" ++ name ++ "'."
  | .badExtension message => message
  | .badField defect => defect.message
  | .badMembers type =>
    type ++ " types must be specified as a collection of GraphQLObjectType instances."
  | .badInterfaces type =>
    type ++ " interfaces must be specified as a collection of GraphQLInterfaceType instances."

end Misuse

namespace Fault

def kind : Fault → String
  | .raised kind _ _ => kind
  | .misuse _ | .badFields .. => "TypeError"
  | .missingAttribute .. => "AttributeError"
  | .missingKey _ => "KeyError"
  | .outOfRange _ | .indexTooLarge => "IndexError"
  | .lengthTooLarge | .integerTooLarge => "OverflowError"
  | .outOfMemory => "MemoryError"
  | .byteOutOfRange | .emptyPath | .notAnIndex _ | .notANumeral _ | .numeralTooLong _
  | .badUpdateLength .. | .nullCharacter | .embeddedNull | .badVariableName | .emptyModuleName
  | .negativeSize | .entryTooLarge | .unknownLevel _ => "ValueError"
  | .filterSyntax _ => "FilterSyntaxError"
  | .filterEvaluation .. | .unsupportedExpression _ => "FilterEvaluationError"
  | .capacity .. => "PubSubCapacityError"
  | .packageNotFound .. => "PackageNotFoundError"
  | .packageLoad .. => "PackageLoadError"
  | .moduleNotFound .. => "ModuleNotFoundError"
  | .brokenModule .. => "SyntaxError"
  | .nameTooLong _ => "OSError"
  | .fileNotFound _ => "FileNotFoundError"
  | .isDirectory _ => "IsADirectoryError"
  | .notADirectory _ => "NotADirectoryError"
  | .notJson => "JSONDecodeError"
  | .nestedTooDeep | .jsonTooDeep _ => "RecursionError"
  | .endedTask _ => "RuntimeError"

def message : Fault → String
  | .raised kind text name => (Value.error kind text name).toText
  | .misuse cause => cause.message
  | .missingAttribute owner name => owner ++ " has no attribute '" ++ name ++ "'"
  | .missingKey key => key.written
  | .outOfRange "bytes" => "index out of range"
  | .outOfRange sequence => sequence ++ " index out of range"
  | .indexTooLarge | .lengthTooLarge => "cannot fit 'int' into an index-sized integer"
  | .outOfMemory => ""
  | .integerTooLarge => "int too large to convert to float"
  | .byteOutOfRange => "byte must be in range(0, 256)"
  | .emptyPath => "Path must contain an element"
  | .notAnIndex key => "List index expected, got " ++ quoted key
  | .notANumeral text =>
    "invalid literal for int() with base 10: " ++ String.ofList ((quoted text).toList.take 200)
  | .numeralTooLong digits =>
    "Exceeds the limit (4300 digits) for integer string conversion: value has " ++
      toString digits ++ " digits; use sys.set_int_max_str_digits() to increase the limit"
  | .badUpdateLength position length =>
    "dictionary update sequence element #" ++ toString position ++ " has length " ++
      toString length ++ "; 2 is required"
  | .nullCharacter => "source code string cannot contain null bytes"
  | .embeddedNull => "embedded null byte"
  | .badVariableName => "illegal environment variable name"
  | .filterSyntax message => message
  | .filterEvaluation source cause => "Filter " ++ source ++ " failed: " ++ cause.message
  | .unsupportedExpression kind => "Unsupported expression: " ++ kind
  | .capacity limit topic =>
    "Subscriber limit of " ++ limit ++ " reached, unable to subscribe to " ++ topic
  | .packageNotFound category name => "Unable to find " ++ category ++ " matching " ++ name
  | .packageLoad category name cause =>
    "Unable to load " ++ category ++ " matching " ++ name ++ ": " ++ cause.message
  | .moduleNotFound _ message => message
  | .emptyModuleName => "Empty module name"
  | .brokenModule file line => "invalid syntax (" ++ file ++ ", line " ++ toString line ++ ")"
  | .nameTooLong path => "[Errno 36] File name too long: " ++ quoted path
  | .fileNotFound path => "[Errno 2] No such file or directory: " ++ quoted path
  | .isDirectory path => "[Errno 21] Is a directory: " ++ quoted path
  | .notADirectory path => "[Errno 20] Not a directory: " ++ quoted path
  | .notJson => "the text is not JSON"
  | .negativeSize => "maxsize must be non-negative"
  | .entryTooLarge => "value too large"
  | .unknownLevel name => "Unknown level: " ++ quoted name
  | .nestedTooDeep => "maximum recursion depth exceeded"
  | .jsonTooDeep container =>
    "maximum recursion depth exceeded while decoding a JSON " ++ container ++ " from a unicode string"
  | .badFields type cause => type ++ " fields cannot be resolved. " ++ cause.message
  | .endedTask _ => "coroutine raised StopIteration"

def cause? : Fault → Option Fault
  | .filterEvaluation _ cause => some cause
  | .packageLoad _ _ cause => some cause
  | .badFields _ cause => some cause
  | .endedTask cause => some cause
  | _ => none

def missingModule? : Fault → Option String
  | .raised "ModuleNotFoundError" _ name => name.filter (! ·.isEmpty)
  | .moduleNotFound identifier _ => if identifier.isEmpty then none else some identifier
  | _ => none

/-- A failure as a task reports it. -/
def ofTask : Fault → Fault
  | .raised "StopIteration" text name => .endedTask (.raised "StopIteration" text name)
  | f => f

/-- Whether a failure of a read means that there is nothing more to read. -/
def endsReading : Fault → Bool
  | .raised "StopAsyncIteration" _ _ => true
  | _ => false

def toValue (f : Fault) : Value :=
  match f with
  | .raised kind text name => .error kind text name
  | .moduleNotFound identifier message => .error "ModuleNotFoundError" message (some identifier)
  | f => .error f.kind f.message none

end Fault

end GraphGateway
