import GraphGateway.Number.Shortest
import GraphGateway.Text.Quoted
import GraphGateway.Store

/-!
# The text of values

`Value.written` is how a value stands inside another one; `Value.toText` is how it stands inside a text,
where a text is itself and an error is its message.
-/

namespace GraphGateway

open Text

namespace Value

def commas : List String → String
  | [] => ""
  | [s] => s
  | s :: rest => s ++ ", " ++ commas rest

def braced (s : String) : String :=
  "\x7b" ++ s ++ "\x7d"

def quotedCodes (codes : List Nat) : String :=
  let quote := quoteFor (codes.map Char.ofNat)
  String.ofList (quote :: codes.flatMap (fun code =>
    if isSurrogate code then ['\\', 'u'] ++ hex 4 code else escape quote (Char.ofNat code)) ++ [quote])

/-- The written form of an external object, from those of its entries and its schema. -/
private def externalText (entries : String) (errors : Nat) (subschema : String) : String :=
  "ExternalObject(" ++ entries ++ ", errors=" ++ toString errors ++ ", subschema=" ++ subschema ++ ")"

/-- The imaginary part of a number, without a fraction that is zero. -/
private def imaginaryText (s : String) : String :=
  (if s.endsWith ".0" then String.ofList (s.toList.take (s.length - 2)) else s) ++ "j"

mutual

/-- A value as it is written inside another one. -/
def written : Value → String
  | .null => "None"
  | .bool true => "True"
  | .bool false => "False"
  | .int n => toString n
  | .real x => x.text
  | .imaginary x => imaginaryText x.text
  | .ellipsis => "Ellipsis"
  | .text s => quoted s
  | .illFormed codes => quotedCodes codes
  | .bytes bs => quotedBytes bs
  | .list items => "[" ++ commas (writtenItems items) ++ "]"
  | .tuple [v] => "(" ++ written v ++ ",)"
  | .tuple items => "(" ++ commas (writtenItems items) ++ ")"
  | .map entries => braced (commas (writtenEntries entries))
  | .record fields => "namespace(" ++ commas (writtenFields fields) ++ ")"
  | .external data errors subschema _ =>
    externalText (braced (commas (writtenEntries data))) errors.length (written subschema)
  | .error kind message _ => kind ++ "(" ++ quoted message ++ ")"
  | .fieldError message _ (.map []) => "GraphQLError(" ++ quoted message ++ ")"
  | .fieldError message _ extensions =>
    "GraphQLError(" ++ quoted message ++ ", extensions=" ++ written extensions ++ ")"
  | .function _ label => "<function " ++ label ++ ">"
  | .factory _ name _ => "<class '" ++ name ++ "'>"
  | .made className _ => "<" ++ className ++ " object>"
  | .method object name => "<built-in method " ++ name ++ " of " ++ object.kind ++ " object>"
  | .environment vars =>
    "environ(" ++ braced (commas (vars.map fun v => quoted v.1 ++ ": " ++ quoted v.2)) ++ ")"
  | .other kind => "<" ++ kind ++ " object>"
  | .cut (.list _) => "[...]"
  | .cut (.tuple _) => "(...)"
  | .cut (.record _) => "namespace(...)"
  | .cut (.external _ errors subschema _) => externalText (braced "...") errors.length (written subschema)
  | .cut _ => braced "..."
  | .shared _ | .part .. => "<shared>"

def writtenItems : List Value → List String
  | [] => []
  | v :: rest => written v :: writtenItems rest

def writtenEntries : List (Value × Value) → List String
  | [] => []
  | (k, v) :: rest => (written k ++ ": " ++ written v) :: writtenEntries rest

def writtenFields : List (String × Value) → List String
  | [] => []
  | (k, v) :: rest => if k.isEmpty then writtenFields rest else (k ++ "=" ++ written v) :: writtenFields rest

end

/-- A value as a text of its own. -/
def toText : Value → String
  | .text s => s
  | .error kind message _ => if kind = "KeyError" then quoted message else message
  | .fieldError message _ _ => message
  | v => v.written

end Value

def Store.text (st : Store) (v : Value) : String :=
  (st.snapshot v).toText

end GraphGateway
