import GraphGateway.Delegation.Retag
import GraphGateway.Path.Read

/-!
# Returned data

The value of a field is found along a path in what a source returned. A value from inside an external
object loses its tag on the way, and is tagged again with what the object knows: its errors, and the
schema it records for the field.
-/

namespace GraphGateway.Delegation

/-- The name of a field in a request, and the other name that its result goes by. -/
structure FieldName where
  name : String
  otherName : Option String

/-- The key of a field in the result: its alias unless that is empty, else its name. -/
def FieldName.responseKey (f : FieldName) : String :=
  match f.otherName with
  | some a => if a.isEmpty then f.name else a
  | none => f.name

/-- The schema that an external object records for a response key. -/
def subschemaFor (subschema : Value) (fieldSubschemas : List (Value × Value)) (key : String) : Value :=
  (Value.lookup key fieldSubschemas).getD subschema

/-- What was found: a value to return as it is, or one to tag first. -/
inductive Extraction where
  | plain (v : Value)
  | inside (v : Value) (errors : List Value) (subschema : Value)

def Extraction.value : Extraction → Value
  | .plain v => v
  | .inside v errors subschema => retag errors subschema v

/-- Find the value along a path. An error is not looked into, and an error of a field gives way to the
error that it stands for. -/
def extract (source path : Value) (responseKey : String) : Except Fault Extraction := do
  let found ←
    if source.isError || !path.truthy then pure source
    else pure (Store.empty.readOr source (← Store.empty.pathKeys path) .null)
  match found with
  | .fieldError message underlying extensions =>
    pure (.plain (match underlying with | .null => .fieldError message underlying extensions | e => e))
  | .external .. => pure (.plain found)
  | found =>
    match source with
    | .external _ errors subschema fieldSubschemas =>
      pure (.inside found errors (subschemaFor subschema fieldSubschemas responseKey))
    | _ => pure (.plain found)

/-- The value along a path, tagged where it was inside an external object. -/
def returnData (source path : Value) (responseKey : String) : Except Fault Value :=
  (extract source path responseKey).map (·.value)

/-- The values that tagging comes to when data is returned. -/
def Extraction.visits (type : Option TypeRef) : Extraction → List Visit
  | .plain _ => []
  | .inside v errors subschema => (tag errors subschema type v).visits

end GraphGateway.Delegation
