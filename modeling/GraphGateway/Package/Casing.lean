import GraphGateway.Text.Snake
import GraphGateway.Value.Entries

/-!
# Cased names

Names of packages and categories are compared in snake case. Only a text has a cased form.
-/

namespace GraphGateway.Package

def casedName (s : String) : String :=
  String.ofList (Text.snake s.toList)

/-- A value as a name, which has to be a text. -/
def nameOf (v : Value) : Except Fault String := do
  Store.empty.checkKey v
  match v with
  | .text s => pure s
  | .bytes _ => .error (.misuse .textPatternOnBytes)
  | v => .error (.misuse (.notText v.kind))

/-- The cased form of a value that should be a name. -/
def casedValue (v : Value) : Except Fault String :=
  (nameOf v).map casedName

end GraphGateway.Package
