import GraphGateway.Introspection.Json
import GraphGateway.Loading.Files

/-!
# Saved introspection

The configuration may name a file that holds the introspection of the sources. A file that is not there
counts as one that holds nothing.
-/

namespace GraphGateway.Introspection

private def pathOf (directory : String) : Value → Except Fault String
  | .text s => .ok (Location.join directory s)
  | .bytes (47 :: rest) =>
    match String.fromUTF8? ⟨(47 :: rest).toArray⟩ with
    | some s => .ok s
    | none => .ok "/\x00"
  | .bytes _ => .error (.misuse .mixedPath)
  | v => .error (.misuse (.notPath v.shortKind))

def saved (t : FileTree) (working directory : String) (config : Value) : Except Fault Value := do
  if !config.truthy then pure (.map [])
  else
    let path := Location.join working (← pathOf directory config)
    match t.place? path with
    | none | some .blocked | some .tooLong => pure (.map [])
    | some .directory => .error (.isDirectory path)
    | some (.file (.text s)) => readJson s
    | some (.file (.module ..)) => .error .notJson

end GraphGateway.Introspection
