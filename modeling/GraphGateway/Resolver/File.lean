import GraphGateway.Loading.Location
import GraphGateway.Loading.Module
import GraphGateway.Path.Read

/-!
# Resolver files

A file gives the resolver map that its module exports: the resolvers of its default export, or the default
export itself if that is a mapping, or its resolvers. A default export that gives no map hides the
resolvers beside it.
-/

namespace GraphGateway.Resolver

/-- The resolver map that a module exports. Null stands for none. -/
def exported (m : Module) : Value :=
  match (m.get "default").toValue with
  | .null => (m.get "resolvers").toValue
  | default =>
    match Store.empty.read default ["resolvers"] with
    | .null => if default.isMapping then default else .null
    | resolvers => resolvers

/-- What loading a resolver file gives: its resolver map, and a warning if there is none. -/
structure Loaded where
  map : Value
  warning : Option String := none

def fileIdentifier (directory path : String) : String :=
  Location.join directory path

/-- The resolver map of a module that was loaded from a path. -/
def loaded (path : String) (m : Module) : Loaded :=
  match exported m with
  | .null => ⟨.map [], some ("Unable to load resolvers from file: " ++ path)⟩
  | map => ⟨map, none⟩

end GraphGateway.Resolver
