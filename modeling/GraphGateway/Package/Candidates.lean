import GraphGateway.Loading.Location
import GraphGateway.Package.Casing

/-!
# Candidates

The identifiers of the modules that may offer an extension of a name in a category: by convention inside a
scope, by convention outside it, the name itself where it may be an identifier, and a path.
-/

namespace GraphGateway.Package

/-- The identifiers that follow from a name and a category by convention. -/
def conventional (scope name category : String) : List String :=
  let name := casedName name
  let category := casedName category
  let after := name ++ "_" ++ category
  let before := category ++ "_" ++ name
  [scope ++ "." ++ name, scope ++ "." ++ after, scope ++ "." ++ before, name, after, before, category]

/-- Whether a name may be an identifier or a path as it is. -/
def hasSeparator (name : String) : Bool :=
  name.toList.any fun c => c = '-' || c = '.' || c = '/'

/-- The identifiers to try for a name in a category, in order, each once. -/
def candidates (scope directory name category : String) : List String :=
  (conventional scope name category ++ (if hasSeparator name then [name] else []) ++
    [Location.absolute directory name]).eraseDups

end GraphGateway.Package
