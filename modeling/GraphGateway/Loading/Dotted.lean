import GraphGateway.Loading.Module
import GraphGateway.Text.Quoted

/-!
# Modules by dotted names

The modules that are installed under dotted names. A name is looked up part by part: every module on the
way has to be installed, and all but the last have to hold other modules.
-/

namespace GraphGateway.Dotted

open Text

def gateway : String := "meshwire"

/-- The installed modules that hold other modules, with the names of those. -/
def packages : List (String × List String) :=
  [(gateway, ["cache_inmemory_lru", "cli", "config", "exceptions", "gql", "log", "merger_stitching",
      "plugins", "text_utils", "types", "utils"]),
    (gateway ++ ".gql", ["alias", "delegate", "filters", "interpolation", "merger", "resolvers"]),
    (gateway ++ ".plugins", ["cache", "loader", "packages", "pubsub"]),
    (gateway ++ ".text_utils", ["casing"]),
    ("json", ["decoder", "encoder", "scanner", "tool"]),
    ("collections", ["abc"])]

/-- The exports of installed modules that the gateway makes use of. -/
def exports : String → List (String × Export)
  | "meshwire.merger_stitching" =>
    [("default", .stitchingMerger), ("stitching_merger", .stitchingMerger)]
  | "meshwire.gql.merger" => [("stitching_merger", .stitchingMerger)]
  | "meshwire.cache_inmemory_lru" => [("default", .createCache), ("create_cache", .createCache)]
  | _ => []

def parts : List Char → List (List Char)
  | [] => [[]]
  | c :: rest =>
    match parts rest with
    | [] => [[c]]
    | part :: more => if c = '.' then [] :: part :: more else (c :: part) :: more

private def isTop (name : String) : Bool :=
  (packages.lookup name).isSome && !name.toList.contains '.'

private def inside (parent : String) : List (List Char) → Except Fault String
  | [] => .ok parent
  | part :: rest =>
    let name := parent ++ "." ++ String.ofList part
    match packages.lookup parent with
    | none =>
      .error (.moduleNotFound name
        ("No module named " ++ quoted name ++ "; " ++ quoted parent ++ " is not a package"))
    | some children =>
      if children.contains (String.ofList part) then inside name rest
      else .error (.moduleNotFound name ("No module named " ++ quoted name))

/-- Import a module by its dotted name. -/
def load (name : String) : Except Fault Module :=
  match name.toList with
  | [] => .error .emptyModuleName
  | '.' :: _ => .error (.misuse (.relativeModule name))
  | chars =>
    match parts chars with
    | [] => .error .emptyModuleName
    | top :: rest =>
      let top := String.ofList top
      if isTop top then (inside top rest).map fun found => { name := found, exports := exports found }
      else .error (.moduleNotFound top ("No module named " ++ quoted top))

end GraphGateway.Dotted
