import GraphGateway.Schema.Attach
import GraphGateway.TypeSystem.Extend

/-!
# Stitching schemas

Schemas of several sources become one. The fields of their operations are placed side by side on new
types, where a field of a later source takes the place of one of the same name. Every other type is taken
from the first source that defines its name. Documents then extend the result, and resolvers are attached
to it last.
-/

namespace GraphGateway

/-- The name of the type whose fields are the operations of a kind. -/
def Operation.typeName : Operation → String
  | .query => "Query"
  | .mutation => "Mutation"
  | .subscription => "Subscription"

namespace Schema

/-- Put a field under its name; a name keeps its place. -/
def putField (fields : List (String × Field ρ)) (x : String × Field ρ) : List (String × Field ρ) :=
  if fields.any (·.1 = x.1) then fields.map fun y => if y.1 = x.1 then x else y else fields ++ [x]

namespace Registry

def checkOperations (r : Registry) (s : Schema) : Except Fault Unit :=
  (rootTypes s.roots).forM fun id => ((r.type? id).map fun t => checkOperationFields t.body).getD (.ok ())

def operationFields (r : Registry) (sources : List Schema) (operation : Operation) :
    List (String × Field (Option TypeId)) :=
  let fields := sources.flatMap fun s => ((s.root? operation).map r.fieldsOf).getD []
  (fields.map fun x => (x.1, x.2.copied)).foldl putField []

/-- The types of a source that are not its own description and not of its operations. -/
def namedTypes (s : Schema) : List (String × TypeId) :=
  s.types.filter fun t => !isReserved t.1 && !(s.roots.map (·.2)).contains t.2

/-- The named types of all sources, each from the first source that has it. -/
def firstTypes (sources : List Schema) : List (String × TypeId) :=
  (sources.flatMap namedTypes).foldl
    (fun types t => if (types.lookup t.1).isSome then types else types ++ [t]) []

/-- The schema of the operations and named types of all sources. -/
def merged (r : Registry) (sources : List Schema) : Except Fault Schema × Registry :=
  let operations := Operation.all.filterMap fun operation =>
    let fields := r.operationFields sources operation
    if fields.isEmpty then none
    else some (operation, (⟨operation.typeName, .object [] fields⟩ : Registered))
  let roots := (operations.zipIdx r.size).map fun (o, id) => (o.1, id)
  let r := r.add (operations.map (·.2))
  (r.build roots ((firstTypes sources).map (·.2)), r)

def merge (r : Registry) (sources : List Schema) : Except Fault Schema × Registry :=
  match sources.forM r.checkOperations with
  | .error fault => (.error fault, r)
  | .ok _ => r.merged sources

/-- Extend a schema by documents, one after the other. -/
def extendAll (r : Registry) (s : Schema) : List Document → Except Fault Schema × Registry
  | [] => (.ok s, r)
  | d :: rest =>
    match r.extend s d with
    | (.ok s, r) => r.extendAll s rest
    | (.error fault, r) => (.error fault, r)

/-- What stitching gives: a schema, the warnings on the way, and the types. -/
structure Stitched where
  result : Except Fault Schema
  warnings : List String
  registry : Registry

def stitch (r : Registry) (sources : List Schema) (documents : List Document) (resolvers : Value) :
    Stitched :=
  match r.merge sources with
  | (.error fault, r) => ⟨.error fault, [], r⟩
  | (.ok merged, r) =>
    match r.extendAll merged documents with
    | (.error fault, r) => ⟨.error fault, [], r⟩
    | (.ok extended, r) =>
      if resolvers.truthy then
        let a := r.attach extended resolvers
        ⟨a.fault.elim (.ok extended) .error, a.warnings, a.registry⟩
      else ⟨.ok extended, [], r⟩

end Registry

end Schema

end GraphGateway
