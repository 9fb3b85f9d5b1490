import GraphGateway.TypeSystem.Basic

/-!
# Registries

A registry holds types under numbers. A schema is made from some types and takes in all types that can be
reached from them; no two of those may have the same name.
-/

namespace GraphGateway.Schema

/-- A step on the way through all types that can be reached: to a type and the types that it is built on,
and then to its fields and the types of those. -/
inductive Visit where
  | type (id : TypeId)
  | fields (id : TypeId)
  deriving Repr, DecidableEq

def Visit.type? : Visit → Option TypeId
  | .type id => some id
  | .fields _ => none

/-- Types under numbers. -/
structure Registry where
  types : List Registered := []

namespace Registry

def size (r : Registry) : Nat := r.types.length

def type? (r : Registry) (id : TypeId) : Option Registered := r.types[id]?

def nameOf (r : Registry) (id : TypeId) : String :=
  ((r.type? id).map (·.name)).getD ""

def fieldsOf (r : Registry) (id : TypeId) : List (String × Field (Option TypeId)) :=
  ((r.type? id).map (·.body.fields)).getD []

def bases (r : Registry) (id : TypeId) : List TypeId :=
  ((r.type? id).map fun t => t.body.bases.filterMap (·)).getD []

def fieldLinks (r : Registry) (id : TypeId) : List TypeId :=
  (r.fieldsOf id).flatMap fun x => x.2.links.filterMap (·)

def add (r : Registry) (types : List Registered) : Registry :=
  ⟨r.types ++ types⟩

def modifyField (r : Registry) (id : TypeId) (name : String)
    (f : Field (Option TypeId) → Field (Option TypeId)) : Registry :=
  let change := fun (fields : List (String × Field (Option TypeId))) =>
    fields.map fun x => if x.1 = name then (x.1, f x.2) else x
  ⟨r.types.modify id fun t => { t with body := t.body.mapFields change }⟩

/-- Register types that refer by names to each other and to types that are known. Gives the numbers of
the new ones by their names. A known type goes before a new one of its name. -/
def declare (r : Registry) (known : List (String × TypeId)) (definitions : List Definition) :
    List (String × TypeId) × Registry :=
  let own := (definitions.zipIdx r.size).map fun d => (d.1.name, d.2)
  (own, r.add (definitions.map fun d => d.map fun name => (known ++ own).lookup name))

/-- Add to the visits those of one more type and of the types that can be reached from it, going no deeper
than the fuel allows. -/
def visitFrom (r : Registry) : Nat → List Visit → TypeId → List Visit
  | 0, visits, _ => visits
  | fuel + 1, visits, id =>
    if visits.contains (.type id) then visits
    else
      let visits := (r.bases id).foldl (visitFrom r fuel) (visits ++ [.type id])
      (r.fieldLinks id).foldl (visitFrom r fuel) (visits ++ [.fields id])

/-- The visits of listed types and then of others, with all that can be reached from them. Every listed
type comes in its turn, before those that only it leads to. Each step down reaches a new type, so the depth
is at most the number of types. -/
def visits (r : Registry) (listed others : List TypeId) : List Visit :=
  let turn := fun visits id => r.visitFrom r.size (visits.erase (.type id)) id
  others.foldl (r.visitFrom r.size) (listed.foldl turn (listed.map .type))

def reach (r : Registry) (listed others : List TypeId) : List TypeId :=
  (r.visits listed others).filterMap Visit.type?

def repeated? : List String → List String → Option String
  | _, [] => none
  | seen, name :: rest => if seen.contains name then some name else repeated? (name :: seen) rest

/-- The types of operations, in the order in which they are reached. -/
def rootTypes (roots : List (Operation × TypeId)) : List TypeId :=
  Operation.all.filterMap (roots.lookup ·)

def schema (r : Registry) (roots : List (Operation × TypeId)) (listed : List TypeId)
    (description : List TypeId) : Except Fault Schema :=
  let ids := r.reach listed (rootTypes roots ++ description)
  match repeated? [] (ids.map r.nameOf) with
  | some name => .error (.misuse (.duplicateType name))
  | none => .ok { roots, types := ids.map fun id => (r.nameOf id, id) }

end Registry

end GraphGateway.Schema
