import GraphGateway.Fault
import GraphGateway.TypeSystem.TypeRef

/-!
# Types of schemas

The types of a schema refer to each other, also in circles, so that they are kept in a registry under
numbers. Several schemas may hold the same type. How a type refers to others is a parameter `ρ` of its
definition: by names before it is registered, by numbers in a registry.

Stitching takes for granted what these modules say of types and schemas, and they know nothing of stitching:

* A schema holds all types that can be reached from those it is given, in the order of `Registry.visits`, and the
  ones that every schema has (`Standard.required`).
* No two types of a schema have one name; where two would, there is no schema (`Registry.schema`).
* A schema holds the very types that it is given and no copies of them, so that a change of a field
  (`Registry.modifyField`) shows in every schema that holds the type.
* A schema that is extended is a schema of copies (`Registry.extended`), or the same one if nothing is added.
* New types are checked where they are reached (`Registry.checkVisit`), and a field as it is made
  (`checkOperationFields`).
-/

namespace GraphGateway

inductive Operation where
  | query
  | mutation
  | subscription
  deriving Repr, DecidableEq, Inhabited

namespace Operation

def all : List Operation := [.query, .mutation, .subscription]

def name : Operation → String
  | .query => "query"
  | .mutation => "mutation"
  | .subscription => "subscription"

end Operation

namespace Schema

/-- The number of a type in a registry. -/
abbrev TypeId := Nat

/-- A reference to a type as it is written, and the type that it leads to. -/
structure Link (ρ : Type) where
  written : TypeRef
  target : ρ

/-- A field: its type and arguments, the functions that give its value and its events, and further data. -/
structure Field (ρ : Type) where
  type : Link ρ
  arguments : List (String × Link ρ) := []
  resolve : Value := .null
  subscribe : Value := .null
  extensions : Value := .map []

/-- What a type consists of. -/
inductive Body (ρ : Type) where
  | scalar
  | object (interfaces : List ρ) (fields : List (String × Field ρ))
  | interface (interfaces : List ρ) (fields : List (String × Field ρ))
  | union (members : List ρ)
  | enum (values : List String)
  | input (fields : List (String × Field ρ))

structure TypeDef (ρ : Type) where
  name : String
  body : Body ρ

/-- A type that refers to others by their names. -/
abbrev Definition := TypeDef String

/-- A type in a registry; a reference to a type that does not exist leads nowhere. -/
abbrev Registered := TypeDef (Option TypeId)

def Link.map (f : α → β) (l : Link α) : Link β :=
  ⟨l.written, f l.target⟩

def Field.map (f : α → β) (x : Field α) : Field β :=
  { x with type := x.type.map f, arguments := x.arguments.map fun a => (a.1, a.2.map f) }

/-- The types that a field refers to: its own, then those of its arguments. -/
def Field.links (x : Field ρ) : List ρ :=
  x.type.target :: x.arguments.map (·.2.target)

/-- A field as it is taken over into a new type, where no further data is the same as empty data. -/
def Field.copied (x : Field ρ) : Field ρ :=
  match x.extensions with
  | .null => { x with extensions := .map [] }
  | _ => x

namespace Body

def map (f : α → β) : Body α → Body β
  | .scalar => .scalar
  | .object interfaces fields => .object (interfaces.map f) (fields.map fun x => (x.1, x.2.map f))
  | .interface interfaces fields =>
    .interface (interfaces.map f) (fields.map fun x => (x.1, x.2.map f))
  | .union members => .union (members.map f)
  | .enum values => .enum values
  | .input fields => .input (fields.map fun x => (x.1, x.2.map f))

def fields? : Body ρ → Option (List (String × Field ρ))
  | .object _ fields | .interface _ fields | .input fields => some fields
  | .scalar | .union _ | .enum _ => none

def fields (b : Body ρ) : List (String × Field ρ) :=
  b.fields?.getD []

def mapFields (f : List (String × Field ρ) → List (String × Field ρ)) : Body ρ → Body ρ
  | .object interfaces fields => .object interfaces (f fields)
  | .interface interfaces fields => .interface interfaces (f fields)
  | .input fields => .input (f fields)
  | b => b

/-- The types that a type is built on: its interfaces or members. -/
def bases : Body ρ → List ρ
  | .object interfaces _ | .interface interfaces _ => interfaces
  | .union members => members
  | .input _ | .scalar | .enum _ => []

/-- Whether a field may answer values of a type. -/
def isOutput : Body ρ → Bool
  | .input _ => false
  | _ => true

/-- Whether an argument may be given values of a type. -/
def isInput : Body ρ → Bool
  | .scalar | .enum _ | .input _ => true
  | _ => false

/-- Two parts of a type put together. Parts of different sorts do not go together; then the first one is
all. -/
def append : Body ρ → Body ρ → Body ρ
  | .object i f, .object j g => .object (i ++ j) (f ++ g)
  | .interface i f, .interface j g => .interface (i ++ j) (f ++ g)
  | .union m, .union n => .union (m ++ n)
  | .enum v, .enum w => .enum (v ++ w)
  | .input f, .input g => .input (f ++ g)
  | b, _ => b

def sort : Body ρ → String
  | .scalar => "scalar"
  | .object .. => "object"
  | .interface .. => "interface"
  | .union _ => "union"
  | .enum _ => "enum"
  | .input _ => "input object"

def kind : Body ρ → String
  | .scalar => "GraphQLScalarType"
  | .object .. => "GraphQLObjectType"
  | .interface .. => "GraphQLInterfaceType"
  | .union _ => "GraphQLUnionType"
  | .enum _ => "GraphQLEnumType"
  | .input _ => "GraphQLInputObjectType"

end Body

def TypeDef.map (f : α → β) (t : TypeDef α) : TypeDef β :=
  ⟨t.name, t.body.map f⟩

/-- Whether a type belongs to the description of schemas themselves. -/
def isReserved (name : String) : Bool :=
  ['_', '_'].isPrefixOf name.toList

end Schema

/-- A schema: the types of its operations, and all its types by their names. -/
structure Schema where
  roots : List (Operation × Schema.TypeId) := []
  types : List (String × Schema.TypeId) := []

def Schema.root? (s : Schema) (operation : Operation) : Option Schema.TypeId :=
  s.roots.lookup operation

end GraphGateway
