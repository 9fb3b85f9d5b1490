import GraphGateway.TypeSystem.Check

/-!
# Standard types

The types that every schema has or may refer to: the built-in scalars, and the types in which a schema
describes itself. All schemas share them.
-/

namespace GraphGateway.Schema

namespace Standard

def scalars : List String := ["String", "Int", "Float", "Boolean", "ID"]

private def field (name type : String) (arguments : List (String × String)) : String × Field String :=
  let link := fun text => let written := TypeRef.ofText text; (⟨written, written.name⟩ : Link String)
  (name, { type := link type, arguments := arguments.map fun a => (a.1, link a.2) })

private def object (name : String) (fields : List (String × String × List (String × String))) :
    Definition :=
  ⟨name, .object [] (fields.map fun f => field f.1 f.2.1 f.2.2)⟩

private def deprecated : List (String × String) := [("includeDeprecated", "Boolean")]

/-- The types that every schema takes in last: those of the arguments of directives, and that of which a
description of a schema is. -/
def required : List String := ["Boolean", "String", "__Schema"]

/-- The types in which a schema describes itself. -/
def description : List Definition :=
  [object "__Schema"
      [("description", "String", []), ("types", "[__Type!]!", []), ("queryType", "__Type!", []),
        ("mutationType", "__Type", []), ("subscriptionType", "__Type", []),
        ("directives", "[__Directive!]!", [])],
    object "__Type"
      [("kind", "__TypeKind!", []), ("name", "String", []), ("description", "String", []),
        ("specifiedByURL", "String", []), ("fields", "[__Field!]", deprecated),
        ("interfaces", "[__Type!]", []), ("possibleTypes", "[__Type!]", []),
        ("enumValues", "[__EnumValue!]", deprecated), ("inputFields", "[__InputValue!]", deprecated),
        ("ofType", "__Type", []), ("isOneOf", "Boolean", [])],
    ⟨"__TypeKind", .enum ["SCALAR", "OBJECT", "INTERFACE", "UNION", "ENUM", "INPUT_OBJECT", "LIST",
      "NON_NULL"]⟩,
    object "__Field"
      [("name", "String!", []), ("description", "String", []), ("args", "[__InputValue!]!", deprecated),
        ("type", "__Type!", []), ("isDeprecated", "Boolean!", []), ("deprecationReason", "String", [])],
    object "__InputValue"
      [("name", "String!", []), ("description", "String", []), ("type", "__Type!", []),
        ("defaultValue", "String", []), ("isDeprecated", "Boolean!", []),
        ("deprecationReason", "String", [])],
    object "__EnumValue"
      [("name", "String!", []), ("description", "String", []), ("isDeprecated", "Boolean!", []),
        ("deprecationReason", "String", [])],
    object "__Directive"
      [("name", "String!", []), ("description", "String", []), ("isRepeatable", "Boolean!", []),
        ("locations", "[__DirectiveLocation!]!", []), ("args", "[__InputValue!]!", deprecated),
        ("isDeprecated", "Boolean!", []), ("deprecationReason", "String", [])],
    ⟨"__DirectiveLocation", .enum ["QUERY", "MUTATION", "SUBSCRIPTION", "FIELD", "FRAGMENT_DEFINITION",
      "FRAGMENT_SPREAD", "INLINE_FRAGMENT", "VARIABLE_DEFINITION", "SCHEMA", "SCALAR", "OBJECT",
      "FIELD_DEFINITION", "ARGUMENT_DEFINITION", "INTERFACE", "UNION", "ENUM", "ENUM_VALUE",
      "INPUT_OBJECT", "INPUT_FIELD_DEFINITION", "DIRECTIVE_DEFINITION"]⟩]

def definitions : List Definition :=
  scalars.map (⟨·, .scalar⟩) ++ description

/-- The registry that holds nothing but the standard types. -/
def registry : Registry :=
  (Registry.declare {} [] definitions).2

def types : List (String × TypeId) :=
  (Registry.declare {} [] definitions).1

/-- Whether a name is not taken by a standard type. -/
def isFree (name : String) : Bool :=
  (types.lookup name).isNone

end Standard

/-- The types of a schema that are its own: neither built-in scalars nor of its description. -/
def ownTypes (s : Schema) : List (String × TypeId) :=
  s.types.filter fun t => !Standard.scalars.contains t.1 && !isReserved t.1

namespace Registry

/-- The schema of some types and of those that every schema takes in. -/
def build (r : Registry) (roots : List (Operation × TypeId)) (listed : List TypeId) :
    Except Fault Schema :=
  r.schema roots listed (Standard.required.filterMap fun name => Standard.types.lookup name)

/-- The schema of some types, of which those with numbers from `first` on are new and are checked. -/
def buildNew (r : Registry) (first : TypeId) (roots : List (Operation × TypeId))
    (listed : List TypeId) : Except Fault Schema := do
  (r.visits listed (rootTypes roots)).forM (r.checkVisit first)
  r.build roots listed

/-- Register the types of a schema, with the names of the types of its operations. A definition with the
name of a standard type stands for that type. -/
def load (r : Registry) (roots : List (Operation × String)) (definitions : List Definition) :
    Except Fault Schema × Registry :=
  let first := r.size
  let (own, r) := r.declare Standard.types (definitions.filter fun d => Standard.isFree d.name)
  let place := fun name => (Standard.types ++ own).lookup name
  let roots := roots.filterMap fun (operation, name) => (place name).map fun id => (operation, id)
  (r.buildNew first roots (definitions.filterMap fun d => place d.name).eraseDups, r)

end Registry

end GraphGateway.Schema
