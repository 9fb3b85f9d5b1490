import GraphGateway.TypeSystem.Standard
import GraphGateway.Text.Suggestion

/-!
# Documents

A document defines types and extends types that a schema has. `Document.messages` says what is wrong with
one: a type, field or value that is already there, an extension of a type that is missing or of another
sort, and references to types that are not known.
-/

namespace GraphGateway.Schema

/-- Definitions of types, and parts that are added to types. -/
structure Document where
  defined : List Definition := []
  extended : List Definition := []

namespace Document

open Text

def isEmpty (d : Document) : Bool :=
  d.defined.isEmpty && d.extended.isEmpty

private def mentionedBy (x : Field String) : List String :=
  x.arguments.map (·.2.target) ++ [x.type.target]

/-- The types that a part of a document names, as they stand in it. -/
private def mentioned : Body String → List String
  | .object interfaces fields | .interface interfaces fields =>
    interfaces ++ fields.flatMap fun x => mentionedBy x.2
  | .union members => members
  | .input fields => fields.flatMap fun x => mentionedBy x.2
  | .scalar | .enum _ => []

private def values : Body ρ → List String
  | .enum values => values
  | _ => []

/-- What is wrong with the members of a part, given those that the type has and those that the document
has already given it. -/
private def repeatedMembers (what type : String) (existing : List String) :
    List String → List String → List String
  | _, [] => []
  | seen, m :: rest =>
    let subject := what ++ " '" ++ type ++ "." ++ m ++ "'"
    if existing.contains m then
      (subject ++ " already exists in the schema. It cannot also be defined in this type extension.") ::
        repeatedMembers what type existing seen rest
    else if seen.contains m then
      (subject ++ " can only be defined once.") :: repeatedMembers what type existing seen rest
    else repeatedMembers what type existing (m :: seen) rest

/-- What is wrong with the members of a part after earlier parts of the document. -/
private def memberMessages (body? : Option (Body ρ)) (earlier : List Definition) (part : Definition) :
    List String :=
  let before := earlier.filter fun p => p.name = part.name
  let names := fun (fields : List (String × Field String)) => fields.map (·.1)
  repeatedMembers "Enum value" part.name ((body?.map values).getD [])
      (before.flatMap fun p => values p.body) (values part.body) ++
    repeatedMembers "Field" part.name ((body?.map fun b => b.fields.map (·.1)).getD [])
      (before.flatMap fun p => names p.body.fields) (names part.body.fields)

private def referenceMessages (known : List String) (part : Definition) : List String :=
  let standard := Standard.definitions.map (·.name)
  (mentioned part.body).filterMap fun name =>
    if (standard ++ known).contains name then none
    else some ("Unknown type '" ++ name ++ "'." ++ question (suggestions name (standard ++ known)))

private def definitionMessages (s : Schema) (earlier : List Definition) (part : Definition) :
    List String :=
  if (s.types.lookup part.name).isSome then
    ["Type '" ++ part.name ++
      "' already exists in the schema. It cannot also be defined in this type definition."]
  else if earlier.any fun p => p.name = part.name then
    ["There can be only one type named '" ++ part.name ++ "'."]
  else []

/-- What is wrong with the extension of a type, given the sort that the type has. -/
private def extensionMessages (known : List String) (sort? : Option String) (part : Definition) :
    List String :=
  match sort? with
  | none =>
    ["Cannot extend type '" ++ part.name ++ "' because it is not defined." ++
      question (suggestions part.name known)]
  | some sort =>
    if sort = part.body.sort then []
    else ["Cannot extend non-" ++ part.body.sort ++ " type '" ++ part.name ++ "'."]

/-- Check parts one after the other, each with those before it. -/
private def checkEach (check : List Definition → Definition → List String) :
    List Definition → List Definition → List String
  | _, [] => []
  | earlier, part :: rest => check earlier part ++ checkEach check (earlier ++ [part]) rest

/-- What is wrong with a document that extends a schema, part by part. -/
def messages (r : Registry) (s : Schema) (d : Document) : List String :=
  let known := s.types.map (·.1) ++ d.defined.map (·.name)
  let body? := fun name => ((s.types.lookup name).bind r.type?).map (·.body)
  let sort? := fun name =>
    match d.defined.reverse.find? (·.name = name) with
    | some part => some part.body.sort
    | none => (body? name).map Body.sort
  let checkDefinition := fun earlier (part : Definition) =>
    definitionMessages s earlier part ++ memberMessages (body? part.name) earlier part ++
      referenceMessages known part
  let checkExtension := fun earlier (part : Definition) =>
    memberMessages (body? part.name) earlier part ++ extensionMessages known (sort? part.name) part ++
      referenceMessages known part
  checkEach checkDefinition [] d.defined ++ checkEach checkExtension d.defined d.extended

end Document

end GraphGateway.Schema
