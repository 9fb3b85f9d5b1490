import GraphGateway.TypeSystem.Document

/-!
# Extending schemas

Extending a schema makes a schema of new types: a copy of each type, with what a document adds to it. The
copies of fields keep their functions and data; those of the fields of an input keep the data alone.
-/

namespace GraphGateway.Schema

/-- A field of an input without functions. -/
def Field.plain (x : Field ρ) : Field ρ :=
  { x with resolve := .null, subscribe := .null }

/-- A type as it is copied. -/
def Body.copied : Body ρ → Body ρ
  | .input fields => .input (fields.map fun x => (x.1, x.2.copied.plain))
  | b => b.mapFields fun fields => fields.map fun x => (x.1, x.2.copied)

namespace Registry

/-- The parts that a document adds to a type. -/
private def added (d : Document) (name : String) : List (Body String) :=
  (d.extended.filter (·.name = name)).map (·.body)

/-- The schema that is made of a schema and a document with which nothing is wrong. Standard types are not
copied, and a definition with the name of one stands for it. -/
def extended (r : Registry) (s : Schema) (d : Document) : Except Fault Schema × Registry :=
  let copied := s.types.filter fun t => Standard.isFree t.1
  let defined := d.defined.filter fun t => Standard.isFree t.name
  let own := (copied.map (·.1) ++ defined.map (·.name)).zipIdx r.size
  let place := fun name => (Standard.types ++ own).lookup name
  let grown := fun name (b : Body (Option TypeId)) =>
    (added d name).foldl (fun b part => b.append (part.map place)) b
  let moved := fun (target : Option TypeId) => target.bind fun id => place (r.nameOf id)
  let copies := copied.filterMap fun (name, id) =>
    (r.type? id).map fun t => (⟨name, grown name (t.body.copied.map moved)⟩ : Registered)
  let new := defined.map fun t => (⟨t.name, grown t.name (t.body.map place)⟩ : Registered)
  let roots := s.roots.filterMap fun (operation, id) =>
    (place (r.nameOf id)).map fun id => (operation, id)
  let listed := (s.types.map (·.1) ++ d.defined.map (·.name)).filterMap place
  ((r.add (copies ++ new)).buildNew r.size roots listed.eraseDups, r.add (copies ++ new))

/-- Extend a schema. A document that says nothing leaves it as it is. -/
def extend (r : Registry) (s : Schema) (d : Document) : Except Fault Schema × Registry :=
  if d.isEmpty then (.ok s, r)
  else
    match d.messages r s with
    | [] => r.extended s d
    | messages => (.error (.misuse (.badExtension ("\n\n".intercalate messages))), r)

end Registry

end GraphGateway.Schema
