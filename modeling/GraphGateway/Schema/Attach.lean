import GraphGateway.TypeSystem.Registry
import GraphGateway.Value.Entries

/-!
# Attaching resolvers

A resolver map is attached to the fields of a schema. `Step.ofMap` reads its entries in order: each gives the
change of a field, or a warning where there is no such field, or it cannot be read. `Registry.take` makes
the steps; one that fails is the last one, and what was done before it stays.
-/

namespace GraphGateway.Schema

structure Change where
  resolve : Option Value := none
  subscribe : Option Value := none
  selectionSet : Option Value := none
  deriving Inhabited

/-- The key of the data for the selection that a resolver requires. -/
def selectionKey : String := "selection_set"

namespace Change

/-- The entry of a key, unless it is null. -/
private def part (entries : List (Value × Value)) (key : String) : Option Value :=
  (Value.lookup key entries).bind fun
    | .null => none
    | v => some v

/-- The change that an entry of a resolver map gives. A function takes the place of the function of the
field. -/
def ofValue (v : Value) : Except Fault Change :=
  if v.callable then .ok { resolve := some v }
  else
    match v.entries? with
    | none => .error (.missingAttribute v.owner "get")
    | some entries =>
      .ok { resolve := part entries "resolve", subscribe := part entries "subscribe"
            selectionSet := part entries selectionKey }

def applyFunctions (c : Change) (x : Field ρ) : Field ρ :=
  { x with resolve := c.resolve.getD x.resolve, subscribe := c.subscribe.getD x.subscribe }

/-- The further data of a field with that of the selection. Other data than that of the selection is kept. -/
def data (c : Change) (old : Value) : Except Fault Value :=
  match c.selectionSet with
  | none => .ok old
  | some v =>
    if !old.truthy then .ok (.map [(.text selectionKey, v)])
    else
      match old.entries? with
      | none => .error (.misuse (.notMapping old.kind))
      | some entries => .ok (.map (Value.insert entries (.text selectionKey) v))

def apply (c : Change) (x : Field ρ) : Field ρ :=
  { c.applyFunctions x with extensions := (c.data x.extensions).toOption.getD x.extensions }

end Change

inductive Step where
  | change (id : TypeId) (field : String) (change : Change)
  | warn (message : String)
  | fail (fault : Fault)

namespace Step

def ofField (id : TypeId) (type : Value) (names : List String) (key entry : Value) : Step :=
  let unknown : Step :=
    .warn ("Resolver defined for " ++ type.toText ++ "." ++ key.toText ++
      ", but the field is not in the schema")
  match key with
  | .text name =>
    if names.contains name then
      match Change.ofValue entry with
      | .ok c => .change id name c
      | .error fault => .fail fault
    else unknown
  | _ => unknown

/-- The type of a name, if it may have fields. -/
def target? (r : Registry) (s : Schema) : Value → Option (TypeId × List String)
  | .text name => do
    let id ← s.types.lookup name
    let t ← r.type? id
    let fields ← t.body.fields?
    pure (id, fields.map (·.1))
  | _ => none

def ofType (r : Registry) (s : Schema) (type entries : Value) : List Step :=
  match target? r s type with
  | none =>
    [.warn ("Resolvers defined for " ++ type.toText ++
      ", but it is not an object type in the schema")]
  | some (id, names) =>
    match entries.entries? with
    | none => [.fail (.missingAttribute entries.owner "items")]
    | some fields => fields.map fun f => ofField id type names f.1 f.2

def ofMap (r : Registry) (s : Schema) (resolvers : Value) : List Step :=
  match resolvers.entries? with
  | none => [.fail (.missingAttribute resolvers.owner "items")]
  | some types => types.flatMap fun t => ofType r s t.1 t.2

end Step

/-- What attaching a resolver map gives: the types, the warnings on the way, and why it ended early. -/
structure Attached where
  registry : Registry
  warnings : List String := []
  fault : Option Fault := none

namespace Registry

/-- Why a field cannot be changed. -/
def refusal? (r : Registry) (id : TypeId) (field : String) (c : Change) : Option Fault :=
  ((r.fieldsOf id).lookup field).bind fun x =>
    match c.data x.extensions with
    | .ok _ => none
    | .error fault => some fault

/-- Make steps up to the first one that fails. -/
def take (r : Registry) : List Step → Attached
  | [] => { registry := r }
  | .fail fault :: _ => { registry := r, fault := some fault }
  | .warn message :: rest =>
    let a := r.take rest
    { a with warnings := message :: a.warnings }
  | .change id field c :: rest =>
    let changed := r.modifyField id field c.apply
    match r.refusal? id field c with
    | some fault => { registry := changed, fault := some fault }
    | none => changed.take rest

def attach (r : Registry) (s : Schema) (resolvers : Value) : Attached :=
  r.take (Step.ofMap r s resolvers)

end Registry

end GraphGateway.Schema
