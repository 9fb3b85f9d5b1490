import GraphGateway.Template.Scope

/-!
# Resolver maps

A resolver map gives, for each type, the entries of its fields. Maps are merged one after the other: a
type or field keeps the place where it first occurred, and its entry is the last one given, whole. `merge`
makes a new map, with new mappings of fields, which it changes in place.
-/

namespace GraphGateway.Resolver

abbrev FieldMap (α : Type) := List (Value × List (Value × α))

namespace FieldMap

def get? (m : FieldMap α) (type field : Value) : Option α :=
  (Store.empty.find? m type).bind (Store.empty.find? · field)

def put (m : FieldMap α) (type : Value) (fields : List (Value × α)) : FieldMap α :=
  Value.insert m type (Value.update ((Store.empty.find? m type).getD []) fields)

def putValue (wrap : Value → α) (m : FieldMap α) (map : Value) : Except Fault (FieldMap α) :=
  match map.entries? with
  | none => .error (.missingAttribute map.owner "items")
  | some types =>
    types.foldlM (fun m t => do
      let fields ← Template.entriesOf .empty t.2
      pure (m.put t.1 (fields.map fun f => (f.1, wrap f.2)))) m

end FieldMap

/-- What merging gives: the merged map or why there is none, and the shared containers afterwards. -/
structure Merged where
  result : Except Fault Value
  store : Store

/-- The mapping of the fields of a type in a map that is being made. An empty one is put there if there is
none. -/
def ownFields (merged : Handle) (type : Value) (st : Store) : Handle × Store :=
  let types := st.entriesAt merged
  match Store.empty.find? types type with
  | some (.shared own) => (own, st)
  | _ =>
    let (own, st) := st.alloc (.map [])
    (own, st.set merged (.map (Value.insert types type (.shared own))))

def mergeTypes (merged : Handle) : List (Value × Value) → Store → Option Fault × Store
  | [], st => (none, st)
  | (type, fields) :: rest, st =>
    let (own, st) := ownFields merged type st
    match Template.entriesOf st fields with
    | .error fault => (some fault, st)
    | .ok added => mergeTypes merged rest (st.set own (.map (Value.update (st.entriesAt own) added)))

def mergeMaps (merged : Handle) : List Value → Store → Option Fault × Store
  | [], st => (none, st)
  | map :: rest, st =>
    match (st.look map).entries? with
    | none => (some (.missingAttribute (st.look map).owner "items"), st)
    | some types =>
      match mergeTypes merged types st with
      | (some fault, st) => (some fault, st)
      | (none, st) => mergeMaps merged rest st

def merge (st : Store) (maps : List Value) : Merged :=
  let (merged, st) := st.alloc (.map [])
  match mergeMaps merged maps st with
  | (some fault, st) => ⟨.error fault, st⟩
  | (none, st) => ⟨.ok (.shared merged), st⟩

end GraphGateway.Resolver
