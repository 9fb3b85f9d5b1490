import GraphGateway.Proofs.Value.Entries
import GraphGateway.Resolver.Map

/-!
# What is in a map of fields

Putting entries into a map of fields replaces those of the same type and field, and changes no other. So the entry of
a field is the one of its last definition.
-/

namespace GraphGateway

namespace Resolver

/-- What is put in for a field of a type. -/
structure Definition (α : Type) where
  type : Value
  field : Value
  entry : α

/-- Whether the keys of a definition are those of a field of a type. -/
def Definition.answers (type field : String) (d : Definition α) : Bool :=
  Store.empty.sameKey d.type (.text type) && Store.empty.sameKey d.field (.text field)

namespace FieldMap

/-- The definitions in a map that is given as a value. -/
def definitionsIn (wrap : Value → α) (map : Value) : List (Definition α) :=
  (map.entries?.getD []).flatMap fun t => (t.2.entries?.getD []).map fun e => ⟨t.1, e.1, wrap e.2⟩

end FieldMap

end Resolver

end GraphGateway
