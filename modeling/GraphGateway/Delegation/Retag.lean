import GraphGateway.TypeSystem.TypeRef
import GraphGateway.Value.Text

/-!
# Tagging extracted values

A value that is taken out of an external object is tagged with the errors and the schema of the object:
in the value itself and in nested lists, a mapping becomes an external object, and null becomes the
error that explains it.
-/

namespace GraphGateway.Delegation

/-- What a missing value becomes: null without errors, the only error, or one that lists the messages of
all. -/
def missing (errors : List Value) : Value :=
  match errors with
  | [] => .null
  | [e] => e
  | errors =>
    let messages := errors.map (·.toText)
    .fieldError ("\n".intercalate messages) .null
      (.map [(.text "errors", .list (messages.map .text))])

/-- A value that tagging comes to, with what it is tagged with and the type that it is expected to have. -/
structure Visit where
  value : Value
  errors : List Value
  subschema : Value
  type : Option TypeRef

/-- What tagging makes, with the values that it came to on the way. -/
structure Tagging (α : Type) where
  result : α
  visits : List Visit

mutual

/-- Tag a value that is expected to have a type. The items of a list are come to after the list itself. -/
def tag (errors : List Value) (subschema : Value) (type : Option TypeRef) (v : Value) : Tagging Value :=
  let visit : Visit := ⟨v, errors, subschema, type⟩
  match v with
  | .null => ⟨missing errors, [visit]⟩
  | .list items =>
    let inside := tagItems errors subschema (itemType type) items
    ⟨.list inside.result, visit :: inside.visits⟩
  | .map entries => ⟨.external entries errors subschema [], [visit]⟩
  | .environment vars =>
    ⟨.external (vars.map fun v => (.text v.1, .text v.2)) errors subschema [], [visit]⟩
  | v => ⟨v, [visit]⟩

def tagItems (errors : List Value) (subschema : Value) (type : Option TypeRef) :
    List Value → Tagging (List Value)
  | [] => ⟨[], []⟩
  | v :: rest =>
    let first := tag errors subschema type v
    let others := tagItems errors subschema type rest
    ⟨first.result :: others.result, first.visits ++ others.visits⟩

end

/-- A value tagged with errors and a schema; what type it is expected to have makes no difference. -/
def retag (errors : List Value) (subschema v : Value) : Value :=
  (tag errors subschema none v).result

end GraphGateway.Delegation
