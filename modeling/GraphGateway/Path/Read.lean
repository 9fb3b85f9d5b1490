import GraphGateway.Number.Integer
import GraphGateway.Value.Attribute
import GraphGateway.Path.Keys

/-!
# Reading along a path

A key leads into a mapping by its entry, into a list or tuple by the index that it writes, and into
anything else by an attribute. What is not there is null, and nothing lies below null.
-/

namespace GraphGateway

namespace Store

/-- The item of a list under a key that writes an index. -/
def item (items : List Value) (key : String) : Value :=
  match Number.readInt key.toList with
  | .ok i => ((position? items.length i).bind (items[·]?)).getD .null
  | .error _ => .null

def child (st : Store) (v : Value) (key : String) : Value :=
  let container := st.look v
  match container.entries? with
  | some entries => (Value.lookup key entries).getD .null
  | none =>
    match container with
    | .list items | .tuple items => item items key
    | _ => (st.attribute? v key).getD .null

def read (st : Store) : Value → List String → Value
  | v, [] => v
  | .null, _ => .null
  | v, key :: rest => st.read (st.child v key) rest

/-- What a path leads to, or a default where that is nothing. -/
def readOr (st : Store) (v : Value) (keys : List String) (default : Value) : Value :=
  match st.read v keys with
  | .null => default
  | found => found

theorem read_null (st : Store) (keys : List String) : st.read .null keys = .null := by
  cases keys <;> rfl

theorem read_append (st : Store) (v : Value) (p q : List String) :
    st.read v (p ++ q) = st.read (st.read v p) q := by
  induction p generalizing v with
  | nil => cases v <;> rfl
  | cons key p ih =>
    cases v with
    | null => simp [read, read_null]
    | _ => simpa [read] using ih _

end Store

end GraphGateway
