import GraphGateway.Value.Entries

/-!
# Scopes

What a template and a filter can name: the parent object, the arguments, the context and the resolve
information of a request, and for templates the variables of the process.
-/

namespace GraphGateway

/-- A request for a field. -/
structure Request where
  root : Value
  args : Value
  context : Value
  info : Value
  deriving Inhabited

/-- The names that a request binds. -/
def Request.names (r : Request) : List (String × Value) :=
  [("root", r.root), ("args", r.args), ("context", r.context), ("info", r.info)]

/-- The entries of a request as a mapping. -/
def Request.entries (r : Request) : List (Value × Value) :=
  r.names.map fun n => (.text n.1, n.2)

def Request.load (r : Request) (st : Store) : Request × Store :=
  let (root, st) := st.load r.root
  let (args, st) := st.load r.args
  let (context, st) := st.load r.context
  let (info, st) := st.load r.info
  (⟨root, args, context, info⟩, st)

namespace Template

/-- What a template is filled from: a request, or any value that is read as a mapping. -/
inductive Source where
  | request (r : Request)
  | plain (v : Value)

private def pairs (st : Store) (position : Nat) :
    List Value → List (Value × Value) → Except Fault (List (Value × Value))
  | [], entries => .ok entries
  | v :: rest, entries =>
    match (st.look v).elements? with
    | none => .error (.misuse (.badUpdateElement position))
    | some [key, value] => do
      st.checkKey key
      pairs st (position + 1) rest (Value.insert entries (st.snapshot key) value)
    | some items => .error (.badUpdateLength position items.length)

/-- The entries of a mapping, or of a sequence of pairs. -/
def entriesOf (st : Store) (v : Value) : Except Fault (List (Value × Value)) :=
  match (st.look v).entries? with
  | some entries => .ok entries
  | none => do pairs st 0 (← (st.look v).elements) []

/-- The scope of a template. It names the variables of the process, unless the source names them. -/
def Source.scope (st : Store) (environment : List (String × String)) (source : Source) :
    Except Fault Value := do
  let entries ← match source with
    | .request r => .ok r.entries
    | .plain v => entriesOf st v
  pure <| .map <|
    if (Value.lookup "env" entries).isSome then entries
    else entries ++ [(.text "env", .environment environment)]

end Template

end GraphGateway
