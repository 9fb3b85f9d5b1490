import GraphGateway.Template.Scope

/-!
# Functions of the host

The functions and classes that occur in values are supplied by the host. A host answers for each of them
what it gives when it is applied.
-/

namespace GraphGateway

/-- A call of an API method: its arguments, what is selected of its result, and its place among the calls
of one request. -/
structure Call where
  arguments : Value
  selectedFields : Value
  selectionSet : Value
  depth : Value
  position : Nat

/-- What comes of calls of API methods, with the functions that were called and the calls of them. -/
structure Called (α : Type) where
  outcome : Except Fault α
  calls : List (Value × Call)

/-- What the functions of a host do, by their numbers. -/
structure Host where
  /-- A function applied to a request. -/
  onRequest : Nat → Store → Request → Except Fault Value
  /-- A function called as an API method. -/
  onCall : Nat → Store → Call → Except Fault Value
  /-- A function applied to a configuration. -/
  onConfig : Nat → Value → Except Fault Value

namespace Host

def empty : Host where
  onRequest _ _ _ := .ok .null
  onCall _ _ _ := .ok .null
  onConfig _ _ := .ok .null

/-- Apply a value to a request. -/
def request (host : Host) (st : Store) (f : Value) (r : Request) : Except Fault Value :=
  match f with
  | .function id _ => host.onRequest id st r
  | .factory _ name none => .ok (.made name (.tuple [r.root, r.args, r.context, r.info]))
  | .factory _ _ (some (kind, text)) => .error (.raised kind text none)
  | f => .error (.misuse (.notCallable f.kind))

/-- Call a value as an API method. A value that is no function is refused before it is called. -/
def called (host : Host) (st : Store) (f : Value) (c : Call) : Called Value :=
  match st.look f with
  | .function id label => ⟨host.onCall id st c, [(.function id label, c)]⟩
  | f => ⟨.error (.misuse (.notCallable f.kind)), []⟩

def call (host : Host) (st : Store) (f : Value) (c : Call) : Except Fault Value :=
  (host.called st f c).outcome

end Host

end GraphGateway
