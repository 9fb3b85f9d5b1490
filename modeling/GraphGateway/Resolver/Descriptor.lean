import GraphGateway.Value.Attribute

/-!
# Resolver descriptors

A configuration describes resolvers by entries: the path of a file, a mapping that names an API method,
or a mapping that names a topic of events.
-/

namespace GraphGateway.Resolver

/-- Resolve a field by a call of a method that another source offers. -/
structure MethodCall where
  type : Value
  field : Value
  targetSource : Value
  targetMethod : Value
  args : Value
  resultSelectedFields : Value
  resultSelectionSet : Value
  resultDepth : Value
  returnData : Value
  requiredSelectionSet : Value

/-- Resolve a subscription field by the events of a topic. -/
structure Subscription where
  type : Value
  field : Value
  topic : Value
  filterBy : Value
  returnData : Value

inductive Descriptor where
  | file (path : String)
  | methodCall (d : MethodCall)
  | subscription (d : Subscription)

private def required (st : Store) (contents : Value) (key : String) : Except Fault Value :=
  (st.require contents (.text key)).map st.snapshot

private def entry (st : Store) (contents : Value) (key : String) : Except Fault Value :=
  match (st.look contents).entries? with
  | some entries => .ok ((Value.lookup key entries).getD .null)
  | none => .error (.missingAttribute (st.look contents).owner "get")

private def optional (st : Store) (contents : Value) (key : String) : Except Fault Value :=
  (entry st contents key).map st.snapshot

private def readMethodCall (st : Store) (v : Value) : Except Fault MethodCall := do
  let type ← required st v "type"
  let field ← required st v "field"
  let targetSource ← required st v "targetSource"
  let targetMethod ← required st v "targetMethod"
  let args ← entry st v "args"
  pure {
    type, field, targetSource, targetMethod
    args := if (st.look args).truthy then args else .map []
    resultSelectedFields := ← optional st v "resultSelectedFields"
    resultSelectionSet := ← optional st v "resultSelectionSet"
    resultDepth := ← optional st v "resultDepth"
    returnData := ← optional st v "returnData"
    requiredSelectionSet := ← optional st v "requiredSelectionSet" }

private def readSubscription (st : Store) (v : Value) : Except Fault Subscription := do
  pure {
    type := ← required st v "type"
    field := ← required st v "field"
    topic := ← required st v "pubsubTopic"
    filterBy := ← optional st v "filterBy"
    returnData := ← optional st v "returnData" }

/-- Read a description. Only the arguments of a method stay shared. A mapping with a topic describes a subscription, any other a method call. -/
def Descriptor.parse (st : Store) (v : Value) : Except Fault Descriptor := do
  match st.look v with
  | .text path => pure (.file path)
  | contents =>
    if ← st.contains contents (.text "pubsubTopic") then
      pure (.subscription (← readSubscription st contents))
    else pure (.methodCall (← readMethodCall st contents))

/-- A description as it is given: written in a configuration, or read already. -/
inductive Described where
  | written (v : Value)
  | built (d : Descriptor)

def Described.parse (st : Store) : Described → Except Fault Descriptor
  | .written v => Descriptor.parse st v
  | .built d => .ok d

end GraphGateway.Resolver
