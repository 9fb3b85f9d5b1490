import GraphGateway.Delegation.ReturnData
import GraphGateway.Resolver.Arguments
import GraphGateway.Resolver.Descriptor

/-!
# Resolving by method calls

A field is resolved by a call of a method that another source offers in the context of the request. If
the arguments come out as a list, the method is called once for each of them, and an element whose call
fails, or gives an error, is null.
-/

namespace GraphGateway.Resolver

open Delegation

/-- What is known of the field that a request asks for: its name, and its type if that is known. -/
structure FieldInfo where
  name : FieldName
  type : Option TypeRef

/-- What resolving a field gives: the result, the shared containers afterwards, whether calls were made side
by side, the calls of methods that were made, and the values that were tagged. -/
structure Resolution where
  result : Except Fault Value
  store : Store
  concurrent : Bool := false
  calls : List (Value × Call) := []
  visits : List Visit := []

/-- The part of a value under a name: an entry of a mapping, an attribute of anything else. -/
def part (st : Store) (v name : Value) : Except Fault Value :=
  let whole := st.look v
  if whole.isMapping then st.require whole name
  else
    match name with
    | .text n =>
      match st.attribute? v n with
      | some found => .ok found
      | none => .error (.missingAttribute whole.owner n)
    | name => .error (.misuse (.badAttributeName name.kind))

def MethodCall.method (d : MethodCall) (st : Store) (context : Value) : Except Fault Value := do
  let source ← part st context d.targetSource
  let api ← part st source (.text "api")
  part st api d.targetMethod

/-- The call for some arguments, in its place among the calls of a request. -/
def MethodCall.callFor (d : MethodCall) (position : Nat) (args : Value) : Call where
  arguments := args
  selectedFields := d.resultSelectedFields
  selectionSet := d.resultSelectionSet
  depth := d.resultDepth
  position := position

/-- Take the value of a field out of what a method gave. -/
def MethodCall.extract (d : MethodCall) (field : FieldInfo) (given : Value) : Except Fault Extraction :=
  Delegation.extract given d.returnData field.name.responseKey

def MethodCall.resolveOne (host : Host) (st : Store) (d : MethodCall) (field : FieldInfo)
    (method args : Value) : Called Extraction :=
  let called := host.called st method (d.callFor 0 args)
  { called with outcome := called.outcome.bind fun given => d.extract field (st.snapshot given) }

/-- What the outcome of a call makes of an element. A call that fails, or gives an error, makes it null. -/
def MethodCall.elementOf (st : Store) (d : MethodCall) (field : FieldInfo) (outcome : Except Fault Value) :
    Except Fault Extraction :=
  match outcome with
  | .error _ => .ok (.plain .null)
  | .ok given =>
    let given := st.snapshot given
    if given.isError then .ok (.plain .null) else d.extract field given

def MethodCall.resolveElement (host : Host) (st : Store) (d : MethodCall) (field : FieldInfo)
    (method : Value) (position : Nat) (args : Value) : Called Extraction :=
  let called := host.called st method (d.callFor position args)
  { called with outcome := d.elementOf st field called.outcome }

/-- The values that were tagged for an extraction. -/
def seen (type : Option TypeRef) (e : Except Fault Extraction) : List Visit :=
  match e with
  | .ok e => e.visits type
  | .error _ => []

/-- Resolve a field for a request whose arguments have been accepted. -/
def MethodCall.answer (host : Host) (environment : List (String × String)) (st : Store)
    (d : MethodCall) (request : Request) (field : FieldInfo) : Resolution :=
  let built := buildArguments host environment st request d.args
  let st := built.store
  match built.result.bind fun args => (d.method st request.context).map fun m => (args, m) with
  | .error fault => { result := .error fault.ofTask, store := st }
  | .ok (args, method) =>
    match st.look args with
    | .list elements =>
      let each := elements.mapIdx fun i args => d.resolveElement host st field method i args
      let found := each.map (·.outcome)
      { result := (found.mapM id).map fun es => .list (es.map (·.value))
        store := st
        concurrent := !elements.isEmpty
        calls := each.flatMap (·.calls)
        visits := found.flatMap (seen (itemType field.type)) }
    | _ =>
      let found := d.resolveOne host st field method args
      { result := (found.outcome.mapError Fault.ofTask).map (·.value)
        store := st
        calls := found.calls
        visits := seen (field.type.map (·.nullable)) found.outcome }

def MethodCall.resolve (host : Host) (environment : List (String × String)) (st : Store)
    (d : MethodCall) (request : Request) (field : FieldInfo) : Resolution :=
  match checkNames st "_method_call_resolver.<locals>.resolve" ["root", "info"] request.args with
  | .ok () => d.answer host environment st request field
  | .error fault => { result := .error fault, store := st }

end GraphGateway.Resolver
