import GraphGateway.TypeSystem.Registry

/-!
# Checks of types

A new type is checked where a schema reaches it: first the types that it is built on, and its fields before
the types of those are reached. So the first thing that is wrong is said on the way through all types.
-/

namespace GraphGateway.Schema

def isData : Value → Bool
  | .map entries => entries.all fun e => e.1.codes?.isSome
  | _ => false

/-- Refuse fields that cannot be fields of an operation: those of an input, or with unfit data. -/
def checkOperationFields (b : Body ρ) : Except Fault Unit :=
  match b with
  | .input (_ :: _) => .error (.misuse (.unknownArgument "GraphQLField.__init__" "default_value"))
  | b =>
    match b.fields? with
    | none => .error (.missingAttribute ("'" ++ b.kind ++ "' object") "fields")
    | some fields =>
      if fields.all fun x => isData x.2.copied.extensions then .ok ()
      else .error (.misuse (.badField .fieldData))

namespace Registry

def leadsTo (r : Registry) (p : Body (Option TypeId) → Bool) (target : Option TypeId) : Bool :=
  (target.bind r.type?).all fun t => p t.body

def fieldDefect? (r : Registry) (x : Field (Option TypeId)) : Option FieldDefect :=
  if !x.arguments.all fun a => r.leadsTo Body.isInput a.2.target then some .argumentType
  else if !r.leadsTo Body.isOutput x.type.target then some .fieldType
  else if !isData x.extensions then some .fieldData
  else none

def inputFieldDefect? (r : Registry) (x : Field (Option TypeId)) : Option FieldDefect :=
  if !r.leadsTo Body.isInput x.type.target then some .inputFieldType
  else if !isData x.extensions then some .inputFieldData
  else none

def checkBases (r : Registry) (t : Registered) : Except Fault Unit :=
  match t.body with
  | .union members =>
    if members.all (r.leadsTo fun | .object .. => true | _ => false) then .ok ()
    else .error (.misuse (.badMembers t.name))
  | .object interfaces _ | .interface interfaces _ =>
    if interfaces.all (r.leadsTo fun | .interface .. => true | _ => false) then .ok ()
    else .error (.misuse (.badInterfaces t.name))
  | .input _ | .scalar | .enum _ => .ok ()

def checkFields (r : Registry) (t : Registered) : Except Fault Unit :=
  let defect? := match t.body with
    | .input fields => fields.findSome? fun x => r.inputFieldDefect? x.2
    | b => b.fields.findSome? fun x => r.fieldDefect? x.2
  match defect? with
  | some defect => .error (.badFields t.name (.misuse (.badField defect)))
  | none => .ok ()

/-- Check a type where it is visited, if its number is not below `first`. -/
def checkVisit (r : Registry) (first : TypeId) (v : Visit) : Except Fault Unit :=
  let check := fun id (f : Registered → Except Fault Unit) =>
    if id < first then .ok () else ((r.type? id).map f).getD (.ok ())
  match v with
  | .type id => check id r.checkBases
  | .fields id => check id r.checkFields

end Registry

end GraphGateway.Schema
