import GraphGateway.Host
import GraphGateway.Path.Write
import GraphGateway.Template.Interpolate

/-!
# Method arguments

The arguments of a method are described by a function of the request, or by a mapping from paths to
templates: each template is filled from the request and its value written at its path. A value that
comes out of the request is the very value of the request, so a later path that goes into it changes the
request as well.
-/

namespace GraphGateway.Resolver

/-- What building arguments gives: the arguments or why there are none, and the shared containers
afterwards. -/
structure Built where
  result : Except Fault Value
  store : Store

/-- Refuse arguments of a field that are named like those that a function is given before them. -/
def checkNames (st : Store) (function : String) (before : List String) (args : Value) :
    Except Fault Unit :=
  let names := ((st.look args).entries?.getD []).map (·.1)
  if names.any fun | .text _ => false | _ => true then .error (.misuse .badArgumentName)
  else
    match names.findSome? fun | .text name => if before.contains name then some name else none | _ => none with
    | some name => .error (.misuse (.givenTwice function name))
    | none => .ok ()

/-- Write the values of templates at their paths, one after the other. -/
def fillPaths (environment : List (String × String)) (request : Request) :
    List (Value × Value) → Value → Store → Built
  | [], built, st => ⟨.ok built, st⟩
  | (path, template) :: rest, built, st =>
    match st.interpolate environment (.request request) template with
    | .error fault => ⟨.error fault, st⟩
    | .ok v =>
      match st.pathKeys path with
      | .error fault => ⟨.error fault, st⟩
      | .ok keys =>
        match st.write built keys v with
        | ⟨_, st, some fault⟩ => ⟨.error fault, st⟩
        | ⟨built, st, none⟩ => fillPaths environment request rest built st

/-- Build the arguments of a method for a request. -/
def buildArguments (host : Host) (environment : List (String × String)) (st : Store)
    (request : Request) (args : Value) : Built :=
  let described := st.look args
  if described.callable then ⟨host.request st described request, st⟩
  else if !described.truthy then ⟨.ok (.map []), st⟩
  else
    match described.entries? with
    | some entries => fillPaths environment request entries (.map []) st
    | none => ⟨.error (.missingAttribute described.owner "items"), st⟩

end GraphGateway.Resolver
