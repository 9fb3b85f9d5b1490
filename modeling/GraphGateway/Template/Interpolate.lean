import GraphGateway.Path.Read
import GraphGateway.Template.Placeholder
import GraphGateway.Template.Scope

/-!
# Filling templates

A template that is a single placeholder stands for the value at its path; any other has its
placeholders replaced by the texts of their values, which are not read again. What is no text is no
template and stands for itself.
-/

namespace GraphGateway

namespace Store

def hole (st : Store) (scope : Value) (path : List Char) : Value :=
  st.read scope (Path.keys (String.ofList path))

def pieceText (st : Store) (scope : Value) : Template.Piece → List Char
  | .char c => [c]
  | .hole path =>
    match st.hole scope path with
    | .null => []
    | v => (st.text v).toList

def fill (st : Store) (scope : Value) (template : String) : Value :=
  match Template.whole? template.toList with
  | some path => st.hole scope path
  | none => .text (String.ofList ((Template.scan template.toList).flatMap (st.pieceText scope)))

def interpolate (st : Store) (environment : List (String × String)) (source : Template.Source)
    (template : Value) : Except Fault Value :=
  match template with
  | .text s => do pure (st.fill (← source.scope st environment) s)
  | v => .ok v

end Store

end GraphGateway
