import GraphGateway.Filter.Eval
import GraphGateway.Filter.Parser
import GraphGateway.Filter.Source
import GraphGateway.Host

/-!
# Filters

A filter is compiled once and then decides about requests. No filter lets everything pass, a function
decides as it likes, and a text has to be an expression of the filter language.
-/

namespace GraphGateway

inductive Filter where
  | always
  | function (f : Value)
  /-- An expression, and its text as it is written in messages. -/
  | expression (source : String) (body : Filter.Expr)

namespace Filter

/-- Check the expression of a filter, which is written in messages as `source`. -/
def ofSource (source : String) (text : List Char) : Except Fault Filter :=
  match parse text with
  | none => .error (.filterSyntax ("Invalid filter expression " ++ source ++ ": <syntax>"))
  | some body =>
    match body.offence? with
    | some offence => .error (.filterSyntax (offence.message source))
    | none => .ok (.expression source body)

private def isByteBlank (b : UInt8) : Bool :=
  b = 32 || (9 ≤ b && b ≤ 13)

def trimBytes (bs : List UInt8) : List UInt8 :=
  ((bs.dropWhile isByteBlank).reverse.dropWhile isByteBlank).reverse

/-- Compile a filter. No null stands in an expression. -/
def compile (v : Value) : Except Fault Filter :=
  match v with
  | .null => .ok .always
  | .text s =>
    let text := Text.trim s.toList
    if text.contains (Char.ofNat 0) then .error .nullCharacter else ofSource v.written text
  | .bytes bs =>
    let bs := trimBytes bs
    if bs.contains 0 then .error .nullCharacter
    else
      match decodeSource bs with
      | some text => ofSource v.written text
      | none => .error (.filterSyntax ("Invalid filter expression " ++ v.written ++ ": <syntax>"))
  | v => if v.callable then .ok (.function v) else .error (.missingAttribute v.owner "strip")

/-- What a filter answers for a request: an expression gives a truth value, and every failure of it is one
of evaluation. -/
def test (host : Host) (st : Store) (r : Request) : Filter → Except Fault Value
  | .always => .ok (.bool true)
  | .function f => host.request st f r
  | .expression source body =>
    let (names, st) := st.individuate r.names
    match body.eval st names with
    | .ok v => .ok (.bool (st.look v).truthy)
    | .error (.unsupportedExpression kind) => .error (.unsupportedExpression kind)
    | .error fault => .error (.filterEvaluation source fault)

end Filter

end GraphGateway
