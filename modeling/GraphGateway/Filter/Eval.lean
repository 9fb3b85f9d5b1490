import GraphGateway.Filter.Whitelist
import GraphGateway.Template.Scope
import GraphGateway.Value.Attribute

/-!
# Values of filters

The value of an expression for a request. A missing attribute is null, `and` and `or` give a truth value
and stop at the operand that decides, and a chain of comparisons stops at the first that fails.
-/

namespace GraphGateway.Filter

/-- The value of an attribute: the entry of a mapping, or the attribute of another value. -/
def attributeOf (st : Store) (v : Value) (name : String) : Value :=
  match (st.look v).entries? with
  | some entries => (Value.lookup name entries).getD .null
  | none => (st.attribute? v name).getD .null

def negate (v : Value) : Except Fault Value :=
  match v with
  | .bool b => .ok (.int (if b then -1 else 0))
  | .int n => .ok (.int (-n))
  | .real x => .ok (.real x.neg)
  | .imaginary x => .ok (.imaginary x.neg)
  | v => .error (.misuse (.notNegatable v.kind))

def CompareOp.holds (st : Store) (op : CompareOp) (a b : Value) : Except Fault Bool :=
  match op with
  | .eq => .ok (st.equal a b)
  | .ne => .ok (!st.equal a b)
  | .order o => st.ordered o a b
  | .within => st.contains b a
  | .notWithin => (st.contains b a).map not
  | .is => .ok (Store.identical a b)
  | .isNot => .ok (!Store.identical a b)

def nameOf (names : List (String × Value)) (id : String) : Except Fault Value :=
  match names.lookup id with
  | some v => .ok v
  | none =>
    match literalName? id with
    | some v => .ok v
    | none => .error (.missingKey (.text (String.ofList (Text.lower id.toList))))

mutual

def Expr.eval (st : Store) (names : List (String × Value)) : Expr → Except Fault Value
  | .constant v => .ok v
  | .name id => nameOf names id
  | .junction .and operands => do pure (.bool (← evalAll st names operands))
  | .junction .or operands => do pure (.bool (← evalAny st names operands))
  | .unary op operand => do
    let v ← operand.eval st names
    match op with
    | .not => pure (.bool !(st.look v).truthy)
    | _ => negate (st.look v)
  | .compare left links => do
    let v ← left.eval st names
    pure (.bool (← evalChain st names v links))
  | .attribute value field => do
    let v ← value.eval st names
    pure (attributeOf st v field)
  | .subscript value index => do
    let v ← value.eval st names
    let key ← index.eval st names
    st.subscript v key
  | .display _ items => do pure (.list (← evalItems st names items))
  | .foreign kind => .error (.unsupportedExpression kind)

/-- Whether all operands count as true, up to the first that does not. -/
def evalAll (st : Store) (names : List (String × Value)) : List Expr → Except Fault Bool
  | [] => pure true
  | e :: rest => do
    let v ← e.eval st names
    if (st.look v).truthy then evalAll st names rest else pure false

/-- Whether an operand counts as true, up to the first that does. -/
def evalAny (st : Store) (names : List (String × Value)) : List Expr → Except Fault Bool
  | [] => pure false
  | e :: rest => do
    let v ← e.eval st names
    if (st.look v).truthy then pure true else evalAny st names rest

/-- Whether a chain of comparisons holds from a left operand on. -/
def evalChain (st : Store) (names : List (String × Value)) (left : Value) :
    List (CompareOp × Expr) → Except Fault Bool
  | [] => pure true
  | (op, e) :: rest => do
    let right ← e.eval st names
    if ← op.holds st left right then evalChain st names right rest else pure false

def evalItems (st : Store) (names : List (String × Value)) : List Expr → Except Fault (List Value)
  | [] => pure []
  | e :: rest => do
    let v ← e.eval st names
    let vs ← evalItems st names rest
    pure (v :: vs)

end

end GraphGateway.Filter
