import GraphGateway.Value.Equal

/-!
# Filter expressions

The tree of an expression. Operations outside the filter language appear in it as `foreign` nodes, of
which only the name of the kind is kept.
-/

namespace GraphGateway.Filter

/-- The operators before an operand. -/
inductive UnaryOp where
  | not
  | negate
  | plus
  | invert
  deriving Repr, DecidableEq

inductive CompareOp where
  | eq
  | ne
  | order (o : Order)
  | within
  | notWithin
  | is
  | isNot
  deriving Repr, DecidableEq

inductive Junction where
  | and
  | or
  deriving Repr, DecidableEq

inductive Expr where
  | constant (v : Value)
  | name (id : String)
  | junction (op : Junction) (operands : List Expr)
  | unary (op : UnaryOp) (operand : Expr)
  /-- A chain of comparisons, each with the operand to its right. -/
  | compare (left : Expr) (links : List (CompareOp × Expr))
  | attribute (value : Expr) (name : String)
  | subscript (value index : Expr)
  /-- A list or tuple display. -/
  | display (isTuple : Bool) (items : List Expr)
  | foreign (kind : String)
  deriving Inhabited

end GraphGateway.Filter
