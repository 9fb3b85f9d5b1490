import GraphGateway.Number.Binary64

/-!
# Numbers of either kind

An integer or a double. Sums of integers are exact, all others are rounded; comparisons are exact.
-/

namespace GraphGateway.Number

inductive Numeric where
  | int (n : Int)
  | real (x : Binary64)
  deriving Repr, DecidableEq, Inhabited

namespace Numeric

/-- More than every other number. -/
def infinity : Numeric := .real (.infinite false)

def toReal : Numeric → Binary64
  | .int n => .ofInt n
  | .real x => x

/-- The exact value, none for a NaN. -/
def toExact : Numeric → Option Binary64.Exact
  | .int n => some (.ratio n 1)
  | .real x => x.toExact

def isBeyond : Numeric → Bool
  | .int n =>
    match Binary64.ofInt n with
    | .infinite _ => true
    | _ => false
  | .real _ => false

/-- The sum of two numbers, of which no integer beyond the doubles is added to a double. -/
def add? : Numeric → Numeric → Option Numeric
  | .int a, .int b => some (.int (a + b))
  | a, b => if a.isBeyond || b.isBeyond then none else some (.real (a.toReal.add b.toReal))

def compare (a b : Numeric) : Option Ordering :=
  match a.toExact, b.toExact with
  | some p, some q => some (p.compare q)
  | _, _ => none

def lt (a b : Numeric) : Bool :=
  a.compare b = some .lt

def le (a b : Numeric) : Bool :=
  match a.compare b with
  | some .gt | none => false
  | some _ => true

end Numeric

end GraphGateway.Number
