import GraphGateway.Fault
import GraphGateway.Filter.Syntax
import GraphGateway.Text.Case

/-!
# The filter language

Which expressions are filters: they use no operation outside the language, name no private attribute,
and name nothing but the parts of a request and the words for constants. Of several offences the one
nearest to the root is reported, and of those at one depth the leftmost.
-/

namespace GraphGateway.Filter

/-- The names that are bound to the parts of a request. -/
def scopeNames : List String :=
  ["root", "args", "context", "info"]

/-- The words for constants, in lower case. -/
def literalNames : List (String × Value) :=
  [("true", .bool true), ("false", .bool false), ("null", .null), ("none", .null)]

/-- The constant that a word stands for, however it is cased. -/
def literalName? (id : String) : Option Value :=
  literalNames.lookup (String.ofList (Text.lower id.toList))

/-- What keeps an expression out of the language. -/
inductive Offence where
  | unsupported (kind : String)
  | privateAttribute (name : String)
  | unknownName (id : String)
  deriving Repr, DecidableEq

def Offence.message (source : String) : Offence → String
  | .unsupported kind => "Unsupported syntax " ++ kind ++ " in filter " ++ source
  | .privateAttribute name => "Private attribute " ++ Text.quoted name ++ " in filter " ++ source
  | .unknownName id => "Unknown name " ++ Text.quoted id ++ " in filter " ++ source

/-- The offence of a prefix operator, as a node of its own. -/
def UnaryOp.offences : UnaryOp → List Offence
  | .not | .negate => []
  | .plus => [.unsupported "UAdd"]
  | .invert => [.unsupported "Invert"]

/-- The offences of a node itself. -/
def Expr.ownOffences : Expr → List Offence
  | .foreign kind => [.unsupported kind]
  | .attribute _ field => if field.startsWith "_" then [.privateAttribute field] else []
  | .name id =>
    if scopeNames.contains id || (literalName? id).isSome then [] else [.unknownName id]
  | _ => []

def mergeLevels : List (List α) → List (List α) → List (List α)
  | [], ys => ys
  | xs, [] => xs
  | x :: xs, y :: ys => (x ++ y) :: mergeLevels xs ys

mutual

/-- The offences in an expression by their depth. -/
def Expr.offences : Expr → List (List Offence)
  | .junction _ operands => [] :: offencesOf operands
  | .unary op operand => [] :: mergeLevels [op.offences] operand.offences
  | .compare left links => [] :: mergeLevels left.offences (offencesOfLinks links)
  | .attribute value field => (Expr.attribute value field).ownOffences :: value.offences
  | .subscript value index => [] :: mergeLevels value.offences index.offences
  | .display _ items => [] :: offencesOf items
  | e => [e.ownOffences]

def offencesOf : List Expr → List (List Offence)
  | [] => []
  | e :: rest => mergeLevels e.offences (offencesOf rest)

def offencesOfLinks : List (CompareOp × Expr) → List (List Offence)
  | [] => []
  | (_, e) :: rest => mergeLevels e.offences (offencesOfLinks rest)

end

/-- The offence that is reported. -/
def Expr.offence? (e : Expr) : Option Offence :=
  e.offences.flatten.head?

end GraphGateway.Filter
