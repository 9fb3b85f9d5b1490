import GraphGateway.Proofs.Filter.Language

/-!
# Watching an evaluation

`Expr.watch` is evaluation with a record of what it does with the words of its expression: the attributes that it
reads by name, and every word and operator that its tables do not have. Where evaluation relies on the language, it
has the branch for what is outside. The record changes nothing: the result is that of evaluation.
-/

namespace GraphGateway.Filter

/-- What an evaluation does with the words of its expression. -/
inductive Event where
  /-- The attribute of a name is read of a value. -/
  | reads (object : Value) (name : String)
  /-- An expression is met that there is no rule for. -/
  | ruleless (kind : String)
  /-- A name is looked up among the words for constants, which do not have it. -/
  | wordless (id : String)
  /-- An operator is looked up among the comparisons, which do not have it. -/
  | incomparable (op : CompareOp)

/-- Whether a filter may do so. -/
def Event.Permitted : Event → Prop
  | .reads _ name => name.startsWith "_" = false
  | .ruleless _ | .wordless _ | .incomparable _ => False

/-- The result of an evaluation, with what it did on the way. -/
structure Watched (α : Type) where
  outcome : Except Fault α
  events : List Event := []

namespace Watched

/-- Go on with a result, unless there is none. -/
def andThen (w : Watched α) (next : α → Watched β) : Watched β :=
  match w.outcome with
  | .ok a => ⟨(next a).outcome, w.events ++ (next a).events⟩
  | .error fault => ⟨.error fault, w.events⟩

instance : Monad Watched where
  pure a := ⟨.ok a, []⟩
  bind := andThen

@[simp] theorem outcome_pure (a : α) : (pure a : Watched α).outcome = .ok a := rfl

@[simp] theorem outcome_bind (w : Watched α) (next : α → Watched β) :
    (w >>= next).outcome = w.outcome.bind fun a => (next a).outcome := by
  simp only [bind, andThen]
  cases w.outcome <;> rfl

end Watched

def comparisons : List (CompareOp × (Store → Value → Value → Except Fault Bool)) :=
  [.eq, .ne, .order .gt, .order .ge, .order .lt, .order .le, .within, .notWithin, .is, .isNot].map fun op =>
    (op, fun st a b => op.holds st a b)

mutual

/-- Evaluate an expression and watch what is done. -/
def Expr.watch (st : Store) (names : List (String × Value)) : Expr → Watched Value
  | .constant v => pure v
  | .name id =>
    match names.lookup id with
    | some v => pure v
    | none =>
      match literalNames.lookup (lowered id) with
      | some v => pure v
      | none => ⟨.error (.missingKey (.text (lowered id))), [.wordless id]⟩
  | .junction .and operands => do pure (.bool (← watchAll st names operands))
  | .junction .or operands => do pure (.bool (← watchAny st names operands))
  | .unary op operand => do
    let v ← operand.watch st names
    match op with
    | .not => pure (.bool !(st.look v).truthy)
    | _ => ⟨negate (st.look v), []⟩
  | .compare left links => do
    let v ← left.watch st names
    pure (.bool (← watchChain st names v links))
  | .attribute value field => do
    let v ← value.watch st names
    ⟨.ok (attributeOf st v field), [.reads v field]⟩
  | .subscript value index => do
    let v ← value.watch st names
    let key ← index.watch st names
    ⟨st.subscript v key, []⟩
  | .display _ items => do pure (.list (← watchItems st names items))
  | .foreign kind => ⟨.error (.unsupportedExpression kind), [.ruleless kind]⟩

def watchAll (st : Store) (names : List (String × Value)) : List Expr → Watched Bool
  | [] => pure true
  | e :: rest => do
    let v ← e.watch st names
    if (st.look v).truthy then watchAll st names rest else pure false

def watchAny (st : Store) (names : List (String × Value)) : List Expr → Watched Bool
  | [] => pure false
  | e :: rest => do
    let v ← e.watch st names
    if (st.look v).truthy then pure true else watchAny st names rest

def watchChain (st : Store) (names : List (String × Value)) (left : Value) :
    List (CompareOp × Expr) → Watched Bool
  | [] => pure true
  | (op, e) :: rest => do
    let right ← e.watch st names
    let holds : Watched Bool :=
      match comparisons.lookup op with
      | some compare => ⟨compare st left right, []⟩
      | none => ⟨.error (.missingKey (.other "type")), [.incomparable op]⟩
    if ← holds then watchChain st names right rest else pure false

def watchItems (st : Store) (names : List (String × Value)) : List Expr → Watched (List Value)
  | [] => pure []
  | e :: rest => do
    let v ← e.watch st names
    let vs ← watchItems st names rest
    pure (v :: vs)

end

theorem comparisons_lookup (op : CompareOp) :
    comparisons.lookup op = some fun st a b => op.holds st a b := by
  cases op with
  | order o => cases o <;> rfl
  | _ => rfl

variable {st : Store} {names : List (String × Value)}

mutual

/-- Watching an evaluation does not change its result. -/
theorem Expr.watch_outcome (e : Expr) : (e.watch st names).outcome = e.eval st names := by
  cases e with
  | constant v => rfl
  | name id =>
      simp only [Expr.watch, Expr.eval, nameOf, literalName?, lowered]
      cases names.lookup id with
      | some v => rfl
      | none => cases literalNames.lookup (String.ofList (Text.lower id.toList)) <;> rfl
  | junction op operands =>
      cases op with
      | and => simp only [Expr.watch, Expr.eval, Watched.outcome_bind, watchAll_outcome operands]; rfl
      | or => simp only [Expr.watch, Expr.eval, Watched.outcome_bind, watchAny_outcome operands]; rfl
  | unary op operand =>
      simp only [Expr.watch, Expr.eval, Watched.outcome_bind, operand.watch_outcome]
      cases op <;> rfl
  | compare left links =>
      simp only [Expr.watch, Expr.eval, Watched.outcome_bind, left.watch_outcome, watchChain_outcome links]
      rfl
  | «attribute» value field =>
      simp only [Expr.watch, Expr.eval, Watched.outcome_bind, value.watch_outcome]
      rfl
  | subscript value index =>
      simp only [Expr.watch, Expr.eval, Watched.outcome_bind, value.watch_outcome, index.watch_outcome]
      rfl
  | display isTuple items =>
      simp only [Expr.watch, Expr.eval, Watched.outcome_bind, watchItems_outcome items]
      rfl
  | foreign kind => rfl
termination_by sizeOf e

theorem watchAll_outcome (operands : List Expr) :
    (watchAll st names operands).outcome = evalAll st names operands := by
  cases operands with
  | nil => rfl
  | cons e rest =>
      simp only [watchAll, evalAll, Watched.outcome_bind, e.watch_outcome, apply_ite Watched.outcome,
        watchAll_outcome rest]
      rfl
termination_by sizeOf operands

theorem watchAny_outcome (operands : List Expr) :
    (watchAny st names operands).outcome = evalAny st names operands := by
  cases operands with
  | nil => rfl
  | cons e rest =>
      simp only [watchAny, evalAny, Watched.outcome_bind, e.watch_outcome, apply_ite Watched.outcome,
        watchAny_outcome rest]
      rfl
termination_by sizeOf operands

theorem watchChain_outcome (links : List (CompareOp × Expr)) (left : Value) :
    (watchChain st names left links).outcome = evalChain st names left links := by
  match links with
  | [] => rfl
  | (op, e) :: rest =>
      simp only [watchChain, evalChain, Watched.outcome_bind, e.watch_outcome, comparisons_lookup,
        apply_ite Watched.outcome, watchChain_outcome rest]
      rfl
termination_by sizeOf links

theorem watchItems_outcome (items : List Expr) :
    (watchItems st names items).outcome = evalItems st names items := by
  cases items with
  | nil => rfl
  | cons e rest =>
      simp only [watchItems, evalItems, Watched.outcome_bind, e.watch_outcome, watchItems_outcome rest]
      rfl
termination_by sizeOf items

end

end GraphGateway.Filter
