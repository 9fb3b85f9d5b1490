import GraphGateway.Filter.Predicate
import GraphGateway.Proofs.Filter.Meaning

/-!
# What accepted filters answer

An expression of the filter language comes to something, whatever it is asked about. So a filter that was
compiled from a text answers for every request, and its answer is the truth value of what its expression
means.
-/

namespace GraphGateway.Filter

theorem flatten_mergeLevels (xs ys : List (List α)) :
    (mergeLevels xs ys).flatten = [] ↔ xs.flatten = [] ∧ ys.flatten = [] := by
  induction xs generalizing ys with
  | nil => simp [mergeLevels]
  | cons x xs ih =>
      cases ys with
      | nil => simp [mergeLevels]
      | cons y ys =>
          simp only [mergeLevels, List.flatten_cons, List.append_eq_nil_iff, ih]
          exact and_and_and_comm

def Expr.Clean (e : Expr) : Prop :=
  e.offences.flatten = []

theorem offence?_eq_none {e : Expr} : e.offence? = none ↔ e.Clean :=
  List.head?_eq_none_iff

variable {st : Store} {names : List (String × Value)}

/-- Whether names are bound as those of a request are. -/
def Binds (names : List (String × Value)) : Prop :=
  ∀ id ∈ scopeNames, (names.lookup id).isSome = true

mutual

theorem Expr.means (bound : Binds names) (e : Expr) (clean : e.Clean) : ∃ r, Means st names e r := by
  cases e with
  | constant v => exact ⟨_, .constant v⟩
  | name id =>
      cases found : names.lookup id with
      | some v => exact ⟨_, .name found⟩
      | none =>
          have unbound : id ∉ scopeNames := fun member => by simpa [found] using bound id member
          cases constant : literalName? id with
          | some v => exact ⟨_, .word found (literalName?_eq_some.mp constant)⟩
          | none => simp [Expr.Clean, Expr.offences, Expr.ownOffences, unbound, constant] at clean
  | junction op operands =>
      simp only [Expr.Clean, Expr.offences, List.flatten_cons, List.nil_append] at clean
      obtain ⟨r, joined⟩ := meansJoined bound op operands clean
      exact ⟨r, .junction joined⟩
  | unary op operand =>
      simp only [Expr.Clean, Expr.offences, List.flatten_cons, List.nil_append, flatten_mergeLevels] at clean
      obtain ⟨r, meant⟩ := operand.means bound clean.2
      cases r with
      | error fault => exact ⟨_, .operandFails meant⟩
      | ok v =>
          cases op with
          | not => exact ⟨_, .not meant⟩
          | negate => exact ⟨_, .negate meant (negates_iff.mpr rfl)⟩
          | plus | invert => exact absurd clean.1 (by simp [UnaryOp.offences])
  | compare left links =>
      simp only [Expr.Clean, Expr.offences, List.flatten_cons, List.nil_append, flatten_mergeLevels] at clean
      obtain ⟨r, meant⟩ := left.means bound clean.1
      cases r with
      | error fault => exact ⟨_, .leftFails meant⟩
      | ok v =>
          obtain ⟨r, linked⟩ := meansLinked bound v links clean.2
          exact ⟨_, .compare meant linked⟩
  | «attribute» value field =>
      simp only [Expr.Clean, Expr.offences, List.flatten_cons, List.append_eq_nil_iff] at clean
      obtain ⟨r, meant⟩ := value.means bound clean.2
      cases r with
      | error fault => exact ⟨_, .ownerFails meant⟩
      | ok v =>
          cases mapping : (st.look v).entries? with
          | some entries => exact ⟨_, .entry meant mapping⟩
          | none =>
              cases found : st.attribute? v field with
              | some w => exact ⟨_, .found meant mapping found⟩
              | none => exact ⟨_, .missing meant mapping found⟩
  | subscript value index =>
      simp only [Expr.Clean, Expr.offences, List.flatten_cons, List.nil_append, flatten_mergeLevels] at clean
      obtain ⟨r, meant⟩ := value.means bound clean.1
      cases r with
      | error fault => exact ⟨_, .containerFails meant⟩
      | ok v =>
          obtain ⟨r, indexed⟩ := index.means bound clean.2
          cases r with
          | error fault => exact ⟨_, .indexFails meant indexed⟩
          | ok key =>
              cases mapping : (st.look v).entries? with
              | some entries => exact ⟨_, .lookup meant indexed mapping⟩
              | none => exact ⟨_, .subscript meant indexed mapping⟩
  | display tuple items =>
      simp only [Expr.Clean, Expr.offences, List.flatten_cons, List.nil_append] at clean
      obtain ⟨r, listed⟩ := meansListed bound items clean
      exact ⟨_, .display listed⟩
  | foreign kind => simp [Expr.Clean, Expr.offences, Expr.ownOffences] at clean
termination_by sizeOf e

theorem meansJoined (bound : Binds names) (op : Junction) (operands : List Expr)
    (clean : (offencesOf operands).flatten = []) : ∃ r, MeansJoined st names op operands r := by
  cases operands with
  | nil => exact ⟨_, .nothing⟩
  | cons e rest =>
      simp only [offencesOf, flatten_mergeLevels] at clean
      obtain ⟨r, meant⟩ := e.means bound clean.1
      cases rest with
      | nil => exact ⟨_, .last meant⟩
      | cons e' rest =>
          cases r with
          | error fault => exact ⟨_, .fails meant⟩
          | ok v =>
              cases decided : op.decided (st.look v).truthy with
              | true => exact ⟨_, .decided meant decided⟩
              | false =>
                  obtain ⟨r, joined⟩ := meansJoined bound op (e' :: rest) clean.2
                  exact ⟨_, .onward meant decided joined⟩
termination_by sizeOf operands

theorem meansLinked (bound : Binds names) (left : Value) (links : List (CompareOp × Expr))
    (clean : (offencesOfLinks links).flatten = []) :
    ∃ r, MeansLinked st names left links r := by
  match links with
  | [] => exact ⟨_, .nothing⟩
  | (op, e) :: rest =>
      simp only [offencesOfLinks, flatten_mergeLevels] at clean
      obtain ⟨r, meant⟩ := e.means bound clean.1
      cases r with
      | error fault => exact ⟨_, .operandFails meant⟩
      | ok w =>
          cases compared : op.holds st left w with
          | error fault => exact ⟨_, .linkFails meant (compares_iff.mpr compared)⟩
          | ok holds =>
              cases holds with
              | false => exact ⟨_, .breaks meant (compares_iff.mpr compared)⟩
              | true =>
                  obtain ⟨r, linked⟩ := meansLinked bound w rest clean.2
                  exact ⟨_, .holds meant (compares_iff.mpr compared) linked⟩
termination_by sizeOf links

theorem meansListed (bound : Binds names) (items : List Expr) (clean : (offencesOf items).flatten = []) :
    ∃ r, MeansListed st names items r := by
  cases items with
  | nil => exact ⟨_, .nothing⟩
  | cons e rest =>
      simp only [offencesOf, flatten_mergeLevels] at clean
      obtain ⟨r, meant⟩ := e.means bound clean.1
      cases r with
      | error fault => exact ⟨_, .itemFails meant⟩
      | ok v =>
          obtain ⟨r, listed⟩ := meansListed bound rest clean.2
          exact ⟨_, .item meant listed⟩
termination_by sizeOf items

end

theorem binds_individuate (st : Store) (request : Request) : Binds (st.individuate request.names).1 := by
  have named : ∃ root args context info, (st.individuate request.names).1 =
      [("root", root), ("args", args), ("context", context), ("info", info)] := ⟨_, _, _, _, rfl⟩
  obtain ⟨root, args, context, info, named⟩ := named
  rw [named]
  simp only [Binds, scopeNames, List.forall_mem_cons]
  exact ⟨rfl, rfl, rfl, rfl, nofun⟩

theorem compile_text {s : String} {filter : Filter} (compiled : compile (.text s) = .ok filter) :
    ∃ body, parse (Text.trim s.toList) = some body ∧ filter = .expression (Value.text s).written body ∧
      body.Clean := by
  simp only [compile, ofSource] at compiled
  split at compiled
  · cases compiled
  · split at compiled
    · cases compiled
    · rename_i body parsed
      split at compiled
      · cases compiled
      · rename_i clean
        cases compiled
        exact ⟨body, parsed, rfl, offence?_eq_none.mp clean⟩

/-- How a failure in an expression is raised by the filter. -/
def raised (source : String) : Fault → Fault
  | .unsupportedExpression kind => .unsupportedExpression kind
  | cause => .filterEvaluation source cause

theorem raised_kind (source : String) (cause : Fault) :
    (raised source cause).kind = "FilterEvaluationError" := by
  cases cause <;> rfl

theorem test_expression (host : Host) (st : Store) (request : Request) (source : String) (body : Expr) :
    (Filter.expression source body).test host st request =
      let scope := st.individuate request.names
      match truth scope.2 (body.eval scope.2 scope.1) with
      | .ok b => .ok (.bool b)
      | .error cause => .error (raised source cause) := by
  simp only [test, truth]
  cases body.eval (st.individuate request.names).2 (st.individuate request.names).1 with
  | ok v => rfl
  | error cause => cases cause <;> rfl

/-- A filter is what the expression means that its text denotes. If `and` and `or` are only asked for truth values in
it, the filter gives the truth value of what the expression comes to, and raises an error of evaluation exactly if that
is a failure. -/
theorem test_answers_meaning (host : Host) (st : Store) (request : Request) {s : String} {filter : Filter}
    (compiled : compile (.text s) = .ok filter) :
    ∃ body, parse (Text.trim s.toList) = some body ∧ (body.placed true = true →
      let scope := st.individuate request.names
      let answered := filter.test host st request
      (∀ answer, answered = .ok answer ↔
        ∃ v, Means scope.2 scope.1 body (.ok v) ∧ answer = .bool (scope.2.look v).truthy) ∧
      (∀ fault, answered = .error fault ↔
        ∃ cause, Means scope.2 scope.1 body (.error cause) ∧ fault = raised (Value.text s).written cause) ∧
      ∀ fault, answered = .error fault → fault.kind = "FilterEvaluationError") := by
  obtain ⟨body, parsed, rfl, clean⟩ := compile_text compiled
  refine ⟨body, parsed, fun placed => ?_⟩
  intro scope answered
  have answers : ∀ r, Means scope.2 scope.1 body r → answered =
      match truth scope.2 r with
      | .ok b => .ok (.bool b)
      | .error cause => .error (raised (Value.text s).written cause) := by
    intro r meant
    have same : truth scope.2 (body.eval scope.2 scope.1) = truth scope.2 r := meant.agrees true placed
    rw [← same]
    exact test_expression host st request _ body
  obtain ⟨r, meant⟩ := body.means (binds_individuate st request) clean
  have answer := answers r meant
  refine ⟨fun given => ⟨fun gave => ?_, ?_⟩, fun fault => ⟨fun failed => ?_, ?_⟩, fun fault failed => ?_⟩
  · rw [answer] at gave
    cases r with
    | ok v =>
        cases gave
        exact ⟨v, meant, rfl⟩
    | error cause => cases gave
  · rintro ⟨v, meant, rfl⟩
    exact answers (.ok v) meant
  · rw [answer] at failed
    cases r with
    | ok v => cases failed
    | error cause =>
        cases failed
        exact ⟨cause, meant, rfl⟩
  · rintro ⟨cause, meant, rfl⟩
    exact answers (.error cause) meant
  · rw [answer] at failed
    cases r with
    | ok v => cases failed
    | error cause =>
        cases failed
        exact raised_kind _ cause

/-- A request for an open order of twenty pieces. -/
def openOrder : Request where
  root := .map [(.text "open", .bool true), (.text "pieces", .int 20)]
  args := .map []
  context := .null
  info := .null

theorem accepted_of_toOption {v : Value} (accepted : (compile v).toOption.isSome = true) :
    ∃ filter, compile v = .ok filter := by
  cases compiled : compile v with
  | ok filter => exact ⟨filter, rfl⟩
  | error fault =>
      rw [compiled] at accepted
      cases accepted

section Recognition

mutual

/-- Whether two expressions are the same, as far as their constants are integers and texts. -/
def Expr.alike : Expr → Expr → Bool
  | .constant (.int m), .constant (.int n) => m = n
  | .constant (.text s), .constant (.text t) => s = t
  | .name id, .name id' => id = id'
  | .junction op operands, .junction op' operands' => op = op' && alikeAll operands operands'
  | .unary op operand, .unary op' operand' => op = op' && operand.alike operand'
  | .compare left links, .compare left' links' => left.alike left' && alikeLinks links links'
  | .attribute value field, .attribute value' field' => value.alike value' && field = field'
  | .subscript value index, .subscript value' index' => value.alike value' && index.alike index'
  | .display isTuple items, .display isTuple' items' => isTuple = isTuple' && alikeAll items items'
  | .foreign kind, .foreign kind' => kind = kind'
  | _, _ => false

def alikeAll : List Expr → List Expr → Bool
  | [], [] => true
  | e :: rest, e' :: rest' => e.alike e' && alikeAll rest rest'
  | _, _ => false

def alikeLinks : List (CompareOp × Expr) → List (CompareOp × Expr) → Bool
  | [], [] => true
  | (op, e) :: rest, (op', e') :: rest' => op = op' && e.alike e' && alikeLinks rest rest'
  | _, _ => false

end

mutual

theorem Expr.eq_of_alike {e e' : Expr} (same : e.alike e' = true) : e = e' := by
  unfold Expr.alike at same
  split at same
  all_goals simp only [Bool.and_eq_true, decide_eq_true_eq, Bool.false_eq_true] at same
  case h_1 | h_2 | h_3 | h_10 => rw [same]
  case h_4 => rw [same.1, alikeAll_eq same.2]
  case h_5 => rw [same.1, Expr.eq_of_alike same.2]
  case h_6 => rw [Expr.eq_of_alike same.1, alikeLinks_eq same.2]
  case h_7 => rw [Expr.eq_of_alike same.1, same.2]
  case h_8 => rw [Expr.eq_of_alike same.1, Expr.eq_of_alike same.2]
  case h_9 => rw [same.1, alikeAll_eq same.2]
termination_by sizeOf e

theorem alikeAll_eq {es es' : List Expr} (same : alikeAll es es' = true) : es = es' := by
  match es, es' with
  | [], [] => rfl
  | [], _ :: _ | _ :: _, [] => cases same
  | e :: rest, e' :: rest' =>
      rw [alikeAll, Bool.and_eq_true] at same
      rw [Expr.eq_of_alike same.1, alikeAll_eq same.2]
termination_by sizeOf es

theorem alikeLinks_eq {links links' : List (CompareOp × Expr)} (same : alikeLinks links links' = true) :
    links = links' := by
  match links, links' with
  | [], [] => rfl
  | [], _ :: _ | _ :: _, [] => cases same
  | (op, e) :: rest, (op', e') :: rest' =>
      simp only [alikeLinks, Bool.and_eq_true, decide_eq_true_eq] at same
      rw [same.1.1, Expr.eq_of_alike same.1.2, alikeLinks_eq same.2]
termination_by sizeOf links

end

theorem parse_of_alike {text : List Char} {e : Expr} (same : (parse text).any (·.alike e) = true) :
    parse text = some e := by
  obtain ⟨found, parsed, alike⟩ := (Option.any_eq_true _ _).mp same
  rw [parsed, Expr.eq_of_alike alike]

end Recognition

def openText : String :=
  "not (root.open and 1 < root.pieces < 10) or root.missing[0]"

def openExpr : Expr :=
  .junction .or [
    .unary .not (.junction .and [
      .attribute (.name "root") "open",
      .compare (.constant (.int 1)) [
        (.order .lt, .attribute (.name "root") "pieces"), (.order .lt, .constant (.int 10))]]),
    .subscript (.attribute (.name "root") "missing") (.constant (.int 0))]

/-- The chain of comparisons breaks at its second link, which decides the whole: what is missing behind it is
not asked for. -/
theorem openOrder_passes :
    parse (Text.trim openText.toList) = some openExpr ∧ openExpr.placed true = true ∧
      let scope := Store.empty.individuate openOrder.names
      Means scope.2 scope.1 openExpr (.ok (.bool true)) ∧
      ∃ filter, compile (.text openText) = .ok filter ∧
        filter.test Host.empty Store.empty openOrder = .ok (.bool true) := by
  have parsed : parse (Text.trim openText.toList) = some openExpr := parse_of_alike (by decide +kernel)
  have placed : openExpr.placed true = true := by decide +kernel
  obtain ⟨filter, compiled⟩ := accepted_of_toOption (v := .text openText) (by decide +kernel)
  refine ⟨parsed, placed, ?_⟩
  intro scope
  obtain ⟨body, denoted, answers⟩ := test_answers_meaning Host.empty Store.empty openOrder compiled
  obtain rfl : openExpr = body := Option.some.inj (parsed.symm.trans denoted)
  have pieces : Means scope.2 scope.1 (.attribute (.name "root") "pieces") (.ok (.int 20)) :=
    Means.entry (v := openOrder.root) (.name rfl) rfl
  have chain : MeansLinked scope.2 scope.1 (.int 1)
      [(.order .lt, .attribute (.name "root") "pieces"), (.order .lt, .constant (.int 10))] (.ok false) :=
    .holds pieces (compares_iff.mpr rfl) (.breaks (.constant _) (compares_iff.mpr rfl))
  have both : MeansJoined scope.2 scope.1 .and
      [.attribute (.name "root") "open", .compare (.constant (.int 1))
        [(.order .lt, .attribute (.name "root") "pieces"), (.order .lt, .constant (.int 10))]] (.ok (.bool false)) :=
    .onward (.entry (.name rfl) rfl) rfl (.last (.compare (.constant _) chain))
  have meant : Means scope.2 scope.1 openExpr (.ok (.bool true)) := .junction (.decided (.not (.junction both)) rfl)
  exact ⟨meant, filter, compiled, ((answers placed).1 _).mpr ⟨_, meant, rfl⟩⟩

end GraphGateway.Filter
