import GraphGateway.Proofs.Filter.Language

/-!
# Junctions as values

Wherever `and` and `or` stand in a filter, they give a truth value: as if `not` stood twice before them. An expression
comes to what it means when it is read in this way. What a junction gives is the operand that decides it only where
this operand is a truth value itself.
-/

namespace GraphGateway.Filter

mutual

/-- An expression with `not` twice before every junction in it. -/
def Expr.reduced : Expr → Expr
  | .junction op operands => .unary .not (.unary .not (.junction op (reducedAll operands)))
  | .unary op operand => .unary op operand.reduced
  | .compare left links => .compare left.reduced (reducedLinks links)
  | .attribute value field => .attribute value.reduced field
  | .subscript value index => .subscript value.reduced index.reduced
  | .display isTuple items => .display isTuple (reducedAll items)
  | e => e

def reducedAll : List Expr → List Expr
  | [] => []
  | e :: rest => e.reduced :: reducedAll rest

def reducedLinks : List (CompareOp × Expr) → List (CompareOp × Expr)
  | [] => []
  | (op, e) :: rest => (op, e.reduced) :: reducedLinks rest

end

variable {st : Store} {names : List (String × Value)}

theorem eval_not_not (e : Expr) :
    (Expr.unary .not (.unary .not e)).eval st names = (truth st (e.eval st names)).map .bool := by
  rw [eval_not, eval_not]
  cases truth st (e.eval st names) with
  | error fault => rfl
  | ok b => cases b <;> rfl

theorem truth_junction (op : Junction) (operands : List Expr) :
    truth st ((Expr.junction op operands).eval st names) = evalJoined st names op operands := by
  rw [eval_junction]
  cases evalJoined st names op operands <;> rfl

mutual

/-- Junctions give truth values already, so that `not` twice before them changes nothing. -/
theorem Expr.eval_reduced (e : Expr) : e.reduced.eval st names = e.eval st names := by
  cases e with
  | junction op operands =>
      rw [Expr.reduced, eval_not_not, truth_junction, evalJoined_reduced op operands, eval_junction]
  | unary op operand => simp only [Expr.reduced, Expr.eval, operand.eval_reduced]
  | compare left links => simp only [Expr.reduced, Expr.eval, left.eval_reduced, evalChain_reduced links]
  | «attribute» value field => simp only [Expr.reduced, Expr.eval, value.eval_reduced]
  | subscript value index => simp only [Expr.reduced, Expr.eval, value.eval_reduced, index.eval_reduced]
  | display isTuple items => simp only [Expr.reduced, Expr.eval, evalItems_reduced items]
  | constant | name | foreign => rfl
termination_by sizeOf e

theorem evalJoined_reduced (op : Junction) (operands : List Expr) :
    evalJoined st names op (reducedAll operands) = evalJoined st names op operands := by
  cases operands with
  | nil => rfl
  | cons e rest => rw [reducedAll, evalJoined_cons, evalJoined_cons, e.eval_reduced, evalJoined_reduced op rest]
termination_by sizeOf operands

theorem evalChain_reduced (links : List (CompareOp × Expr)) (left : Value) :
    evalChain st names left (reducedLinks links) = evalChain st names left links := by
  match links with
  | [] => rfl
  | (op, e) :: rest => simp only [reducedLinks, evalChain, e.eval_reduced, evalChain_reduced rest]
termination_by sizeOf links

theorem evalItems_reduced (items : List Expr) :
    evalItems st names (reducedAll items) = evalItems st names items := by
  cases items with
  | nil => rfl
  | cons e rest => simp only [reducedAll, evalItems, e.eval_reduced, evalItems_reduced rest]
termination_by sizeOf items

end

mutual

theorem Expr.placed_reduced (e : Expr) (condition : Bool) : e.reduced.placed condition = true := by
  cases e with
  | junction op operands => simp only [Expr.reduced, Expr.placed, placedAll_reduced operands, Bool.and_self]
  | unary op operand =>
      cases op with
      | not => exact operand.placed_reduced true
      | negate | plus | invert => exact operand.placed_reduced false
  | compare left links =>
      simp only [Expr.reduced, Expr.placed, left.placed_reduced, placedLinks_reduced links, Bool.and_self]
  | «attribute» value field => exact value.placed_reduced false
  | subscript value index =>
      simp only [Expr.reduced, Expr.placed, value.placed_reduced, index.placed_reduced, Bool.and_self]
  | display isTuple items => exact placedAll_reduced items false
  | constant | name | foreign => rfl
termination_by sizeOf e

theorem placedAll_reduced (operands : List Expr) (condition : Bool) :
    placedAll condition (reducedAll operands) = true := by
  cases operands with
  | nil => rfl
  | cons e rest => simp only [reducedAll, placedAll, e.placed_reduced, placedAll_reduced rest, Bool.and_self]
termination_by sizeOf operands

theorem placedLinks_reduced (links : List (CompareOp × Expr)) : placedLinks (reducedLinks links) = true := by
  match links with
  | [] => rfl
  | (op, e) :: rest =>
      simp only [reducedLinks, placedLinks, e.placed_reduced, placedLinks_reduced rest, Bool.and_self]
termination_by sizeOf links

end

mutual

theorem Expr.reduced_clean (e : Expr) (clean : e.Clean) : e.reduced.Clean := by
  cases e with
  | junction op operands =>
      simp only [Expr.Clean, Expr.offences, List.flatten_cons, List.nil_append] at clean
      simp only [Expr.reduced, Expr.Clean, Expr.offences, UnaryOp.offences, List.flatten_cons, List.flatten_nil,
        List.nil_append, flatten_mergeLevels, reducedAll_clean operands clean, and_self]
  | unary op operand =>
      simp only [Expr.Clean, Expr.offences, List.flatten_cons, List.nil_append, flatten_mergeLevels] at clean
      simp only [Expr.reduced, Expr.Clean, Expr.offences, List.flatten_cons, List.nil_append, flatten_mergeLevels]
      exact ⟨clean.1, operand.reduced_clean clean.2⟩
  | compare left links =>
      simp only [Expr.Clean, Expr.offences, List.flatten_cons, List.nil_append, flatten_mergeLevels] at clean
      simp only [Expr.reduced, Expr.Clean, Expr.offences, List.flatten_cons, List.nil_append, flatten_mergeLevels]
      exact ⟨left.reduced_clean clean.1, reducedLinks_clean links clean.2⟩
  | «attribute» value field =>
      simp only [Expr.Clean, Expr.offences, List.flatten_cons, List.append_eq_nil_iff] at clean
      simp only [Expr.reduced, Expr.Clean, Expr.offences, List.flatten_cons, List.append_eq_nil_iff]
      exact ⟨clean.1, value.reduced_clean clean.2⟩
  | subscript value index =>
      simp only [Expr.Clean, Expr.offences, List.flatten_cons, List.nil_append, flatten_mergeLevels] at clean
      simp only [Expr.reduced, Expr.Clean, Expr.offences, List.flatten_cons, List.nil_append, flatten_mergeLevels]
      exact ⟨value.reduced_clean clean.1, index.reduced_clean clean.2⟩
  | display isTuple items =>
      simp only [Expr.Clean, Expr.offences, List.flatten_cons, List.nil_append] at clean
      simp only [Expr.reduced, Expr.Clean, Expr.offences, List.flatten_cons, List.nil_append]
      exact reducedAll_clean items clean
  | constant | name | foreign => exact clean
termination_by sizeOf e

theorem reducedAll_clean (operands : List Expr) (clean : (offencesOf operands).flatten = []) :
    (offencesOf (reducedAll operands)).flatten = [] := by
  cases operands with
  | nil => rfl
  | cons e rest =>
      simp only [offencesOf, flatten_mergeLevels] at clean
      simp only [reducedAll, offencesOf, flatten_mergeLevels]
      exact ⟨e.reduced_clean clean.1, reducedAll_clean rest clean.2⟩
termination_by sizeOf operands

theorem reducedLinks_clean (links : List (CompareOp × Expr)) (clean : (offencesOfLinks links).flatten = []) :
    (offencesOfLinks (reducedLinks links)).flatten = [] := by
  match links with
  | [] => rfl
  | (op, e) :: rest =>
      simp only [offencesOfLinks, flatten_mergeLevels] at clean
      simp only [reducedLinks, offencesOfLinks, flatten_mergeLevels]
      exact ⟨e.reduced_clean clean.1, reducedLinks_clean rest clean.2⟩
termination_by sizeOf links

end

theorem means_reduced_iff (bound : Binds names) {e : Expr} (clean : e.Clean) (r : Except Fault Value) :
    Means st names e.reduced r ↔ e.eval st names = r := by
  have value : ∀ {r}, Means st names e.reduced r → e.eval st names = r := by
    intro r meant
    have same : e.reduced.eval st names = r := meant.agrees false (e.placed_reduced false)
    rw [← same, e.eval_reduced]
  constructor
  · exact value
  · rintro rfl
    obtain ⟨r, meant⟩ := e.reduced.means bound (e.reduced_clean clean)
    rwa [value meant]

mutual

theorem Expr.nodes_inside (e : Expr) {inner : Expr} (member : .expr inner ∈ e.nodes) :
    ∀ node ∈ inner.nodes, node ∈ e.nodes := by
  have itself : inner = e ∨ inner ≠ e := Classical.em _
  rcases itself with rfl | other
  · exact fun node within => within
  · have apart : Node.expr inner ≠ .expr e := fun same => other (Node.expr.inj same)
    intro node within
    cases e with
    | junction op operands =>
        have below := (List.mem_cons.mp member).resolve_left apart
        exact List.mem_cons_of_mem _ (nodesOf_inside operands below node within)
    | unary op operand =>
        have below := (List.mem_cons.mp ((List.mem_cons.mp member).resolve_left apart)).resolve_left nofun
        exact List.mem_cons_of_mem _ (List.mem_cons_of_mem _ (operand.nodes_inside below node within))
    | compare left links =>
        rcases List.mem_append.mp ((List.mem_cons.mp member).resolve_left apart) with before | after
        · exact List.mem_cons_of_mem _ (List.mem_append_left _ (left.nodes_inside before node within))
        · exact List.mem_cons_of_mem _ (List.mem_append_right _ (nodesOfLinks_inside links after node within))
    | «attribute» value field =>
        have below := (List.mem_cons.mp member).resolve_left apart
        exact List.mem_cons_of_mem _ (value.nodes_inside below node within)
    | subscript value index =>
        rcases List.mem_append.mp ((List.mem_cons.mp member).resolve_left apart) with before | after
        · exact List.mem_cons_of_mem _ (List.mem_append_left _ (value.nodes_inside before node within))
        · exact List.mem_cons_of_mem _ (List.mem_append_right _ (index.nodes_inside after node within))
    | display isTuple items =>
        have below := (List.mem_cons.mp member).resolve_left apart
        exact List.mem_cons_of_mem _ (nodesOf_inside items below node within)
    | constant | name | foreign => exact absurd (List.mem_singleton.mp member) apart
termination_by sizeOf e

theorem nodesOf_inside (operands : List Expr) {inner : Expr} (member : .expr inner ∈ nodesOf operands) :
    ∀ node ∈ inner.nodes, node ∈ nodesOf operands := by
  intro node within
  cases operands with
  | nil => cases member
  | cons e rest =>
      rcases List.mem_append.mp member with first | others
      · exact List.mem_append_left _ (e.nodes_inside first node within)
      · exact List.mem_append_right _ (nodesOf_inside rest others node within)
termination_by sizeOf operands

theorem nodesOfLinks_inside (links : List (CompareOp × Expr)) {inner : Expr}
    (member : .expr inner ∈ nodesOfLinks links) : ∀ node ∈ inner.nodes, node ∈ nodesOfLinks links := by
  intro node within
  match links with
  | [] => cases member
  | (op, e) :: rest =>
      rcases List.mem_append.mp member with first | others
      · exact List.mem_append_left _ (e.nodes_inside first node within)
      · exact List.mem_append_right _ (nodesOfLinks_inside rest others node within)
termination_by sizeOf links

end

theorem Expr.Clean.inside {e inner : Expr} (clean : e.Clean) (member : .expr inner ∈ e.nodes) : inner.Clean :=
  inner.clean_iff.mpr fun node within => e.clean_iff.mp clean node (e.nodes_inside member node within)

/-- What its operands come to decides the value of a junction, which is a truth value. -/
theorem junction_value (bound : Binds names) {op : Junction} {operands : List Expr}
    (clean : (Expr.junction op operands).Clean) :
    ∃ r, MeansJoined st names op (reducedAll operands) r ∧
      (Expr.junction op operands).eval st names = (truth st r).map .bool ∧
      ((Expr.junction op operands).eval st names = r ↔ ∀ v, r = .ok v → ∃ b, v = .bool b) := by
  simp only [Expr.Clean, Expr.offences, List.flatten_cons, List.nil_append] at clean
  obtain ⟨r, joined⟩ := meansJoined bound op (reducedAll operands) (reducedAll_clean operands clean)
  have value : (Expr.junction op operands).eval st names = (truth st r).map .bool := by
    rw [eval_junction, ← evalJoined_reduced, joined.agrees (placedAll_reduced operands true)]
  refine ⟨r, joined, value, ?_⟩
  rw [value]
  cases r with
  | error fault => exact ⟨nofun, fun _ => rfl⟩
  | ok v =>
      constructor
      · rintro same _ ⟨⟩
        exact ⟨_, (Except.ok.inj same).symm⟩
      · intro logical
        obtain ⟨b, rfl⟩ := logical v rfl
        rfl

theorem clean_of_compile {v : Value} {source : String} {body : Expr}
    (compiled : compile v = .ok (.expression source body)) : body.Clean := by
  have accepted : ∀ {source' text}, ofSource source' text = .ok (.expression source body) → body.Clean := by
    intro source' text made
    unfold ofSource at made
    split at made
    · cases made
    · split at made
      · cases made
      · rename_i clean
        cases made
        exact offence?_eq_none.mp clean
  unfold compile at compiled
  dsimp only at compiled
  split at compiled
  · cases compiled
  · split at compiled
    · cases compiled
    · exact accepted compiled
  · split at compiled
    · cases compiled
    · split at compiled
      · exact accepted compiled
      · cases compiled
  · split at compiled <;> cases compiled

/-- Every `and` and `or` of a filter gives a truth value, wherever it stands: that of the operand that decides it, which
is this operand itself exactly if it is a truth value already. The filter has the value that its expression means with
`not` twice before each of them, and answers accordingly. -/
theorem junctions_give_truth {v : Value} {source : String} {body : Expr}
    (compiled : compile v = .ok (.expression source body)) (host : Host) (st : Store) (request : Request) :
    let scope := st.individuate request.names
    (∀ op operands, .expr (.junction op operands) ∈ body.nodes →
      ∃ r, MeansJoined scope.2 scope.1 op (reducedAll operands) r ∧
        (Expr.junction op operands).eval scope.2 scope.1 = (truth scope.2 r).map .bool ∧
        ((Expr.junction op operands).eval scope.2 scope.1 = r ↔ ∀ v, r = .ok v → ∃ b, v = .bool b)) ∧
    (∀ r, Means scope.2 scope.1 body.reduced r ↔ body.eval scope.2 scope.1 = r) ∧
    ∃ r, Means scope.2 scope.1 body.reduced r ∧
      (Filter.expression source body).test host st request =
        match truth scope.2 r with
        | .ok b => .ok (.bool b)
        | .error cause => .error (raised source cause) := by
  intro scope
  have clean := clean_of_compile compiled
  have bound : Binds scope.1 := binds_individuate st request
  refine ⟨fun op operands member => junction_value bound (clean.inside member), means_reduced_iff bound clean, ?_⟩
  exact ⟨body.eval scope.2 scope.1, (means_reduced_iff bound clean _).mpr rfl,
    test_expression host st request source body⟩

def unsized : Request where
  root := .map []
  args := .map []
  context := .null
  info := .null

/-- The expression of a size with a default. -/
def defaulted : Expr :=
  .compare (.junction .or [.attribute (.name "root") "size", .constant (.int 5)]) [(.eq, .constant (.int 5))]

/-- By what the expression means, the default takes the place of a size that is missing. The filter compares a truth
value with it instead. -/
theorem defaulted_compares_truth :
    ∃ source, compile (.text "(root.size or 5) == 5") = .ok (.expression source defaulted) ∧
      let scope := Store.empty.individuate unsized.names
      Means scope.2 scope.1 defaulted (.ok (.bool true)) ∧
      Means scope.2 scope.1 defaulted.reduced (.ok (.bool false)) ∧
      (Filter.expression source defaulted).test Host.empty .empty unsized = .ok (.bool false) := by
  have parsed : parse (Text.trim "(root.size or 5) == 5".toList) = some defaulted := parse_of_alike (by decide +kernel)
  obtain ⟨filter, compiled⟩ := accepted_of_toOption (v := .text "(root.size or 5) == 5") (by decide +kernel)
  obtain ⟨body, denoted, rfl, -⟩ := compile_text compiled
  obtain rfl : defaulted = body := Option.some.inj (parsed.symm.trans denoted)
  obtain ⟨-, means, r, meant, answers⟩ := junctions_give_truth compiled Host.empty .empty unsized
  have value : defaulted.eval (Store.empty.individuate unsized.names).2 (Store.empty.individuate unsized.names).1 =
      .ok (.bool false) := rfl
  refine ⟨_, compiled, ?_, (means _).mpr value, ?_⟩
  · have missing : MeansJoined (Store.empty.individuate unsized.names).2 (Store.empty.individuate unsized.names).1
        .or [.attribute (.name "root") "size", .constant (.int 5)] (.ok (.int 5)) :=
      .onward (.entry (.name rfl) rfl) rfl (.last (.constant _))
    exact .compare (.junction missing) (.holds (.constant _) (compares_iff.mpr rfl) .nothing)
  · obtain rfl : r = .ok (.bool false) := ((means r).mp meant).symm.trans value
    exact answers

end GraphGateway.Filter
