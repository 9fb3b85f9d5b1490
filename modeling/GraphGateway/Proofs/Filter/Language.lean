import GraphGateway.Proofs.Filter.Acceptance

/-!
# Nodes outside the filter language

The offences of an expression are collected by their depth, so that the nearest one is reported. Whether there are
any depends on its nodes alone: nothing offends in an expression exactly if no node of it, wherever it stands, is
outside the language.
-/

namespace GraphGateway.Filter

/-- A node of an expression: an expression in it, or the operator before one. -/
inductive Node where
  | expr (e : Expr)
  | operator (op : UnaryOp)

mutual

/-- The nodes of an expression, itself among them. -/
def Expr.nodes : Expr → List Node
  | .junction op operands => .expr (.junction op operands) :: nodesOf operands
  | .unary op operand => .expr (.unary op operand) :: .operator op :: operand.nodes
  | .compare left links => .expr (.compare left links) :: (left.nodes ++ nodesOfLinks links)
  | .attribute value field => .expr (.attribute value field) :: value.nodes
  | .subscript value index => .expr (.subscript value index) :: (value.nodes ++ index.nodes)
  | .display isTuple items => .expr (.display isTuple items) :: nodesOf items
  | e => [.expr e]

def nodesOf : List Expr → List Node
  | [] => []
  | e :: rest => e.nodes ++ nodesOf rest

def nodesOfLinks : List (CompareOp × Expr) → List Node
  | [] => []
  | (_, e) :: rest => e.nodes ++ nodesOfLinks rest

end

/-- Whether a node is outside the language, whatever stands below it. -/
inductive Node.Outside : Node → Prop where
  | foreign (kind : String) : Outside (.expr (.foreign kind))
  | plus : Outside (.operator .plus)
  | invert : Outside (.operator .invert)
  | hidden (value : Expr) {field : String} : field.startsWith "_" = true →
      Outside (.expr (.attribute value field))
  | unknown {id : String} : id ∉ scopeNames → lowered id ∉ literalNames.map (·.1) →
      Outside (.expr (.name id))

theorem literalName?_eq (id : String) : literalName? id = literalNames.lookup (lowered id) := rfl

theorem literalName?_isSome (id : String) :
    (literalName? id).isSome = true ↔ lowered id ∈ literalNames.map (·.1) := by
  rw [literalName?_eq, List.lookup_isSome_iff, List.mem_map]
  refine exists_congr fun word => and_congr_right fun _ => ?_
  rw [beq_iff_eq, eq_comm]

theorem ownOffences_eq_nil (e : Expr) : e.ownOffences = [] ↔ ¬ (Node.expr e).Outside := by
  cases e with
  | «attribute» value field =>
      by_cases hidden : field.startsWith "_" = true
      · simpa [Expr.ownOffences, hidden] using Node.Outside.hidden value hidden
      · have inside : ¬ (Node.expr (.attribute value field)).Outside := by
          rintro ⟨⟩
          contradiction
        simp [Expr.ownOffences, hidden, inside]
  | name id =>
      by_cases known : id ∈ scopeNames ∨ lowered id ∈ literalNames.map (·.1)
      · have inside : ¬ (Node.expr (.name id)).Outside := by
          rintro ⟨⟩
          rcases known with bound | word <;> contradiction
        simp only [Expr.ownOffences, literalName?_isSome, List.contains_iff_mem, Bool.or_eq_true, known, if_true]
        simpa using inside
      · obtain ⟨unbound, wordless⟩ := not_or.mp known
        have outside := Node.Outside.unknown unbound wordless
        simp only [Expr.ownOffences, literalName?_isSome, List.contains_iff_mem, Bool.or_eq_true, known, if_false]
        simpa using outside
  | foreign kind => simpa [Expr.ownOffences] using Node.Outside.foreign kind
  | constant | junction | unary | compare | subscript | display =>
      simpa [Expr.ownOffences] using nofun

theorem UnaryOp.offences_eq_nil (op : UnaryOp) : op.offences = [] ↔ ¬ (Node.operator op).Outside := by
  cases op with
  | not | negate => simpa [UnaryOp.offences] using nofun
  | plus => simpa [UnaryOp.offences] using Node.Outside.plus
  | invert => simpa [UnaryOp.offences] using Node.Outside.invert

mutual

theorem Expr.clean_iff (e : Expr) : e.Clean ↔ ∀ node ∈ e.nodes, ¬ node.Outside := by
  have own := ownOffences_eq_nil e
  cases e with
  | junction op operands =>
      have inside := offencesOf_clean_iff operands
      simp only [Expr.nodes, List.forall_mem_cons, ← own, ← inside, Expr.Clean, Expr.offences, Expr.ownOffences,
        List.flatten_cons, List.nil_append, true_and]
  | unary op operand =>
      have inside := operand.clean_iff
      simp only [Expr.nodes, List.forall_mem_cons, ← own, ← op.offences_eq_nil, ← inside, Expr.Clean,
        Expr.offences, Expr.ownOffences, List.flatten_cons, List.flatten_nil, List.nil_append, List.append_nil,
        flatten_mergeLevels, true_and]
  | compare left links =>
      have before := left.clean_iff
      have after := offencesOfLinks_clean_iff links
      simp only [Expr.nodes, List.forall_mem_cons, List.forall_mem_append, ← own, ← before, ← after, Expr.Clean,
        Expr.offences, Expr.ownOffences, List.flatten_cons, List.nil_append, flatten_mergeLevels, true_and]
  | «attribute» value field =>
      have inside := value.clean_iff
      simp only [Expr.nodes, List.forall_mem_cons, ← own, ← inside, Expr.Clean, Expr.offences, List.flatten_cons,
        List.append_eq_nil_iff]
  | subscript value index =>
      have before := value.clean_iff
      have after := index.clean_iff
      simp only [Expr.nodes, List.forall_mem_cons, List.forall_mem_append, ← own, ← before, ← after, Expr.Clean,
        Expr.offences, Expr.ownOffences, List.flatten_cons, List.nil_append, flatten_mergeLevels, true_and]
  | display isTuple items =>
      have inside := offencesOf_clean_iff items
      simp only [Expr.nodes, List.forall_mem_cons, ← own, ← inside, Expr.Clean, Expr.offences, Expr.ownOffences,
        List.flatten_cons, List.nil_append, true_and]
  | constant | name | foreign =>
      simp only [Expr.nodes, List.forall_mem_singleton, ← own, Expr.Clean, Expr.offences, List.flatten_cons,
        List.flatten_nil, List.append_nil]
termination_by sizeOf e

theorem offencesOf_clean_iff (operands : List Expr) :
    (offencesOf operands).flatten = [] ↔ ∀ node ∈ nodesOf operands, ¬ node.Outside := by
  cases operands with
  | nil => simp [offencesOf, nodesOf]
  | cons e rest =>
      have first := e.clean_iff
      have others := offencesOf_clean_iff rest
      simp only [nodesOf, List.forall_mem_append, ← first, ← others, Expr.Clean, offencesOf, flatten_mergeLevels]
termination_by sizeOf operands

theorem offencesOfLinks_clean_iff (links : List (CompareOp × Expr)) :
    (offencesOfLinks links).flatten = [] ↔ ∀ node ∈ nodesOfLinks links, ¬ node.Outside := by
  match links with
  | [] => simp [offencesOfLinks, nodesOfLinks]
  | (_, e) :: rest =>
      have first := e.clean_iff
      have others := offencesOfLinks_clean_iff rest
      simp only [nodesOfLinks, List.forall_mem_append, ← first, ← others, Expr.Clean, offencesOfLinks,
        flatten_mergeLevels]
termination_by sizeOf links

end

end GraphGateway.Filter
