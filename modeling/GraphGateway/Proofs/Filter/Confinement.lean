import GraphGateway.Proofs.Filter.Watching

/-!
# The bounds of filters

What denotes an expression is a filter exactly if no node of the expression is outside the language, and a filter
stays inside it whatever it is asked about. Its evaluation meets no expression without a rule, no word without a
constant and no operator without a comparison, and it reads no private attribute by name; so it fails only as
operations on values do.
-/

namespace GraphGateway.Filter

variable {st : Store} {names : List (String × Value)}

/-- Whether a failure is one of an operation on values, and not one of a rule or a word that is missing. -/
def OfOperation : Fault → Prop
  | .unsupportedExpression _ | .missingKey _ => False
  | _ => True

/-- Whether a computation fails only as operations on values do. -/
def Sound (x : Except Fault α) : Prop :=
  ∀ fault, x = .error fault → OfOperation fault

theorem Sound.ok (a : α) : Sound (.ok a) := nofun

theorem Sound.error {fault : Fault} (operation : OfOperation fault) : Sound (.error fault : Except Fault α) := by
  rintro _ ⟨⟩
  exact operation

theorem Sound.bind {x : Except Fault α} {next : α → Except Fault β} (sound : Sound x)
    (onward : ∀ a, Sound (next a)) : Sound (x >>= next) := by
  cases x with
  | ok a => exact onward a
  | error fault => exact .error (sound fault rfl)

theorem Sound.map {x : Except Fault α} (sound : Sound x) (f : α → β) : Sound (x.map f) := by
  cases x with
  | ok a => exact .ok (f a)
  | error fault => exact .error (sound fault rfl)

theorem negate_sound (v : Value) : Sound (negate v) := by
  unfold negate
  split
  all_goals first | exact .ok _ | exact .error trivial

theorem findKey_sound (entries : List (Value × α)) (key : Value) : Sound (st.findKey entries key) := by
  refine .bind ?_ fun _ => .ok _
  unfold Store.checkKey
  split
  · exact .error trivial
  · exact .ok _

theorem element_sound (sequence : String) (items : List Value) (i : Int) :
    Sound (Store.element sequence items i) := by
  unfold Store.element
  split
  · exact .error trivial
  · split
    · exact .ok _
    · exact .error trivial

theorem subscript_sound (v key : Value) : Sound (st.subscript v key) := by
  unfold Store.subscript
  dsimp only
  split
  · exact .bind (findKey_sound _ key) fun _ => .ok _
  · split
    all_goals first | exact element_sound _ _ _ | exact .error trivial

theorem contains_sound (v item : Value) : Sound (st.contains v item) := by
  unfold Store.contains
  dsimp only
  split
  · exact .bind (findKey_sound _ item) fun _ => .ok _
  · repeat' split
    all_goals first | exact .ok _ | exact .error trivial

theorem orderedWithin_sound (order : Order) (bound : Nat) (a b : Value) :
    Sound (st.orderedWithin order bound a b) := by
  induction bound generalizing a b with
  | zero => exact .error trivial
  | succ n ih =>
      unfold Store.orderedWithin
      dsimp only
      repeat' split
      -- Sequences are ordered as the first items that differ, all else at once.
      all_goals first | exact .ok _ | exact .error trivial | exact ih _ _

theorem holds_sound (op : CompareOp) (a b : Value) : Sound (op.holds st a b) := by
  cases op with
  | order o => exact orderedWithin_sound o _ a b
  | within => exact contains_sound b a
  | notWithin => exact (contains_sound b a).map not
  | eq | ne | is | isNot => exact .ok _

/-- Whether an evaluation stayed inside the language. -/
structure Watched.Confined (w : Watched α) : Prop where
  permitted : ∀ event ∈ w.events, event.Permitted
  sound : Sound w.outcome

namespace Watched.Confined

theorem value (a : α) : (pure a : Watched α).Confined :=
  ⟨nofun, .ok a⟩

theorem operation {x : Except Fault α} (sound : Sound x) : (⟨x, []⟩ : Watched α).Confined :=
  ⟨nofun, sound⟩

theorem bind {w : Watched α} {next : α → Watched β} (first : w.Confined) (onward : ∀ a, (next a).Confined) :
    (w >>= next).Confined := by
  obtain ⟨permitted, sound⟩ := first
  obtain ⟨outcome, events⟩ := w
  cases outcome with
  | ok a =>
      refine ⟨List.forall_mem_append.mpr ⟨permitted, (onward a).permitted⟩, ?_⟩
      exact (onward a).sound
  | error fault => exact ⟨permitted, .error (sound fault rfl)⟩

end Watched.Confined

mutual

/-- An evaluation stays inside the language if no node of its expression is outside. -/
theorem Expr.watch_confined (bound : Binds names) (e : Expr) (inside : ∀ node ∈ e.nodes, ¬ node.Outside) :
    (e.watch st names).Confined := by
  cases e with
  | constant v => exact .value v
  | name id =>
      simp only [Expr.watch]
      cases found : names.lookup id with
      | some v => exact .value v
      | none =>
          have unbound : id ∉ scopeNames := fun member => by simpa [found] using bound id member
          cases word : literalNames.lookup (lowered id) with
          | some v => exact .value v
          | none =>
              have wordless : lowered id ∉ literalNames.map (·.1) := by
                rw [← literalName?_isSome, literalName?_eq, word]
                exact nofun
              exact absurd (.unknown unbound wordless) (inside _ List.mem_cons_self)
  | junction op operands =>
      have below := fun node member => inside node (List.mem_cons_of_mem _ member)
      cases op with
      | and => exact .bind (watchAll_confined bound operands below) fun _ => .value _
      | or => exact .bind (watchAny_confined bound operands below) fun _ => .value _
  | unary op operand =>
      have below := fun node member => inside node (List.mem_cons_of_mem _ (List.mem_cons_of_mem _ member))
      refine .bind (operand.watch_confined bound below) fun v => ?_
      cases op with
      | not => exact .value _
      | negate | plus | invert => exact .operation (negate_sound _)
  | compare left links =>
      obtain ⟨-, below⟩ := List.forall_mem_cons.mp inside
      obtain ⟨before, after⟩ := List.forall_mem_append.mp below
      refine .bind (left.watch_confined bound before) fun v => ?_
      exact .bind (watchChain_confined bound links after v) fun _ => .value _
  | «attribute» value field =>
      obtain ⟨own, below⟩ := List.forall_mem_cons.mp inside
      refine .bind (value.watch_confined bound below) fun v => ⟨?_, .ok _⟩
      have shown : field.startsWith "_" = false := Bool.eq_false_iff.mpr fun hidden => own (.hidden value hidden)
      exact List.forall_mem_singleton.mpr shown
  | subscript value index =>
      obtain ⟨-, below⟩ := List.forall_mem_cons.mp inside
      obtain ⟨before, after⟩ := List.forall_mem_append.mp below
      refine .bind (value.watch_confined bound before) fun v => ?_
      exact .bind (index.watch_confined bound after) fun key => .operation (subscript_sound v key)
  | display isTuple items =>
      have below := fun node member => inside node (List.mem_cons_of_mem _ member)
      exact .bind (watchItems_confined bound items below) fun _ => .value _
  | foreign kind => exact absurd (.foreign kind) (inside _ List.mem_cons_self)
termination_by sizeOf e

theorem watchAll_confined (bound : Binds names) (operands : List Expr)
    (inside : ∀ node ∈ nodesOf operands, ¬ node.Outside) : (watchAll st names operands).Confined := by
  cases operands with
  | nil => exact .value true
  | cons e rest =>
      obtain ⟨first, others⟩ := List.forall_mem_append.mp inside
      refine .bind (e.watch_confined bound first) fun v => ?_
      split
      · exact watchAll_confined bound rest others
      · exact .value false
termination_by sizeOf operands

theorem watchAny_confined (bound : Binds names) (operands : List Expr)
    (inside : ∀ node ∈ nodesOf operands, ¬ node.Outside) : (watchAny st names operands).Confined := by
  cases operands with
  | nil => exact .value false
  | cons e rest =>
      obtain ⟨first, others⟩ := List.forall_mem_append.mp inside
      refine .bind (e.watch_confined bound first) fun v => ?_
      split
      · exact .value true
      · exact watchAny_confined bound rest others
termination_by sizeOf operands

theorem watchChain_confined (bound : Binds names) (links : List (CompareOp × Expr))
    (inside : ∀ node ∈ nodesOfLinks links, ¬ node.Outside) (left : Value) :
    (watchChain st names left links).Confined := by
  match links with
  | [] => exact .value true
  | (op, e) :: rest =>
      obtain ⟨first, others⟩ := List.forall_mem_append.mp inside
      refine .bind (e.watch_confined bound first) fun right => ?_
      simp only [comparisons_lookup]
      refine .bind (.operation (holds_sound op left right)) fun holds => ?_
      split
      · exact watchChain_confined bound rest others right
      · exact .value false
termination_by sizeOf links

theorem watchItems_confined (bound : Binds names) (items : List Expr)
    (inside : ∀ node ∈ nodesOf items, ¬ node.Outside) : (watchItems st names items).Confined := by
  cases items with
  | nil => exact .value []
  | cons e rest =>
      obtain ⟨first, others⟩ := List.forall_mem_append.mp inside
      refine .bind (e.watch_confined bound first) fun v => ?_
      exact .bind (watchItems_confined bound rest others) fun vs => .value (v :: vs)
termination_by sizeOf items

end

/-- The expression that a text or bytes denote. -/
def tree? : Value → Option Expr
  | .text s => if (Text.trim s.toList).contains (Char.ofNat 0) then none else parse (Text.trim s.toList)
  | .bytes bs => if (trimBytes bs).contains 0 then none else (decodeSource (trimBytes bs)).bind parse
  | _ => none

/-- What denotes an expression is a filter unless something offends in it. -/
theorem compile_tree {v : Value} {body : Expr} (denoted : tree? v = some body) :
    compile v =
      match body.offence? with
      | some offence => .error (.filterSyntax (offence.message v.written))
      | none => .ok (.expression v.written body) := by
  unfold tree? at denoted
  split at denoted
  · split at denoted
    · cases denoted
    · rename_i ended
      simp only [compile, ended, ofSource, denoted]
      rfl
  · split at denoted
    · cases denoted
    · rename_i ended
      obtain ⟨text, decoded, parsed⟩ := Option.bind_eq_some_iff.mp denoted
      simp only [compile, ended, decoded, ofSource, parsed]
      rfl
  · cases denoted

/-- An expression is refused as a filter if a node of it is outside the language, wherever it stands, and is a
filter otherwise. A filter stays inside the language for every request: what its evaluation does with its words is
permitted, and it fails only as operations on values do. -/
theorem compile_confines {v : Value} {body : Expr} (denoted : tree? v = some body) :
    ((∃ node ∈ body.nodes, node.Outside) → ∃ message, compile v = .error (.filterSyntax message)) ∧
    ((∀ node ∈ body.nodes, ¬ node.Outside) → compile v = .ok (.expression v.written body)) ∧
    ∀ filter, compile v = .ok filter → ∀ (host : Host) (st : Store) (request : Request),
      let scope := st.individuate request.names
      let watched := body.watch scope.2 scope.1
      filter.test host st request =
        (match watched.outcome with
        | .ok answer => .ok (.bool (scope.2.look answer).truthy)
        | .error cause => .error (.filterEvaluation v.written cause)) ∧
      (∀ event ∈ watched.events, event.Permitted) ∧
      ∀ cause, watched.outcome = .error cause → OfOperation cause := by
  have compiled := compile_tree denoted
  have inside : body.offence? = none ↔ ∀ node ∈ body.nodes, ¬ node.Outside :=
    offence?_eq_none.trans body.clean_iff
  refine ⟨?_, fun within => ?_, fun filter accepted host st request => ?_⟩
  · rintro ⟨node, member, outside⟩
    cases offends : body.offence? with
    | none => exact absurd outside (inside.mp offends node member)
    | some offence => exact ⟨_, by rw [compiled, offends]⟩
  · rw [compiled, inside.mpr within]
  · cases offends : body.offence? with
    | some offence => simp [compiled, offends] at accepted
    | none =>
        rw [compiled, offends] at accepted
        cases accepted
        have confined : (body.watch (st.individuate request.names).2 (st.individuate request.names).1).Confined :=
          body.watch_confined (binds_individuate st request) (inside.mp offends)
        refine ⟨?_, confined.permitted, confined.sound⟩
        simp only [test_expression, truth, ← body.watch_outcome]
        cases failed : (body.watch (st.individuate request.names).2 (st.individuate request.names).1).outcome with
        | ok answer => rfl
        | error cause =>
            have operation := confined.sound cause failed
            cases cause <;> first | rfl | exact operation.elim

/-- The text of a filter that reads attributes, an element and a word. -/
def taggedOpen : Value :=
  .text "root.open == TRUE and args.tag in root.tags[0].names"

/-- The text of a filter that names a private attribute, where its evaluation would never come to. -/
def keyed : Value :=
  .text "1 > 2 > root._key"

/-- Nothing in the first text is outside the language, so it is a filter that reads no private attribute. The second
one is refused. -/
theorem taggedOpen_confined :
    (∃ body, tree? taggedOpen = some body ∧ compile taggedOpen = .ok (.expression taggedOpen.written body) ∧
      ∀ (st : Store) (request : Request),
        let scope := st.individuate request.names
        ∀ event ∈ (body.watch scope.2 scope.1).events, event.Permitted) ∧
    ∃ body message, tree? keyed = some body ∧ (∃ node ∈ body.nodes, node.Outside) ∧
      compile keyed = .error (.filterSyntax message) := by
  constructor
  · have accepted : (compile taggedOpen).toOption.isSome = true := by decide +kernel
    have denotes : (tree? taggedOpen).isSome = true := by decide +kernel
    obtain ⟨body, denoted⟩ := Option.isSome_iff_exists.mp denotes
    obtain ⟨refusal, acceptance, answers⟩ := compile_confines denoted
    have inside : ∀ node ∈ body.nodes, ¬ node.Outside := by
      intro node member outside
      obtain ⟨message, refused⟩ := refusal ⟨node, member, outside⟩
      rw [refused] at accepted
      cases accepted
    have compiled := acceptance inside
    exact ⟨body, denoted, compiled, fun st request => (answers _ compiled Host.empty st request).2.1⟩
  · have refused : (compile keyed).toOption.isSome = false := by decide +kernel
    have denotes : (tree? keyed).isSome = true := by decide +kernel
    obtain ⟨body, denoted⟩ := Option.isSome_iff_exists.mp denotes
    obtain ⟨refusal, acceptance, -⟩ := compile_confines denoted
    have outside : ∃ node ∈ body.nodes, node.Outside := by
      refine Classical.byContradiction fun none => ?_
      rw [acceptance fun node member outside => none ⟨node, member, outside⟩] at refused
      cases refused
    obtain ⟨message, failed⟩ := refusal outside
    exact ⟨body, message, denoted, outside, failed⟩

end GraphGateway.Filter
