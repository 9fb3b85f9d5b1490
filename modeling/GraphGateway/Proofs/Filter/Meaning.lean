import GraphGateway.Filter.Eval

/-!
# The meaning of filter expressions

`Means` says what an expression comes to, a value or a failure, by one rule for each way that its evaluation
can take. A junction comes to the operand that decides it, and a chain of comparisons to whether neighbouring
operands all compare. An operand that no rule asks for is not evaluated: a failure in it is no failure of
the whole.
-/

namespace GraphGateway.Filter

/-- A word as it is looked up among the words for constants. -/
def lowered (id : String) : String :=
  String.ofList (Text.lower id.toList)

/-- The constant that a word in lower case stands for. -/
inductive Spells : String → Value → Prop where
  | true : Spells "true" (.bool Bool.true)
  | false : Spells "false" (.bool Bool.false)
  | null : Spells "null" .null
  | none : Spells "none" .null

/-- What the opposite of a value is. -/
inductive Negates : Value → Except Fault Value → Prop where
  | truth (b : Bool) : Negates (.bool b) (.ok (.int (if b then -1 else 0)))
  | integer (n : Int) : Negates (.int n) (.ok (.int (-n)))
  | real (x : Number.Binary64) : Negates (.real x) (.ok (.real x.neg))
  | imaginary (x : Number.Binary64) : Negates (.imaginary x) (.ok (.imaginary x.neg))
  | unfit {v : Value} : v.isNumber = Bool.false → (∀ x, v ≠ .imaginary x) →
      Negates v (.error (.misuse (.notNegatable v.kind)))

/-- What a comparison of two values comes to. -/
inductive Compares (st : Store) (a b : Value) : CompareOp → Except Fault Bool → Prop where
  | eq : Compares st a b .eq (.ok (st.equal a b))
  | ne : Compares st a b .ne (.ok !st.equal a b)
  | order (o : Order) : Compares st a b (.order o) (st.ordered o a b)
  | within : Compares st a b .within (st.contains b a)
  | outside {holds : Bool} : st.contains b a = .ok holds → Compares st a b .notWithin (.ok !holds)
  | unsearched {fault : Fault} : st.contains b a = .error fault → Compares st a b .notWithin (.error fault)
  | is : Compares st a b .is (.ok (Store.identical a b))
  | isNot : Compares st a b .isNot (.ok !Store.identical a b)

/-- Whether an operand that counts as true or false decides a junction. -/
def Junction.decided : Junction → Bool → Bool
  | .and, truth => !truth
  | .or, truth => truth

mutual

/-- What an expression comes to. -/
inductive Means (st : Store) (names : List (String × Value)) : Expr → Except Fault Value → Prop where
  | constant (v : Value) : Means st names (.constant v) (.ok v)
  | name {id : String} : names.lookup id = some v → Means st names (.name id) (.ok v)
  /-- A name that is bound to nothing is the word for a constant. -/
  | word {id : String} : names.lookup id = none → Spells (lowered id) v → Means st names (.name id) (.ok v)
  | junction : MeansJoined st names op operands r → Means st names (.junction op operands) r
  | not : Means st names operand (.ok v) →
      Means st names (.unary .not operand) (.ok (.bool !(st.look v).truthy))
  | negate : Means st names operand (.ok v) → Negates (st.look v) r →
      Means st names (.unary .negate operand) r
  | operandFails : Means st names operand (.error fault) →
      Means st names (.unary op operand) (.error fault)
  | compare : Means st names left (.ok v) → MeansLinked st names v links r →
      Means st names (.compare left links) (r.map .bool)
  | leftFails : Means st names left (.error fault) →
      Means st names (.compare left links) (.error fault)
  /-- An attribute of a mapping is its entry, and null where it has none. -/
  | entry : Means st names value (.ok v) → (st.look v).entries? = some entries →
      Means st names (.attribute value field) (.ok ((Value.lookup field entries).getD .null))
  | found : Means st names value (.ok v) → (st.look v).entries? = none →
      st.attribute? v field = some found → Means st names (.attribute value field) (.ok found)
  | missing : Means st names value (.ok v) → (st.look v).entries? = none →
      st.attribute? v field = none → Means st names (.attribute value field) (.ok .null)
  | ownerFails : Means st names value (.error fault) →
      Means st names (.attribute value field) (.error fault)
  /-- A mapping answers null for a key that it does not have. -/
  | lookup : Means st names value (.ok v) → Means st names index (.ok key) →
      (st.look v).entries? = some entries →
      Means st names (.subscript value index) ((st.findKey entries key).map (·.getD .null))
  | subscript : Means st names value (.ok v) → Means st names index (.ok key) →
      (st.look v).entries? = none →
      Means st names (.subscript value index) (st.subscript v key)
  | containerFails : Means st names value (.error fault) →
      Means st names (.subscript value index) (.error fault)
  | indexFails : Means st names value (.ok v) → Means st names index (.error fault) →
      Means st names (.subscript value index) (.error fault)
  /-- A display of a tuple is a list as well. -/
  | display : MeansListed st names items r → Means st names (.display tuple items) (r.map .list)

/-- What a junction of operands comes to: the operand that decides it, or else the last one. -/
inductive MeansJoined (st : Store) (names : List (String × Value)) :
    Junction → List Expr → Except Fault Value → Prop where
  /-- No text denotes a junction of nothing. -/
  | nothing : MeansJoined st names op [] (.ok (.bool (!op.decided true)))
  | last : Means st names e r → MeansJoined st names op [e] r
  | decided : Means st names e (.ok v) → op.decided (st.look v).truthy = true →
      MeansJoined st names op (e :: e' :: rest) (.ok v)
  | onward : Means st names e (.ok v) → op.decided (st.look v).truthy = false →
      MeansJoined st names op (e' :: rest) r → MeansJoined st names op (e :: e' :: rest) r
  | fails : Means st names e (.error fault) → MeansJoined st names op (e :: e' :: rest) (.error fault)

/-- Whether a value and the operands after it all compare with their neighbours, up to the first that does
not. -/
inductive MeansLinked (st : Store) (names : List (String × Value)) :
    Value → List (CompareOp × Expr) → Except Fault Bool → Prop where
  | nothing : MeansLinked st names v [] (.ok true)
  | holds : Means st names e (.ok w) → Compares st v w op (.ok true) → MeansLinked st names w rest r →
      MeansLinked st names v ((op, e) :: rest) r
  | breaks : Means st names e (.ok w) → Compares st v w op (.ok false) →
      MeansLinked st names v ((op, e) :: rest) (.ok false)
  | linkFails : Means st names e (.ok w) → Compares st v w op (.error fault) →
      MeansLinked st names v ((op, e) :: rest) (.error fault)
  | operandFails : Means st names e (.error fault) →
      MeansLinked st names v ((op, e) :: rest) (.error fault)

/-- What the items of a display come to. -/
inductive MeansListed (st : Store) (names : List (String × Value)) :
    List Expr → Except Fault (List Value) → Prop where
  | nothing : MeansListed st names [] (.ok [])
  | item : Means st names e (.ok v) → MeansListed st names rest r →
      MeansListed st names (e :: rest) (r.map (v :: ·))
  | itemFails : Means st names e (.error fault) → MeansListed st names (e :: rest) (.error fault)

end

mutual

/-- Whether `and` and `or` occur only where a truth value is asked for. They may stand for the expression
itself if it is asked for one. -/
def Expr.placed (condition : Bool) : Expr → Bool
  | .junction _ operands => condition && placedAll true operands
  | .unary .not operand => operand.placed true
  | .unary _ operand => operand.placed false
  | .compare left links => left.placed false && placedLinks links
  | .attribute value _ => value.placed false
  | .subscript value index => value.placed false && index.placed false
  | .display _ items => placedAll false items
  | _ => true

def placedAll (condition : Bool) : List Expr → Bool
  | [] => true
  | e :: rest => e.placed condition && placedAll condition rest

def placedLinks : List (CompareOp × Expr) → Bool
  | [] => true
  | (_, e) :: rest => e.placed false && placedLinks rest

end

def truth (st : Store) (r : Except Fault Value) : Except Fault Bool :=
  r.map fun v => (st.look v).truthy

/-- Whether two results are the same where a truth value is asked for, or else altogether. -/
def Agrees (st : Store) : Bool → Except Fault Value → Except Fault Value → Prop
  | true, x, r => truth st x = truth st r
  | false, x, r => x = r

theorem Agrees.of_eq {st : Store} {condition : Bool} {x r : Except Fault Value} (same : x = r) :
    Agrees st condition x r := by
  subst same
  cases condition <;> rfl

variable {st : Store} {names : List (String × Value)}

theorem literalName?_eq_some {id : String} {v : Value} : literalName? id = some v ↔ Spells (lowered id) v := by
  show literalNames.lookup (lowered id) = some v ↔ _
  generalize lowered id = word
  constructor
  · intro found
    simp only [literalNames, List.lookup_cons, List.lookup_nil] at found
    repeat' split at found
    case h_2 => cases found
    all_goals
      cases found
      rename_i same
      obtain rfl := eq_of_beq same
      constructor
  · rintro ⟨⟩ <;> rfl

theorem negates_iff {v : Value} {r : Except Fault Value} : Negates v r ↔ negate v = r := by
  constructor
  · rintro ⟨⟩
    case unfit unreal other =>
      cases v with
      | imaginary x => exact absurd rfl (other x)
      | bool | int | real => cases unreal
      | _ => rfl
    all_goals rfl
  · rintro rfl
    cases v with
    | bool b => exact .truth b
    | int n => exact .integer n
    | real x => exact .real x
    | imaginary x => exact .imaginary x
    | _ => exact .unfit rfl nofun

theorem compares_iff {op : CompareOp} {a b : Value} {r : Except Fault Bool} :
    Compares st a b op r ↔ op.holds st a b = r := by
  constructor
  · rintro ⟨⟩
    case outside searched => simp only [CompareOp.holds, searched, Except.map]
    case unsearched failed => simp only [CompareOp.holds, failed, Except.map]
    all_goals rfl
  · rintro rfl
    cases op with
    | eq => exact .eq
    | ne => exact .ne
    | order o => exact .order o
    | within => exact .within
    | notWithin =>
        cases searched : st.contains b a with
        | ok holds => simpa only [CompareOp.holds, searched] using .outside searched
        | error fault => simpa only [CompareOp.holds, searched] using .unsearched searched
    | is => exact .is
    | isNot => exact .isNot

theorem eval_not (e : Expr) :
    (Expr.unary .not e).eval st names = (truth st (e.eval st names)).map fun b => .bool !b := by
  simp only [Expr.eval, truth]
  cases e.eval st names <;> rfl

def evalJoined (st : Store) (names : List (String × Value)) : Junction → List Expr → Except Fault Bool
  | .and, operands => evalAll st names operands
  | .or, operands => evalAny st names operands

theorem eval_junction (op : Junction) (operands : List Expr) :
    (Expr.junction op operands).eval st names = (evalJoined st names op operands).map .bool := by
  cases op with
  | and =>
      simp only [Expr.eval, evalJoined]
      cases evalAll st names operands <;> rfl
  | or =>
      simp only [Expr.eval, evalJoined]
      cases evalAny st names operands <;> rfl

/-- A junction asks an operand only for its truth value, and nothing of those after one that decides it. -/
theorem evalJoined_cons (op : Junction) (e : Expr) (rest : List Expr) :
    evalJoined st names op (e :: rest) =
      (truth st (e.eval st names)).bind fun b => if op.decided b then .ok b else evalJoined st names op rest := by
  cases value : e.eval st names with
  | error fault => cases op <;> simp [evalJoined, evalAll, evalAny, value, truth, bind, Except.bind, Except.map]
  | ok v =>
      cases op <;> cases truthy : (st.look v).truthy <;>
        simp [evalJoined, evalAll, evalAny, value, truth, truthy, Junction.decided, bind, Except.bind, pure,
          Except.pure, Except.map]

theorem attributeOf_entry {v : Value} {entries : List (Value × Value)}
    (mapping : (st.look v).entries? = some entries) (field : String) :
    attributeOf st v field = (Value.lookup field entries).getD .null := by
  simp only [attributeOf, mapping]

theorem attributeOf_object {v : Value} (object : (st.look v).entries? = none) (field : String) :
    attributeOf st v field = (st.attribute? v field).getD .null := by
  simp only [attributeOf, object]

theorem subscript_entry {v key : Value} {entries : List (Value × Value)}
    (mapping : (st.look v).entries? = some entries) :
    st.subscript v key = (st.findKey entries key).map (·.getD .null) := by
  simp only [Store.subscript, mapping]
  cases st.findKey entries key <;> rfl

mutual

theorem Means.agrees {e : Expr} {r : Except Fault Value} (meant : Means st names e r) (condition : Bool)
    (placed : e.placed condition = true) : Agrees st condition (e.eval st names) r := by
  cases meant with
  | constant v => exact .of_eq rfl
  | name bound => exact .of_eq (by simp [Expr.eval, nameOf, bound])
  | word unbound spells => exact .of_eq (by simp [Expr.eval, nameOf, unbound, literalName?_eq_some.mpr spells])
  | @junction _ operands _ joined =>
      simp only [Expr.placed, Bool.and_eq_true] at placed
      obtain ⟨rfl, placed⟩ := placed
      simp only [Agrees, eval_junction, joined.agrees placed]
      cases r <;> rfl
  | not operand =>
      have same := operand.agrees true placed
      exact .of_eq (by rw [eval_not, same]; rfl)
  | negate operand negates =>
      have value : _ = _ := operand.agrees false placed
      exact .of_eq (by simp [Expr.eval, value, bind, Except.bind, negates_iff.mp negates])
  | @operandFails _ _ op operand =>
      cases op with
      | not =>
          have same := operand.agrees true placed
          exact .of_eq (by rw [eval_not, same]; rfl)
      | negate | plus | invert =>
          have value : _ = _ := operand.agrees false placed
          exact .of_eq (by simp [Expr.eval, value, bind, Except.bind])
  | compare left links =>
      simp only [Expr.placed, Bool.and_eq_true] at placed
      have value : _ = _ := left.agrees false placed.1
      have chain := links.agrees placed.2
      refine .of_eq ?_
      simp only [Expr.eval, value, bind, Except.bind, chain]
      split <;> rfl
  | leftFails left =>
      simp only [Expr.placed, Bool.and_eq_true] at placed
      have value : _ = _ := left.agrees false placed.1
      exact .of_eq (by simp [Expr.eval, value, bind, Except.bind])
  | entry owner mapping =>
      have value : _ = _ := owner.agrees false placed
      refine .of_eq ?_
      simp [Expr.eval, value, bind, Except.bind, attributeOf_entry mapping, pure, Except.pure]
  | found owner object found =>
      have value : _ = _ := owner.agrees false placed
      refine .of_eq ?_
      simp [Expr.eval, value, bind, Except.bind, attributeOf_object object, found, pure, Except.pure]
  | missing owner object missing =>
      have value : _ = _ := owner.agrees false placed
      refine .of_eq ?_
      simp [Expr.eval, value, bind, Except.bind, attributeOf_object object, missing, pure, Except.pure]
  | ownerFails owner =>
      have value : _ = _ := owner.agrees false placed
      exact .of_eq (by simp [Expr.eval, value, bind, Except.bind])
  | lookup container index mapping =>
      simp only [Expr.placed, Bool.and_eq_true] at placed
      have value : _ = _ := container.agrees false placed.1
      have key : _ = _ := index.agrees false placed.2
      exact .of_eq (by simp [Expr.eval, value, key, bind, Except.bind, subscript_entry mapping])
  | subscript container index sequence =>
      simp only [Expr.placed, Bool.and_eq_true] at placed
      have value : _ = _ := container.agrees false placed.1
      have key : _ = _ := index.agrees false placed.2
      exact .of_eq (by simp [Expr.eval, value, key, bind, Except.bind])
  | containerFails container =>
      simp only [Expr.placed, Bool.and_eq_true] at placed
      have value : _ = _ := container.agrees false placed.1
      exact .of_eq (by simp [Expr.eval, value, bind, Except.bind])
  | indexFails container index =>
      simp only [Expr.placed, Bool.and_eq_true] at placed
      have value : _ = _ := container.agrees false placed.1
      have key : _ = _ := index.agrees false placed.2
      exact .of_eq (by simp [Expr.eval, value, key, bind, Except.bind])
  | @display _ listed _ items =>
      have values := items.agrees placed
      refine .of_eq ?_
      simp only [Expr.eval, values]
      cases listed <;> rfl

theorem MeansJoined.agrees {op : Junction} {operands : List Expr} {r : Except Fault Value}
    (meant : MeansJoined st names op operands r) (placed : placedAll true operands = true) :
    evalJoined st names op operands = truth st r := by
  cases meant with
  | nothing => cases op <;> rfl
  | last e =>
      simp only [placedAll, Bool.and_true] at placed
      have same : truth st _ = truth st _ := e.agrees true placed
      rw [evalJoined_cons, same]
      -- The last operand is what the junction comes to, whether it decides it or not.
      rcases truth st r with fault | b
      · rfl
      · cases op <;> cases b <;> rfl
  | decided e decided =>
      simp only [placedAll, Bool.and_eq_true] at placed
      have same : truth st _ = truth st _ := e.agrees true placed.1
      rw [evalJoined_cons, same]
      simp [truth, Except.map, Except.bind, decided]
  | onward e undecided rest =>
      rw [placedAll, Bool.and_eq_true] at placed
      have same : truth st _ = truth st _ := e.agrees true placed.1
      rw [evalJoined_cons, same, rest.agrees placed.2]
      simp [truth, Except.map, Except.bind, undecided]
  | fails e =>
      simp only [placedAll, Bool.and_eq_true] at placed
      have same : truth st _ = truth st _ := e.agrees true placed.1
      rw [evalJoined_cons, same]
      rfl

theorem MeansLinked.agrees {left : Value} {links : List (CompareOp × Expr)} {r : Except Fault Bool}
    (meant : MeansLinked st names left links r) (placed : placedLinks links = true) :
    evalChain st names left links = r := by
  cases meant with
  | nothing => rfl
  | holds operand holds rest =>
      simp only [placedLinks, Bool.and_eq_true] at placed
      have value : _ = _ := operand.agrees false placed.1
      simp [evalChain, value, compares_iff.mp holds, bind, Except.bind, rest.agrees placed.2]
  | breaks operand breaks =>
      simp only [placedLinks, Bool.and_eq_true] at placed
      have value : _ = _ := operand.agrees false placed.1
      simp [evalChain, value, compares_iff.mp breaks, bind, Except.bind, pure, Except.pure]
  | linkFails operand fails =>
      simp only [placedLinks, Bool.and_eq_true] at placed
      have value : _ = _ := operand.agrees false placed.1
      simp [evalChain, value, compares_iff.mp fails, bind, Except.bind]
  | operandFails operand =>
      simp only [placedLinks, Bool.and_eq_true] at placed
      have value : _ = _ := operand.agrees false placed.1
      simp [evalChain, value, bind, Except.bind]

theorem MeansListed.agrees {items : List Expr} {r : Except Fault (List Value)}
    (meant : MeansListed st names items r) (placed : placedAll false items = true) :
    evalItems st names items = r := by
  cases meant with
  | nothing => rfl
  | item e rest =>
      simp only [placedAll, Bool.and_eq_true] at placed
      have value : _ = _ := e.agrees false placed.1
      have values := rest.agrees placed.2
      simp only [evalItems, value, values, bind, Except.bind]
      split <;> rfl
  | itemFails e =>
      simp only [placedAll, Bool.and_eq_true] at placed
      have value : _ = _ := e.agrees false placed.1
      simp [evalItems, value, bind, Except.bind]

end

end GraphGateway.Filter
