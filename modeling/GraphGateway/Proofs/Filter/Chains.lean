import GraphGateway.Proofs.Filter.Meaning
import GraphGateway.Proofs.Path.Reach
import GraphGateway.Proofs.Store.Individuation

/-!
# Chains of attributes

A chain of attributes leads a filter where a path of the same keys leads a template, as long as no list or tuple is on
the way. The filter asks values that are told apart by identity, so that the two agree on what remains without the
identity of scalars.
-/

namespace GraphGateway

namespace Value

/-- Whether a value has no parts, and no identity but by a reference. -/
def isScalar : Value → Bool
  | .null | .bool _ | .int _ | .real _ | .imaginary _ | .ellipsis | .text _ | .illFormed _ | .bytes _ | .other _
  | .made .. | .cut _ => true
  | _ => false

def isMethod : Value → Bool
  | .method .. => true
  | _ => false

def isSequence : Value → Bool
  | .list _ | .tuple _ => true
  | _ => false

variable {v : Value}

theorem method_of_isMethod (bound : v.isMethod = true) : ∃ object name, v = .method object name := by
  cases v with
  | method object name => exact ⟨object, name, rfl⟩
  | _ => cases bound

theorem scalar_or_method_of_isSingular (singular : v.isSingular = true) : v.isScalar = true ∨ v.isMethod = true := by
  cases v <;> first | exact .inl rfl | exact .inr rfl | cases singular

theorem isMethod_of_isScalar (scalar : v.isScalar = true) : v.isMethod = false := by
  cases v <;> first | rfl | cases scalar

theorem errorPart_isScalar (v : Value) : (v.errorPart .message).isScalar = true := by
  cases v <;> rfl

end Value

namespace Store

/-- Whether no value to which one of some keys is applied, one after the other, is a list or a tuple. -/
def unlisted (st : Store) : Value → List String → Bool
  | _, [] => true
  | v, key :: rest => !(st.look v).isSequence && st.unlisted (st.child v key) rest

/-- A value without the identity that a reference gives to a scalar, a part of an error or the object of a method. -/
def plain (st : Store) : Value → Value
  | .shared h => if (st.get h).isScalar then st.get h else .shared h
  | .part h .message => (st.get h).errorPart .message
  | .part h .arguments => .tuple [(st.get h).errorPart .message]
  | .method object name => .method (st.plain object) name
  | v => v

/-- A method in the place of a reference to it. -/
def unbound (st : Store) : Value → Value
  | .shared h => if (st.get h).isMethod then st.get h else .shared h
  | v => v

/-- A value without the identity that a reference gives to a scalar, a part of an error or a method. -/
def bare (st : Store) (v : Value) : Value :=
  st.plain (st.unbound v)

variable {base : Nat} {st after : Store} {v w x x' c c' object : Value} {key name : String} {h : Handle}

theorem look_of_isScalar (st : Store) (scalar : v.isScalar = true) : st.look v = v := by
  cases v <;> first | rfl | cases scalar

theorem bare_of_isScalar (st : Store) (scalar : v.isScalar = true) : st.bare v = v := by
  cases v <;> first | rfl | cases scalar

theorem plain_shared_of_isScalar (scalar : (st.get h).isScalar = true) : st.plain (.shared h) = st.get h := by
  rw [plain, if_pos scalar]

theorem bare_shared_method (method : st.get h = .method object name) :
    st.bare (.shared h) = .method (st.plain object) name := by
  rw [bare, unbound, method]
  rfl

theorem bare_shared_of_isScalar (scalar : (st.get h).isScalar = true) : st.bare (.shared h) = st.get h := by
  rw [bare, unbound, Value.isMethod_of_isScalar scalar]
  exact plain_shared_of_isScalar scalar

theorem bare_shared (compound : (st.get h).isScalar = false) (unbound : (st.get h).isMethod = false) :
    st.bare (.shared h) = .shared h := by
  rw [bare, Store.unbound, unbound]
  simp only [Bool.false_eq_true, if_false, plain, compound]

theorem bare_shared_cases (st : Store) (h : Handle) :
    (∃ object name, st.get h = .method object name ∧ st.bare (.shared h) = .method (st.plain object) name) ∨
      ((st.get h).isScalar = true ∧ st.bare (.shared h) = st.get h) ∨ st.bare (.shared h) = .shared h := by
  cases bound : (st.get h).isMethod with
  | true =>
      obtain ⟨object, name, method⟩ := Value.method_of_isMethod bound
      exact .inl ⟨object, name, method, bare_shared_method method⟩
  | false =>
      cases scalar : (st.get h).isScalar with
      | true => exact .inr (.inl ⟨rfl, bare_shared_of_isScalar scalar⟩)
      | false => exact .inr (.inr (bare_shared scalar bound))

/-- The contents of a value stay the same, but for references in the arguments of an error and the object of a
method. -/
theorem look_bare (st : Store) (v : Value) : st.look (st.bare v) = st.look v ∨ (∃ h, v = .part h .arguments) ∨
    ∃ object name, st.look v = .method object name ∧ st.look (st.bare v) = .method (st.plain object) name := by
  cases v with
  | shared h =>
      rcases st.bare_shared_cases h with ⟨object, name, method, bare⟩ | ⟨scalar, bare⟩ | bare
      · exact .inr (.inr ⟨object, name, method, congrArg st.look bare⟩)
      · exact .inl (by rw [bare, look_of_isScalar st scalar, look])
      · exact .inl (by rw [bare])
  | part h which =>
      cases which with
      | message => exact .inl (look_of_isScalar st (st.get h).errorPart_isScalar)
      | arguments => exact .inr (.inl ⟨h, rfl⟩)
  | method object name => exact .inr (.inr ⟨object, name, rfl, rfl⟩)
  | _ => exact .inl rfl

theorem truthy_bare (st : Store) (v : Value) : (st.look (st.bare v)).truthy = (st.look v).truthy := by
  rcases st.look_bare v with same | ⟨h, rfl⟩ | ⟨object, name, method, bare⟩
  · rw [same]
  · rfl
  · rw [method, bare]
    rfl

theorem isSequence_bare (st : Store) (v : Value) : (st.look (st.bare v)).isSequence = (st.look v).isSequence := by
  rcases st.look_bare v with same | ⟨h, rfl⟩ | ⟨object, name, method, bare⟩
  · rw [same]
  · rfl
  · rw [method, bare]
    rfl

theorem child_entry {entries : List (Value × Value)} (mapping : (st.look v).entries? = some entries) (key : String) :
    st.child v key = (Value.lookup key entries).getD .null := by
  simp only [child, mapping]

theorem child_attribute (object : (st.look v).entries? = none) (unlisted : (st.look v).isSequence = false)
    (key : String) : st.child v key = (st.attribute? v key).getD .null := by
  unfold child
  generalize st.look v = c at object unlisted
  cases c with
  | list | tuple => cases unlisted
  | map | external | environment => cases object
  | _ => rfl

theorem child_method (method : st.look v = .method object name) (key : String) : st.child v key = .null := by
  rw [child_attribute (by rw [method]; rfl) (by rw [method]; rfl)]
  unfold attribute?
  rw [method]
  rfl

theorem bare_method (scalar : c.isScalar = true) (refers : st.plain v = c) :
    st.bare (.method v name) = st.bare (.method c name) := by
  have same : st.plain c = c := by cases c <;> first | rfl | cases scalar
  simp only [bare, unbound, plain, refers, same]

theorem child_scalar (refers : st.look v = c) (scalar : c.isScalar = true) (bound : st.plain v = c)
    (bare : st.bare v = c) (key : String) : st.bare (st.child c key) = st.bare (st.child v key) := by
  have itself := st.look_of_isScalar scalar
  have object : c.entries? = none := by cases c <;> first | rfl | cases scalar
  have unlisted : c.isSequence = false := by cases c <;> first | rfl | cases scalar
  rw [child_attribute (itself.symm ▸ object) (itself.symm ▸ unlisted),
    child_attribute (refers.symm ▸ object) (refers.symm ▸ unlisted)]
  unfold attribute?
  simp only [itself, refers]
  have partless : c.errorPart? key = none := by cases c <;> first | rfl | cases scalar
  have unasked : c.response? key = none := by cases c <;> first | rfl | cases scalar
  simp only [partless, unasked]
  split
  · rw [Option.getD_some, Option.getD_some, bare, st.bare_of_isScalar scalar]
  · cases c.attribute? key with
    | some found => rfl
    | none =>
        rw [Option.none_or, Option.none_or]
        split
        · exact (bare_method scalar bound).symm
        · rfl

theorem child_bare (unlisted : (st.look v).isSequence = false) (key : String) :
    st.bare (st.child (st.bare v) key) = st.bare (st.child v key) := by
  cases v with
  | shared h =>
      rcases st.bare_shared_cases h with ⟨object, name, method, bare⟩ | ⟨scalar, bare⟩ | bare
      · rw [bare, child_method (v := .method (st.plain object) name) rfl, child_method (v := .shared h) method]
      · rw [bare]
        exact child_scalar (v := .shared h) rfl scalar (plain_shared_of_isScalar scalar) bare key
      · rw [bare]
  | part h which =>
      cases which with
      | message => exact child_scalar (v := .part h .message) rfl (st.get h).errorPart_isScalar rfl rfl key
      | arguments => cases unlisted
  | method object name =>
      rw [child_method (v := .method object name) rfl, child_method (v := st.bare (.method object name)) rfl]
  | _ => rfl

/-- A filter and a template ask a value for the same. -/
theorem attributeOf_child (unlisted : (st.look v).isSequence = false) (key : String) :
    Filter.attributeOf st v key = st.child v key := by
  cases mapping : (st.look v).entries? with
  | some entries => rw [child_entry mapping, Filter.attributeOf_entry mapping]
  | none => rw [child_attribute mapping unlisted, Filter.attributeOf_object mapping]

section Individuation

/-- Whether every container of a store holds, in another one, what stands for its contents. -/
def Individual (st after : Store) : Prop :=
  ∀ h < st.cells.size, StandsIn st.cells.size after (st.get h) (after.get h)

variable {entries entries' : List (Value × Value)} {fields fields' : List (String × Value)}

theorem StandsIn.isScalar (stands : StandsIn base after c c') : c'.isScalar = c.isScalar := by
  cases stands <;> rfl

theorem StandsIn.eq_of_isScalar (stands : StandsIn base after c c') (scalar : c.isScalar = true) : c' = c := by
  cases stands with
  | same => rfl
  | list | tuple | map | record | external | fieldError => cases scalar

theorem StandsIn.message (stands : StandsIn base after c c') : c'.errorPart .message = c.errorPart .message := by
  cases stands <;> rfl

theorem StandsIn.isSequence (stands : StandsIn base after c c') : c'.isSequence = c.isSequence := by
  cases stands <;> rfl

theorem StandsIn.eq_of_isMethod (stands : StandsIn base after c c') (bound : c.isMethod = true) : c' = c := by
  cases stands with
  | same => rfl
  | list | tuple | map | record | external | fieldError => cases bound

theorem StandsIn.isMethod (stands : StandsIn base after c c') : c'.isMethod = c.isMethod := by
  cases stands <;> rfl

theorem Individual.plain (individual : st.Individual after) (v : Value) (closed : ∀ h ∈ v.handles, h < st.cells.size) :
    after.plain v = st.plain v := by
  cases v with
  | shared h =>
      have stands := individual h (closed h List.mem_cons_self)
      cases scalar : (st.get h).isScalar with
      | true => simp only [Store.plain, stands.eq_of_isScalar scalar]
      | false => simp only [Store.plain, stands.isScalar, scalar, Bool.false_eq_true, if_false]
  | part h which =>
      have stands := individual h (closed h List.mem_cons_self)
      cases which <;> simp only [Store.plain, stands.message]
  | method object name => simp only [Store.plain, individual.plain object closed]
  | _ => rfl
termination_by sizeOf v

theorem Individual.bare (individual : st.Individual after) (closed : st.Closed v) : after.bare v = st.bare v := by
  have same : after.unbound v = st.unbound v := by
    cases v with
    | shared h =>
        have stands := individual h (closed.own h List.mem_cons_self)
        cases bound : (st.get h).isMethod with
        | true => simp only [unbound, stands.eq_of_isMethod bound]
        | false => simp only [unbound, stands.isMethod, bound, Bool.false_eq_true, if_false]
    | _ => rfl
  rw [Store.bare, Store.bare, same]
  refine individual.plain _ fun h member => ?_
  cases v with
  | shared k =>
      cases bound : (st.get k).isMethod with
      | true =>
          simp only [unbound, bound, if_true] at member
          exact closed.look h member
      | false => exact closed.own h (by simpa only [unbound, bound, Bool.false_eq_true, if_false] using member)
  | _ => exact closed.own h member

theorem Individual.stands (individual : st.Individual after) (closed : st.Closed x) (stands : Stands base after x x') :
    after.bare x' = st.bare x := by
  cases stands with
  | itself => exact individual.bare closed
  | apart singular _ _ there =>
      rcases Value.scalar_or_method_of_isSingular singular with scalar | bound
      · obtain rfl := there
        rw [bare_shared_of_isScalar scalar, bare_of_isScalar st scalar]
      · obtain ⟨object, name, rfl⟩ := Value.method_of_isMethod bound
        rw [bare_shared_method there, individual.plain object closed.own]
        rfl

theorem lookup_stands (each : List.Forall₂ (StandsUnder base after) fields fields') (name : String) :
    Option.Rel (Stands base after) (fields.lookup name) (fields'.lookup name) := by
  induction each with
  | nil => exact .none
  | @cons f f' _ _ stands _ ih =>
      obtain ⟨same, stands⟩ := stands
      rw [List.lookup_cons, List.lookup_cons, same]
      cases name == f.1 with
      | true => exact .some stands
      | false => exact ih

theorem entry_stands (each : List.Forall₂ (StandsUnder base after) entries entries') (name : String) :
    Option.Rel (Stands base after) (Value.lookup name entries) (Value.lookup name entries') := by
  induction each with
  | nil => exact .none
  | @cons e e' _ _ stands _ ih =>
      obtain ⟨key, v⟩ := e
      obtain ⟨key', v'⟩ := e'
      obtain ⟨same, stands⟩ := stands
      obtain rfl : key' = key := same
      by_cases here : key' = .text name
      · subst here
        rw [Value.lookup_cons_self, Value.lookup_cons_self]
        exact .some stands
      · rw [Value.lookup_cons_of_ne here, Value.lookup_cons_of_ne here]
        exact ih

theorem StandsIn.mapping (stands : StandsIn base after c c') :
    Option.Rel (List.Forall₂ (StandsUnder base after)) c.entries? c'.entries? := by
  cases stands with
  | same =>
      cases c.entries? with
      | none => exact .none
      | some entries => exact .some (List.forall₂_same.mpr fun _ _ => ⟨rfl, .itself⟩)
  | map each | external each => exact .some each
  | list | tuple | record | fieldError => exact .none

theorem StandsIn.errorPart (stands : StandsIn base after c c') (name : String) :
    c'.errorPart? name = c.errorPart? name := by
  cases stands <;> rfl

theorem StandsIn.methods (stands : StandsIn base after c c') : c'.methods = c.methods := by
  cases stands <;> rfl

theorem StandsIn.isItself (stands : StandsIn base after c c') (name : String) :
    c'.isItself name = c.isItself name := by
  cases stands <;> rfl

theorem StandsIn.response (stands : StandsIn base after c c') (key : String) :
    Option.Rel (StandsUnder base after) (c.response? key) (c'.response? key) := by
  cases stands with
  | same =>
      cases c.response? key with
      | none => exact .none
      | some said => exact .some ⟨rfl, .itself⟩
  | fieldError cause further =>
      simp only [Value.response?]
      by_cases asked : key = "formatted"
      · rw [if_pos asked, if_pos asked]
        exact .some ⟨rfl, further⟩
      · rw [if_neg asked, if_neg asked]
        exact .none
  | list | tuple | map | record | external => exact .none

theorem StandsIn.described (stands : StandsIn base after c c') (name : String) :
    c'.described? name = c.described? name := by
  cases stands <;> rfl

theorem rel_or {α β : Type} {R : α → β → Prop} {a b : Option α} {a' b' : Option β} (first : Option.Rel R a a')
    (second : Option.Rel R b b') : Option.Rel R (a.or b) (a'.or b') := by
  cases first with
  | some related => exact .some related
  | none => exact second

theorem rel_stands (found : Option Value) : Option.Rel (Stands base after) found found := by
  cases found with
  | none => exact .none
  | some v => exact .some .itself

theorem fieldErrorMember_stands {underlying underlying' extensions extensions' : Value}
    (cause : Stands base after underlying underlying') (further : Stands base after extensions extensions')
    (name : String) : Option.Rel (Stands base after) (Value.fieldErrorMember? underlying extensions name)
      (Value.fieldErrorMember? underlying' extensions' name) := by
  unfold Value.fieldErrorMember?
  split
  · exact .some cause
  · exact .some further
  all_goals exact rel_stands _

theorem recordMember_stands (each : List.Forall₂ (StandsUnder base after) fields fields') (shown : key ≠ "__dict__") :
    Option.Rel (Stands base after) (Value.recordMember? fields key) (Value.recordMember? fields' key) := by
  unfold Value.recordMember?
  rw [if_neg shown, if_neg shown]
  exact rel_or (lookup_stands each key) .none

theorem StandsIn.attribute (stands : StandsIn base after c c') (shown : key ≠ "__dict__") :
    Option.Rel (Stands base after) (c.attribute? key) (c'.attribute? key) := by
  unfold Value.attribute?
  rw [stands.described key]
  refine rel_or ?_ (rel_stands _)
  cases stands with
  | same => exact rel_stands _
  | record each => exact recordMember_stands each shown
  | fieldError cause further => exact fieldErrorMember_stands cause further key
  | list | tuple | map | external => exact .none

theorem Individual.look (individual : st.Individual after) (closed : ∀ h ∈ w.handles, h < st.cells.size) :
    StandsIn st.cells.size after (st.look w) (after.look w) := by
  cases w with
  | shared h => exact individual h (closed h List.mem_cons_self)
  | part h which =>
      cases which with
      | message =>
          have same := (individual h (closed h List.mem_cons_self)).message
          rw [Store.look, Store.look, same]
          exact .same _
      | arguments => exact .same _
  | _ => exact .same _

theorem partOf_eq (st after : Store) (w : Value) (which : ErrorPart) : after.partOf w which = st.partOf w which := by
  cases w with
  | part h part =>
      have nothing : ∀ v : Value, (v.errorPart .message).errorPart which = .null := by
        intro v
        cases v <;> rfl
      cases part with
      | message => simp only [partOf, Store.look, nothing]
      | arguments => rfl
  | _ => rfl

theorem Individual.partOf (individual : st.Individual after) (closed : st.Closed w) (which : ErrorPart) :
    after.bare (after.partOf w which) = st.bare (st.partOf w which) := by
  rw [partOf_eq st after]
  refine individual.bare ⟨fun h member => closed.own h (st.handles_partOf w which member), fun k reached => ?_⟩
  exact closed.onward k (reached.mono fun h member inside => .direct (st.handles_partOf w which member) inside)

theorem bare_formatted (message : String) (extensions : Value) :
    after.bare (st.formatted w message extensions) = st.formatted w message extensions := by
  unfold formatted
  dsimp only
  split <;> rfl

theorem Individual.formatted (individual : st.Individual after) {message : String} {extensions extensions' : Value}
    (inside : st.Closed extensions) (further : Stands st.cells.size after extensions extensions') (w : Value) :
    after.formatted w message extensions' = st.formatted w message extensions := by
  unfold Store.formatted
  rw [partOf_eq st after]
  cases further with
  | itself =>
      have mappings := (individual.look inside.own).mapping
      generalize (st.look extensions).entries? = entries, (after.look extensions).entries? = entries' at mappings ⊢
      cases mappings with
      | none => rfl
      | some each => cases each <;> rfl
  | apart singular _ _ there =>
      have plain : extensions.entries? = none := by cases extensions <;> first | rfl | cases singular
      have itself : st.look extensions = extensions := by cases extensions <;> first | rfl | cases singular
      rw [Store.look, there, itself, plain]

theorem Individual.attribute (individual : st.Individual after) (closed : st.Closed w) (shown : key ≠ "__dict__") :
    after.bare ((after.attribute? w key).getD .null) = st.bare ((st.attribute? w key).getD .null) := by
  have stands := individual.look closed.own
  simp only [Store.attribute?, stands.errorPart, stands.isItself, stands.methods]
  cases (st.look w).errorPart? key with
  | some which => exact individual.partOf closed which
  | none =>
      dsimp only
      split
      · exact individual.bare closed
      · have asked := stands.response key
        cases said : (st.look w).response? key with
        | some response =>
            rw [said] at asked
            generalize (after.look w).response? key = response' at asked ⊢
            cases asked with
            | some further =>
                obtain ⟨underlying, contents⟩ := Value.eq_of_response said
                have inside : st.Closed response.2 := closed.below (by
                  rw [contents, Value.handles]
                  exact List.subset_append_right _ _)
                simp only [Option.getD_some, further.1, individual.formatted inside further.2, bare_formatted]
        | none =>
            rw [said] at asked
            generalize (after.look w).response? key = response' at asked ⊢
            cases asked
            have data := stands.attribute shown
            cases found : (st.look w).attribute? key with
            | some v =>
                rw [found] at data
                generalize (after.look w).attribute? key = v' at data ⊢
                cases data with
                | some stands => exact individual.stands (closed.below (Value.handles_attribute found)) stands
            | none =>
                rw [found] at data
                generalize (after.look w).attribute? key = v' at data ⊢
                cases data
                simp only [Option.none_or]
                split
                · exact individual.plain (.method w key) closed.own
                · rfl

theorem Individual.child (individual : st.Individual after) (closed : st.Closed w)
    (unlisted : (st.look w).isSequence = false) (shown : key ≠ "__dict__") :
    after.bare (after.child w key) = st.bare (st.child w key) := by
  have stands := individual.look closed.own
  have below := closed.child key
  have related : ∀ {found found' : Option Value}, Option.Rel (Stands st.cells.size after) found found' →
      st.child w key = found.getD .null → after.bare (found'.getD .null) = st.bare (found.getD .null) := by
    intro found found' both leads
    rw [leads] at below
    cases both with
    | none => rfl
    | some stands => exact individual.stands below stands
  have mappings := stands.mapping
  cases mapping : (st.look w).entries? with
  | some entries =>
      rw [mapping] at mappings
      cases mapping' : (after.look w).entries? with
      | none =>
          rw [mapping'] at mappings
          cases mappings
      | some entries' =>
          rw [mapping'] at mappings
          cases mappings with
          | some each =>
              have leads := child_entry mapping key
              rw [child_entry mapping' key, leads]
              exact related (entry_stands each key) leads
  | none =>
      rw [mapping] at mappings
      cases mapping' : (after.look w).entries? with
      | some entries' =>
          rw [mapping'] at mappings
          cases mappings
      | none =>
          have leads := child_attribute mapping unlisted key
          rw [child_attribute mapping' (stands.isSequence.trans unlisted) key, leads]
          exact individual.attribute closed shown

theorem Individual.attributeOf (individual : st.Individual after) (closed : st.Closed w)
    (unlisted : (st.look w).isSequence = false) (shown : key ≠ "__dict__") (same : after.bare v = st.bare w) :
    after.bare (Filter.attributeOf after v key) = st.bare (st.child w key) := by
  have bare : after.bare v = after.bare w := same.trans (individual.bare closed).symm
  have kept : (after.look w).isSequence = false := (individual.look closed.own).isSequence.trans unlisted
  have unlisted' : (after.look v).isSequence = false := by
    rw [← after.isSequence_bare v, bare, after.isSequence_bare w, kept]
  calc after.bare (Filter.attributeOf after v key)
    _ = after.bare (after.child v key) := by rw [attributeOf_child unlisted']
    _ = after.bare (after.child w key) := by rw [← child_bare unlisted' key, bare, child_bare kept key]
    _ = st.bare (st.child w key) := individual.child closed unlisted shown

end Individuation

end Store

namespace Filter

variable {st after : Store} {names : List (String × Value)} {v w : Value}

def chain (name : String) (keys : List String) : Expr :=
  keys.foldl .attribute (.name name)

/-- A chain of attributes leads from a value to where a path of the same keys leads, unless a key is applied to a list
or tuple. -/
theorem eval_attributes (individual : st.Individual after) {e : Expr} {keys : List String}
    (value : e.eval after names = .ok v) (closed : st.Closed w) (same : after.bare v = st.bare w)
    (shown : "__dict__" ∉ keys) (unlisted : st.unlisted w keys = true) :
    ∃ v', (keys.foldl .attribute e).eval after names = .ok v' ∧ after.bare v' = st.bare (st.read w keys) := by
  induction keys generalizing e v w with
  | nil =>
      rw [st.read_nil]
      exact ⟨v, value, same⟩
  | cons key rest ih =>
      rw [Store.unlisted, Bool.and_eq_true, Bool.not_eq_true'] at unlisted
      have onward : (Expr.attribute e key).eval after names = .ok (attributeOf after v key) := by
        rw [Expr.eval, value]
        rfl
      obtain ⟨first, others⟩ := not_or.mp (mt List.mem_cons.mpr shown)
      rw [List.foldl_cons, st.read_cons]
      exact ih onward (closed.child key) (individual.attributeOf closed unlisted.1 (Ne.symm first) same) others
        unlisted.2

end Filter

end GraphGateway
