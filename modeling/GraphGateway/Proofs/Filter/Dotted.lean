import GraphGateway.Proofs.Filter.Acceptance
import GraphGateway.Proofs.Filter.Chains
import GraphGateway.Proofs.Filter.Names

/-!
# Filters of one chain of attributes

A text of names with points between them is the expression of a chain of attributes. At every level of the grammar it is
read as a whole by the level below, up to its last point.
-/

namespace GraphGateway.Filter

namespace Grammar

variable {α β : Type} {t : Term} {ts : List Token} {operand : Reader Term}

theorem joined_alone {operator : Reader β} (alone : operand ts = some (t, [])) (ended : operator [] = none) :
    joined operator operand ts = some ((t, []), []) := by
  simp [joined, alone, repeated, iterate, ended]

theorem junction_alone (op : Junction) (word : String) (alone : operand ts = some (t, [])) :
    junction op word operand ts = some (t, []) := by
  have single : joined (keyword word) operand ts = some ((t, []), []) := joined_alone alone rfl
  simp [junction, single]

/-- The attributes behind a primary are read one after the other. -/
theorem iterate_attributes {step : Term → List Token → Option (Option (Term × List Token))}
    (further : ∀ t id rest, step t (.symbol "." :: .name id :: rest) = some (some (⟨.attribute t.expr id, true⟩, rest)))
    (ended : ∀ t, step t [] = some none) {ids : List String} {fuel : Nat} (enough : ids.length < fuel) (t : Term) :
    ∃ target, iterate step fuel t (ids.flatMap fun id => [.symbol ".", .name id]) =
      some (⟨ids.foldl .attribute t.expr, target⟩, []) := by
  induction ids generalizing fuel t with
  | nil =>
      obtain ⟨fuel, rfl⟩ : ∃ n, fuel = n + 1 := ⟨fuel - 1, by omega⟩
      exact ⟨t.target, by simp [iterate, ended]⟩
  | cons id ids ih =>
      obtain ⟨fuel, rfl⟩ : ∃ n, fuel = n + 1 := ⟨fuel - 1, by omega⟩
      have left : ids.length < fuel := Nat.lt_of_succ_lt_succ enough
      obtain ⟨target, onward⟩ := ih left ⟨.attribute t.expr id, true⟩
      refine ⟨target, ?_⟩
      rw [List.flatMap_cons, List.cons_append, List.singleton_append, iterate, further]
      exact onward

section Levels

variable {level : Level → Reader Term} {id : String} {rest : List Token}

theorem primary_attributes (level : Level → Reader Term) (id : String) (ids : List String) :
    ∃ target, primary level (.name id :: ids.flatMap fun id => [.symbol ".", .name id]) =
      some (⟨ids.foldl .attribute (.name id), target⟩, []) := by
  have enough : ids.length < (ids.flatMap fun id => [Token.symbol ".", .name id]).length + 1 := by
    have double : (ids.flatMap fun id => [Token.symbol ".", .name id]).length = ids.length * 2 := by
      simp [List.length_flatMap]
    omega
  simp only [primary, atom, repeated, Option.bind_eq_bind, Option.bind_some]
  exact iterate_attributes (fun _ _ _ => rfl) (fun _ => rfl) enough ⟨.name id, true⟩

theorem factor_alone (alone : level .primary (.name id :: rest) = some (t, [])) :
    factor level (.name id :: rest) = some (t, []) := by
  simp [factor, unaryOp, keyword, symbol, alone]

theorem arithmetic_alone (alone : level .factor ts = some (t, [])) : arithmetic level ts = some (t, []) := by
  have single : joined arithmeticOp (level .factor) ts = some ((t, []), []) := joined_alone alone rfl
  simp [arithmetic, single]

theorem inversion_alone (alone : level .arithmetic (.name id :: rest) = some (t, [])) :
    inversion level (.name id :: rest) = some (t, []) := by
  have single : joined compareOp (level .arithmetic) (.name id :: rest) = some ((t, []), []) :=
    joined_alone alone rfl
  simp [inversion, single]

theorem disjunction_alone (alone : level .inversion ts = some (t, [])) : disjunction level ts = some (t, []) :=
  junction_alone .or "or" (junction_alone .and "and" alone)

theorem expression_alone (alone : level .disjunction (.name id :: rest) = some (t, [])) :
    expression level (.name id :: rest) = some (t, []) := by
  simp [expression, alone, keyword]

theorem level_alone {fuel : Nat} (alone : primary (Grammar.level fuel) (.name id :: rest) = some (t, [])) :
    Grammar.level (fuel + 6) .expression (.name id :: rest) = some (t, []) := by
  have primary : Grammar.level (fuel + 1) .primary (.name id :: rest) = some (t, []) := alone
  have factor : Grammar.level (fuel + 2) .factor (.name id :: rest) = some (t, []) := factor_alone primary
  have arithmetic : Grammar.level (fuel + 3) .arithmetic (.name id :: rest) = some (t, []) := arithmetic_alone factor
  have inversion : Grammar.level (fuel + 4) .inversion (.name id :: rest) = some (t, []) := inversion_alone arithmetic
  have disjunction : Grammar.level (fuel + 5) .disjunction (.name id :: rest) = some (t, []) :=
    disjunction_alone inversion
  exact expression_alone disjunction

theorem whole_alone (alone : level .expression ts = some (t, [])) : whole level ts = some t.expr := by
  rw [whole, joined_alone alone rfl]
  rfl

end Levels

end Grammar

theorem parse_attributes {s : List Char} {id : String} {ids : List String}
    (read : tokens s = some (.name id :: ids.flatMap fun id => [.symbol ".", .name id])) :
    parse s = some (chain id ids) := by
  obtain ⟨target, primary⟩ := Grammar.primary_attributes (Grammar.level (8 * s.length + 2)) id ids
  rw [parse, read]
  exact Grammar.whole_alone (Grammar.level_alone primary)

/-- The normal form of a name. -/
def normalName (name : String) : String :=
  String.ofList (Text.normalize name.toList)

/-- A name with keys behind it, and points between them, as a text. -/
def pathText (name : String) (keys : List String) : String :=
  keys.foldl (fun path key => path ++ "." ++ key) name

variable {name : String} {keys : List String}

theorem toList_pathText (name : String) (keys : List String) :
    (pathText name keys).toList = dotted name.toList (keys.map String.toList) := by
  induction keys generalizing name with
  | nil => simp [pathText, dotted]
  | cons key rest ih =>
      have onward := ih (name ++ "." ++ key)
      simp only [pathText, dotted, List.foldl_cons, List.map_cons, List.flatMap_cons, String.toList_append] at onward ⊢
      rw [onward]
      simp

theorem parse_pathText (first : IsName name.toList) (names : ∀ key ∈ keys, IsName key.toList) :
    parse (pathText name keys).toList = some (chain (normalName name) (keys.map normalName)) := by
  have words : ∀ word ∈ keys.map String.toList, IsName word := by
    intro word member
    obtain ⟨key, among, rfl⟩ := List.mem_map.mp member
    exact names key among
  refine parse_attributes ?_
  rw [toList_pathText, tokens_dotted first words, List.flatMap_map, List.flatMap_map]
  rfl

theorem attributes_clean {e : Expr} (clean : e.Clean) (unhidden : ∀ key ∈ keys, key.startsWith "_" = false) :
    (keys.foldl .attribute e).Clean := by
  induction keys generalizing e with
  | nil => exact clean
  | cons key rest ih =>
      refine ih ?_ fun other member => unhidden other (List.mem_cons_of_mem key member)
      have own : (Expr.attribute e key).ownOffences = [] := by
        rw [Expr.ownOffences, unhidden key List.mem_cons_self]
        rfl
      simp only [Expr.Clean, Expr.offences, List.flatten_cons, own, List.nil_append]
      exact clean

theorem identifiers_pathText (identifiers : ∀ word ∈ name :: keys, Text.isIdentifier word.toList = true) :
    ∀ word ∈ name.toList :: keys.map String.toList, Text.isIdentifier word = true := by
  rw [← List.map_cons]
  intro word member
  obtain ⟨key, among, rfl⟩ := List.mem_map.mp member
  exact identifiers key among

theorem isBlank_pathText (identifiers : ∀ word ∈ name :: keys, Text.isIdentifier word.toList = true) :
    ∀ c ∈ (pathText name keys).toList, Text.isBlank c = false := by
  rw [toList_pathText]
  intro c member
  rcases characters_dotted (identifiers_pathText identifiers) c member with rfl | ⟨-, visible⟩
  · decide
  · exact visible

theorem scopeNames_names : ∀ name ∈ scopeNames, Text.isIdentifier name.toList = true ∧ name ∉ keywords ∧
    normalName name = name := by
  decide +kernel

theorem compile_pathText (bound : name ∈ scopeNames) (names : ∀ key ∈ keys, IsName key.toList)
    (unhidden : ∀ key ∈ keys, (normalName key).startsWith "_" = false) :
    ∃ source, compile (.text (pathText name keys)) = .ok (.expression source (chain name (keys.map normalName))) := by
  obtain ⟨identifier, free, normal⟩ := scopeNames_names name bound
  have first : IsName name.toList := ⟨identifier, by rwa [String.ofList_toList]⟩
  have identifiers : ∀ word ∈ name :: keys, Text.isIdentifier word.toList = true :=
    List.forall_mem_cons.mpr ⟨identifier, fun key member => (names key member).identifier⟩
  have parsed := parse_pathText first names
  rw [normal] at parsed
  have trimmed : Text.trim (pathText name keys).toList = (pathText name keys).toList :=
    Text.trimBy_of_none (isBlank_pathText identifiers)
  have terminated : Char.ofNat 0 ∉ (pathText name keys).toList := by
    rw [toList_pathText]
    exact not_mem_dotted (by decide) (by decide) (identifiers_pathText identifiers)
  have clean : (chain name (keys.map normalName)).Clean := by
    refine attributes_clean ?_ ?_
    · have own : (Expr.name name).ownOffences = [] := by simp [Expr.ownOffences, bound]
      simp [Expr.Clean, Expr.offences, own]
    · intro key member
      obtain ⟨key, among, rfl⟩ := List.mem_map.mp member
      exact unhidden key among
  refine ⟨(Value.text (pathText name keys)).written, ?_⟩
  simp only [compile, trimmed, List.contains_eq_mem, terminated, decide_false, Bool.false_eq_true, if_false, ofSource,
    parsed, offence?_eq_none.mpr clean]

end GraphGateway.Filter
