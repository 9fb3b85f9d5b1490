import GraphGateway.Proofs.Delegation.Tagging
import GraphGateway.Proofs.Resolver.FanOut
import Mathlib.Data.List.Forall2

/-!
# The way that tagging takes

Tagging comes to each position of nested lists once, a list before its items and the items in their order. What it
expects there is the given type without as many lists as lie around the position. If a method is called once for each
element, what the calls give is gone through as one list of the type of the field would be.
-/

namespace GraphGateway

namespace Value

mutual

/-- The positions in a value, a list before its items. -/
def positions : Value → List (List Nat)
  | .list items => [] :: positionsFrom 0 items
  | _ => [[]]

/-- The positions in the items of a list, which are counted from a number on. -/
def positionsFrom (i : Nat) : List Value → List (List Nat)
  | [] => []
  | v :: rest => (positions v).map (i :: ·) ++ positionsFrom (i + 1) rest

end

theorem mem_positionsFrom {i : Nat} {items : List Value} {position : List Nat} :
    position ∈ positionsFrom i items ↔
      ∃ j below v, position = (i + j) :: below ∧ items[j]? = some v ∧ below ∈ v.positions := by
  induction items generalizing i with
  | nil => simp [positionsFrom]
  | cons v rest ih =>
      rw [positionsFrom, List.mem_append, List.mem_map, ih]
      constructor
      · rintro (⟨below, member, rfl⟩ | ⟨j, below, w, rfl, there, member⟩)
        · exact ⟨0, below, v, rfl, rfl, member⟩
        · exact ⟨j + 1, below, w, by rw [Nat.add_right_comm, Nat.add_assoc], there, member⟩
      · rintro ⟨_ | j, below, w, rfl, there, member⟩
        · cases there
          exact .inl ⟨below, member, rfl⟩
        · exact .inr ⟨j, below, w, by rw [Nat.add_right_comm, Nat.add_assoc], there, member⟩

theorem mem_positions {v : Value} {position : List Nat} :
    position ∈ v.positions ↔ ∃ x, v.descend position = some x := by
  induction position generalizing v with
  | nil => cases v <;> simp [positions, descend]
  | cons i below ih =>
      cases v with
      | list items =>
          simp only [positions, List.mem_cons, reduceCtorEq, false_or, mem_positionsFrom, descend,
            Option.bind_eq_some_iff, Nat.zero_add]
          constructor
          · rintro ⟨j, below', w, same, there, member⟩
            cases same
            obtain ⟨x, found⟩ := ih.mp member
            exact ⟨x, w, there, found⟩
          · rintro ⟨x, w, there, found⟩
            exact ⟨i, below, w, rfl, there, ih.mpr ⟨x, found⟩⟩
      | _ => simp [positions, descend]

mutual

/-- A list comes before its items, and an item before the next one with all that it holds. -/
theorem sorted_positions (v : Value) : v.positions.Pairwise (· < ·) := by
  cases v with
  | list items =>
      rw [positions, List.pairwise_cons]
      refine ⟨fun position member => ?_, sorted_positionsFrom 0 items⟩
      obtain ⟨j, below, _, rfl, -⟩ := mem_positionsFrom.mp member
      exact List.nil_lt_cons _ _
  | _ => exact List.pairwise_singleton _ _
termination_by sizeOf v

theorem sorted_positionsFrom (i : Nat) (items : List Value) : (positionsFrom i items).Pairwise (· < ·) := by
  cases items with
  | nil => exact .nil
  | cons v rest =>
      rw [positionsFrom, List.pairwise_append, List.pairwise_map]
      refine ⟨(sorted_positions v).imp fun before => List.cons_lt_cons_self.mpr before,
        sorted_positionsFrom (i + 1) rest, ?_⟩
      intro position member later member'
      obtain ⟨below, -, rfl⟩ := List.mem_map.mp member
      obtain ⟨j, below', _, rfl, -⟩ := mem_positionsFrom.mp member'
      exact List.cons_lt_cons_iff.mpr (.inl (by omega))
termination_by sizeOf items

end

end Value

namespace TypeRef

/-- The type that is inside so many lists of a type. Each of the lists may be one without null. -/
inductive Encloses : TypeRef → Nat → TypeRef → Prop
  | here (t : TypeRef) : Encloses t 0 t
  | list {item t : TypeRef} {depth : Nat} (inside : Encloses item depth t) : Encloses (.list item) (depth + 1) t
  | nonNull {item t : TypeRef} {depth : Nat} (inside : Encloses item depth t) :
      Encloses (.nonNull (.list item)) (depth + 1) t

end TypeRef

namespace Delegation

/-- Whether a type is expected inside so many lists: nothing is where the given type has no such list. -/
def Expected (type : Option TypeRef) (depth : Nat) (t : TypeRef) : Prop :=
  ∃ given, type = some given ∧ given.Encloses depth t

section Types

variable {type : Option TypeRef} {depth : Nat} {t : TypeRef}

theorem expected_zero_iff : Expected type 0 t ↔ type = some t := by
  constructor
  · rintro ⟨given, rfl, ⟨⟩⟩
    rfl
  · exact fun same => ⟨t, same, .here t⟩

theorem expected_succ_iff : Expected type (depth + 1) t ↔ Expected (itemType type) depth t := by
  constructor
  · rintro ⟨given, rfl, inside⟩
    cases inside with
    | list inside | nonNull inside => exact ⟨_, rfl, inside⟩
  · rintro ⟨item, items, inside⟩
    obtain ⟨given, rfl, listed⟩ := Option.bind_eq_some_iff.mp items
    refine ⟨given, rfl, ?_⟩
    cases given with
    | named => cases listed
    | list =>
        cases listed
        exact .list inside
    | nonNull given =>
        cases given with
        | list =>
            cases listed
            exact .nonNull inside
        | _ => cases listed

end Types

/-- A visit at a position: it comes to what stands there, with the errors and the schema that everything is tagged with
and the type that is expected inside so many lists. -/
structure VisitAt (type : Option TypeRef) (errors : List Value) (subschema v : Value) (position : List Nat)
    (visit : Visit) : Prop where
  reached : v.descend position = some visit.value
  tag : visit.errors = errors ∧ visit.subschema = subschema
  expected : ∀ t, visit.type = some t ↔ Expected type position.length t

section Visits

variable {errors : List Value} {subschema : Value}

theorem visits_list (type : Option TypeRef) (items : List Value) :
    (tag errors subschema type (.list items)).visits =
      ⟨.list items, errors, subschema, type⟩ :: (tagItems errors subschema (itemType type) items).visits := by
  simp only [Delegation.tag]

theorem visitAt_root (type : Option TypeRef) (v : Value) :
    VisitAt type errors subschema v [] ⟨v, errors, subschema, type⟩ :=
  ⟨by cases v <;> rfl, ⟨rfl, rfl⟩, fun _ => expected_zero_iff.symm⟩

/-- A visit of an item is one of the list, a step further down and for the type of the items. -/
theorem VisitAt.of_item {type : Option TypeRef} {items : List Value} {i : Nat} {v : Value} {position : List Nat}
    {visit : Visit} (there : items[i]? = some v) (below : VisitAt (itemType type) errors subschema v position visit) :
    VisitAt type errors subschema (.list items) (i :: position) visit where
  reached := Option.bind_eq_some_iff.mpr ⟨v, there, below.reached⟩
  tag := below.tag
  expected t := (below.expected t).trans expected_succ_iff.symm

mutual

theorem visits_positions (type : Option TypeRef) (v : Value) :
    List.Forall₂ (VisitAt type errors subschema v) v.positions (tag errors subschema type v).visits := by
  cases v with
  | list items =>
      rw [visits_list, Value.positions]
      refine .cons (visitAt_root type _) ((visits_positionsFrom (itemType type) 0 items).imp ?_)
      rintro _ visit ⟨j, below, w, rfl, there, visited⟩
      rw [Nat.zero_add]
      exact visited.of_item there
  | _ => exact .cons (visitAt_root type _) .nil
termination_by sizeOf v

theorem visits_positionsFrom (type : Option TypeRef) (i : Nat) (items : List Value) :
    List.Forall₂ (fun position visit => ∃ j below v, position = (i + j) :: below ∧ items[j]? = some v ∧
        VisitAt type errors subschema v below visit)
      (Value.positionsFrom i items) (tagItems errors subschema type items).visits := by
  cases items with
  | nil => exact .nil
  | cons v rest =>
      rw [Value.positionsFrom, tagItems]
      refine List.rel_append ?_ ((visits_positionsFrom type (i + 1) rest).imp ?_)
      · rw [List.forall₂_map_left_iff]
        exact (visits_positions type v).imp fun below _ visited => ⟨0, below, v, rfl, rfl, visited⟩
      · rintro _ visit ⟨j, below, w, rfl, there, visited⟩
        exact ⟨j + 1, below, w, by rw [Nat.add_right_comm, Nat.add_assoc], there, visited⟩
termination_by sizeOf items

end

end Visits

/-- What a visit comes to, and the type that it expects there. -/
def Visit.target (visit : Visit) : Value × Option TypeRef :=
  (visit.value, visit.type)

mutual

/-- The way that tagging takes does not depend on what it tags with. -/
theorem targets_tag (errors errors' : List Value) (subschema subschema' : Value) (type : Option TypeRef) (v : Value) :
    (tag errors subschema type v).visits.map (·.target) = (tag errors' subschema' type v).visits.map (·.target) := by
  cases v with
  | list items =>
      rw [visits_list, visits_list, List.map_cons, List.map_cons,
        targets_tagItems errors errors' subschema subschema' (itemType type) items]
      rfl
  | _ => rfl
termination_by sizeOf v

theorem targets_tagItems (errors errors' : List Value) (subschema subschema' : Value) (type : Option TypeRef)
    (items : List Value) :
    (tagItems errors subschema type items).visits.map (·.target) =
      (tagItems errors' subschema' type items).visits.map (·.target) := by
  cases items with
  | nil => rfl
  | cons v rest =>
      simp only [tagItems, List.map_append, targets_tag errors errors' subschema subschema' type v,
        targets_tagItems errors errors' subschema subschema' type rest]
termination_by sizeOf items

end

/-- The value that is tagged for an extraction, if any is. -/
def Extraction.tagged? : Extraction → Option Value
  | .plain _ => none
  | .inside v .. => some v

theorem targets_tagged (errors : List Value) (subschema : Value) (type : Option TypeRef) (es : List Extraction) :
    (es.flatMap (·.visits type)).map (·.target) =
      (tagItems errors subschema type (es.filterMap (·.tagged?))).visits.map (·.target) := by
  induction es with
  | nil => rfl
  | cons e rest ih =>
      rw [List.flatMap_cons, List.map_append, ih]
      cases e with
      | plain => rfl
      | inside v errors' subschema' =>
          have inside : (Extraction.inside v errors' subschema' :: rest).filterMap (·.tagged?) =
              v :: rest.filterMap (·.tagged?) := rfl
          rw [inside, tagItems, List.map_append, Extraction.visits, targets_tag errors' errors subschema' subschema]

/-- Tagging visits every position of nested lists once, in their order: a list before its items, and an item with all
that it holds before the next one. At each it expects what is inside as many lists of the given type, and nothing where
the type has no such list, and what it makes of what stands there is put at the same position. If a method is called
once for each element, the values that are tagged are visited as the items of one list would be, of which the type of
the field is expected. -/
theorem visits_ordered (type : Option TypeRef) (v : Value) (errors : List Value) (subschema : Value) :
    let tagging := tag errors subschema type v
    (tagging.result = retag errors subschema v ∧
      (∀ position x, v.descend position = some x →
        ∃ y, tagging.result.descend position = some y ∧ Tagged errors subschema x y) ∧
      v.positions.Pairwise (· < ·) ∧
      (∀ position, position ∈ v.positions ↔ ∃ x, v.descend position = some x) ∧
      List.Forall₂ (VisitAt type errors subschema v) v.positions tagging.visits) ∧
    ∀ {host : Host} {environment : List (String × String)} {st : Store} {d : Resolver.MethodCall}
      {request : Request} {elements : List Value} {method : Value},
      Resolver.MethodCall.FansOut host environment st d request elements method → ∀ field : Resolver.FieldInfo,
        let st' := (Resolver.buildArguments host environment st request d.args).store
        let resolution := d.resolve host environment st request field
        ∃ es : List Extraction, d.outcomes host st' field method elements = es.map .ok ∧
          resolution.result = .ok (.list (es.map (·.value))) ∧
          resolution.visits = es.flatMap (·.visits (itemType field.type)) ∧
          (.list (es.filterMap (·.tagged?)), field.type) :: resolution.visits.map (·.target) =
            (tag errors subschema field.type (.list (es.filterMap (·.tagged?)))).visits.map (·.target) := by
  intro tagging
  refine ⟨⟨tag_result type v, ?_, v.sorted_positions, fun _ => Value.mem_positions, visits_positions type v⟩, ?_⟩
  · intro position x there
    rw [tag_result]
    exact ⟨_, descend_retag there, tagged_retag x⟩
  · intro host environment st d request elements method fans field st' resolution
    obtain ⟨es, all, -, -⟩ := Resolver.MethodCall.exists_extractions host st' field method fans.readable elements
    have resolves := Resolver.MethodCall.resolve_extractions fans all
    have visited := congrArg Resolver.Resolution.visits resolves
    refine ⟨es, all, congrArg Resolver.Resolution.result resolves, visited, ?_⟩
    rw [visited, targets_tagged errors subschema, visits_list]
    rfl

end Delegation

namespace Resolver

open Delegation

/-- A host whose first person goes by several names, one of which is missing; the others have no names. -/
def manyNames : Host where
  onRequest _ _ _ := .ok (.list [.int 4, .int 5, .int 6])
  onCall _ _ call :=
    match call.arguments with
    | .int 4 => .ok (.external [(.text "name", .list [.text "ada", .null])] [] (.text "People") [])
    | .int 5 => .error (.raised "TimeoutError" "too late" none)
    | _ => .ok (.external [(.text "name", .int 0)] [] (.text "People") [])
  onConfig _ v := .ok v

/-- The field of the names, of which each person has some. -/
def manyNamesField : FieldInfo where
  name := ⟨"names", none⟩
  type := some (.nonNull (.list (.list (.nonNull (.named "String")))))

/-- A person is expected to have a list, and a name to be a text. -/
theorem manyNames_visited :
    MethodCall.FansOut manyNames [] .empty namesById askingNames [.int 4, .int 5, .int 6] (.function 1 "byId") ∧
    (namesById.resolve manyNames [] .empty askingNames manyNamesField).visits.map (·.target) =
      [(.list [.text "ada", .null], some (.list (.nonNull (.named "String")))),
        (.text "ada", some (.nonNull (.named "String"))), (.null, some (.nonNull (.named "String"))),
        (.int 0, some (.list (.nonNull (.named "String"))))] := by
  have fans : MethodCall.FansOut manyNames [] .empty namesById askingNames [.int 4, .int 5, .int 6]
      (.function 1 "byId") := ⟨rfl, ⟨_, rfl, rfl⟩, rfl, .inr ⟨"name", rfl⟩⟩
  obtain ⟨es, all, -, -, agrees⟩ := (visits_ordered none .null [] .null).2 fans manyNamesField
  have given : es = [.inside (.list [.text "ada", .null]) [] (.text "People"), .plain .null,
      .inside (.int 0) [] (.text "People")] :=
    List.map_injective_iff.mpr (fun _ _ => Except.ok.inj) (all.symm.trans rfl)
  subst given
  exact ⟨fans, (List.cons.inj agrees).2⟩

end Resolver

end GraphGateway
