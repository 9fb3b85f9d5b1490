import GraphGateway.Proofs.Delegation.Extraction
import GraphGateway.Proofs.Resolver.RequestIsolation

/-!
# Tagging inside an external object

What is taken out of an external object keeps its shape. At each position of its nested lists, and nowhere deeper, a
mapping is tagged with the errors and the schema of the object, null is explained by the errors, and anything else
stays as it is.
-/

namespace GraphGateway

namespace Value

def isExternal : Value → Bool
  | .external .. => true
  | _ => false

def isFieldError : Value → Bool
  | .fieldError .. => true
  | _ => false

/-- What stands at a position, which leads down through lists only. -/
def descend : Value → List Nat → Option Value
  | v, [] => some v
  | .list items, i :: position => items[i]?.bind fun v => descend v position
  | _, _ :: _ => none

end Value

namespace Delegation

/-- What tagging with some errors and a schema makes of a value, a list without its items. -/
inductive Tagged (errors : List Value) (subschema : Value) : Value → Value → Prop
  | absent (none : errors = []) : Tagged errors subschema .null .null
  | explained {e : Value} (one : errors = [e]) : Tagged errors subschema .null e
  | summed (several : 2 ≤ errors.length) :
      Tagged errors subschema .null
        (.fieldError ("\n".intercalate (errors.map (·.toText))) .null
          (.map [(.text "errors", .list (errors.map fun e => .text e.toText))]))
  | items {items results : List Value} (size : results.length = items.length) :
      Tagged errors subschema (.list items) (.list results)
  | mapping {v : Value} {entries : List (Value × Value)} (contents : v.entries? = some entries)
      (untagged : v.isExternal = false) : Tagged errors subschema v (.external entries errors subschema [])
  | kept {v : Value} (present : v ≠ .null) (single : ∀ items, v ≠ .list items)
      (other : v.isMapping = false ∨ v.isExternal = true) : Tagged errors subschema v v

variable {errors : List Value} {subschema : Value}

theorem tagged_missing : Tagged errors subschema .null (missing errors) := by
  match errors with
  | [] => exact .absent rfl
  | [e] => exact .explained rfl
  | first :: second :: rest =>
      have several : 2 ≤ (first :: second :: rest).length := by simp
      simpa only [missing, List.map_map, Function.comp_def] using Tagged.summed several

mutual

/-- What tagging makes of a value does not depend on the type that it is expected to have. -/
theorem tag_result (type : Option TypeRef) (v : Value) :
    (tag errors subschema type v).result = retag errors subschema v := by
  cases v with
  | list items => simp only [retag, tag, tagItems_result (itemType type) items, tagItems_result (itemType none) items]
  | _ => rfl
termination_by sizeOf v

theorem tagItems_result (type : Option TypeRef) (items : List Value) :
    (tagItems errors subschema type items).result = items.map (retag errors subschema) := by
  cases items with
  | nil => rfl
  | cons v rest => simp only [tagItems, tag_result type v, tagItems_result type rest, List.map_cons]
termination_by sizeOf items

end

theorem retag_list (items : List Value) :
    retag errors subschema (.list items) = .list (items.map (retag errors subschema)) := by
  simp only [retag, tag, tagItems_result]

theorem tagged_retag (v : Value) : Tagged errors subschema v (retag errors subschema v) := by
  cases v with
  | null => exact tagged_missing
  | list items =>
      rw [retag_list]
      exact .items (List.length_map _)
  | map | environment => exact .mapping rfl rfl
  | external => exact .kept nofun nofun (.inr rfl)
  | _ => exact .kept nofun nofun (.inl rfl)

/-- Tagging reaches every position, and no position is lost. -/
theorem descend_retag {v x : Value} {position : List Nat} (there : v.descend position = some x) :
    (retag errors subschema v).descend position = some (retag errors subschema x) := by
  induction position generalizing v with
  | nil =>
      cases there
      rfl
  | cons i position ih =>
      cases v with
      | list items =>
          obtain ⟨item, found, below⟩ := Option.bind_eq_some_iff.mp there
          simp only [retag_list, Value.descend, List.getElem?_map, found, Option.map_some, Option.bind_some]
          exact ih below
      | _ => cases there

/-- The key of a field in the result: its other name, if it has one, and else its own. -/
inductive GoesBy : FieldName → String → Prop
  | other {name other : String} (given : other ≠ "") : GoesBy ⟨name, some other⟩ other
  | unnamed {name other : String} (empty : other = "") : GoesBy ⟨name, some other⟩ name
  | own (name : String) : GoesBy ⟨name, none⟩ name

theorem goesBy_responseKey (field : FieldName) : GoesBy field field.responseKey := by
  obtain ⟨name, _ | other⟩ := field
  · exact .own name
  · by_cases empty : other = ""
    · have same : FieldName.responseKey ⟨name, some other⟩ = name := by simp [FieldName.responseKey, empty]
      rw [same]
      exact .unnamed empty
    · have named : FieldName.responseKey ⟨name, some other⟩ = other := by simp [FieldName.responseKey, empty]
      rw [named]
      exact .other empty

/-- The schema that an external object has for a key: the one that it records for the key, and else its own. -/
inductive Records (subschema : Value) (fieldSubschemas : List (Value × Value)) (key : String) : Value → Prop
  | recorded {schema : Value} (entry : Value.lookup key fieldSubschemas = some schema) :
      Records subschema fieldSubschemas key schema
  | default (none : Value.lookup key fieldSubschemas = none) : Records subschema fieldSubschemas key subschema

theorem records_subschemaFor (subschema : Value) (fieldSubschemas : List (Value × Value)) (key : String) :
    Records subschema fieldSubschemas key (subschemaFor subschema fieldSubschemas key) := by
  unfold subschemaFor
  cases found : Value.lookup key fieldSubschemas with
  | none => exact .default found
  | some schema => exact .recorded found

/-- What is found inside an external object is tagged with what the object knows. -/
theorem extracted_inside {found : Value} (untagged : found.isExternal = false) (sound : found.isFieldError = false)
    (data : List (Value × Value)) (errors : List Value) (subschema : Value) (fieldSubschemas : List (Value × Value))
    (responseKey : String) :
    extracted (.external data errors subschema fieldSubschemas) found responseKey =
      .inside found errors (subschemaFor subschema fieldSubschemas responseKey) := by
  cases found with
  | external => cases untagged
  | fieldError => cases sound
  | _ => rfl

/-- What lies inside an external object is given with its shape: at each position of its nested lists stands what
the errors of the object, and the schema that it records for the key of the field in the result, make of what stood
there. A resolver that takes it out of the shared containers leaves the object there as it was. -/
theorem returnData_tags {data : List (Value × Value)} {errors : List Value} {subschema : Value}
    {fieldSubschemas : List (Value × Value)} {path : String} {v : Value} (named : path ≠ "")
    (found : Store.empty.read (.external data errors subschema fieldSubschemas) (Path.keys path) = v)
    (untagged : v.isExternal = false) (sound : v.isFieldError = false) (field : FieldName) :
    let source := Value.external data errors subschema fieldSubschemas
    (∃ r key schema, returnData source (.text path) field.responseKey = .ok r ∧
      GoesBy field key ∧ Records subschema fieldSubschemas key schema ∧
      ∀ position x, v.descend position = some x → ∃ y, r.descend position = some y ∧ Tagged errors schema x y) ∧
    ∀ (host : Host) (environment : List (String × String)) (st : Store) (d : Resolver.MethodCall)
      (request : Request) (asked : Resolver.FieldInfo) (given : Value),
      (Resolver.buildArguments host environment st request d.args).store.snapshot given = source →
        (d.answer host environment st request asked).store.snapshot given = source := by
  intro source
  constructor
  · have truthy : (Value.text path).truthy = true := by simp [Value.truthy, named]
    have located : located source (.text path) = .ok v := by
      simp [Delegation.located, source, Value.isError, truthy, Store.pathKeys, Store.look, Except.map, found]
    let schema := subschemaFor subschema fieldSubschemas field.responseKey
    have returns : returnData source (.text path) field.responseKey = .ok (retag errors schema v) := by
      simp only [returnData, extract_eq, located, Except.map, source, extracted_inside untagged sound,
        Extraction.value, schema]
    refine ⟨_, field.responseKey, schema, returns, goesBy_responseKey field, records_subschemaFor _ _ _, ?_⟩
    intro position x there
    exact ⟨_, descend_retag there, tagged_retag x⟩
  · intro host environment st d request asked given same
    rw [Resolver.MethodCall.answer_store, same]

/-- What could not be said of the users. -/
def userErrors : List Value :=
  [.error "TimeoutError" "too late" none, .error "LookupError" "nobody" none]

/-- Users that came from two sources. -/
def users : Value :=
  .external [(.text "users", .list [.map [(.text "id", .int 1)], .list [.null, .tuple [.null]]])] userErrors
    (.text "Users") [(.text "me", .text "Accounts")]

/-- Under another name the users come from another source; a missing one in a list of a list is explained by both
errors. -/
theorem users_tagged :
    ∃ r, returnData users (.text "users") "me" = .ok r ∧
      (∃ y, r.descend [0] = some y ∧
        Tagged userErrors (.text "Accounts") (.map [(.text "id", .int 1)]) y) ∧
      ∃ y, r.descend [1, 0] = some y ∧ Tagged userErrors (.text "Accounts") .null y := by
  have named : "users" ≠ "" := by decide
  have found : Store.empty.read users (Path.keys "users") =
      .list [.map [(.text "id", .int 1)], .list [.null, .tuple [.null]]] := rfl
  obtain ⟨⟨r, key, schema, returned, known, recorded, shape⟩, -⟩ :=
    returnData_tags named found rfl rfl ⟨"users", some "me"⟩
  have other : schema = .text "Accounts" := by
    cases known with
    | unnamed empty => exact absurd empty (by decide)
    | other =>
        cases recorded with
        | recorded entry => exact (Option.some.inj entry).symm
        | default none => cases none
  subst other
  exact ⟨r, returned, shape [0] _ rfl, shape [1, 0] _ rfl⟩

end Delegation

end GraphGateway
