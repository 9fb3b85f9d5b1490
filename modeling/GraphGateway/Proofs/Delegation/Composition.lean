import GraphGateway.Proofs.Delegation.Tagging

/-!
# Taking a value out in two steps

A path through an external object can be followed at once, or in two steps of which the second starts from what the
first has given. Both find the same value. They tag it alike unless the first step ends at an external object: the
second step then tags with what that object knows, and the single step with what the outer one knows.
-/

namespace GraphGateway

/-- Below a mapping lies what lies below an external object of the same entries. -/
theorem Store.read_external {st : Store} {v : Value} {entries : List (Value × Value)}
    (contents : v.entries? = some entries) (errors : List Value) (subschema : Value)
    (fieldSubschemas : List (Value × Value)) {keys : List String} (below : keys ≠ []) :
    st.read (.external entries errors subschema fieldSubschemas) keys = st.read v keys := by
  cases keys with
  | nil => exact absurd rfl below
  | cons key rest => cases v <;> cases contents <;> rfl

namespace Delegation

/-- Whether a value is a path that leads along some keys. -/
structure Along (path : Value) (keys : List String) : Prop where
  named : path.truthy
  reads : Store.empty.pathKeys path = .ok keys

namespace Along

theorem text {s : String} (named : s ≠ "") : Along (.text s) (Path.keys s) :=
  ⟨by simp [Value.truthy, named], rfl⟩

theorem joined (p q : String) : Along (.text (p ++ "." ++ q)) (Path.keys p ++ Path.keys q) := by
  have named : p ++ "." ++ q ≠ "" := by
    intro empty
    have point : '.' ∈ (p ++ "." ++ q).toList := by simp
    rw [empty] at point
    cases point
  exact Path.keys_append p q ▸ text named

end Along

theorem returnData_along {source path : Value} {keys : List String} (sound : source.isError = false)
    (along : Along path keys) (responseKey : String) :
    returnData source path responseKey = .ok (extracted source (Store.empty.read source keys) responseKey).value := by
  simp [returnData, extract_eq, located, sound, along.named, along.reads, Except.map]

section Tagging

variable {errors errors' : List Value} {subschema subschema' : Value}

/-- Whether two ways of tagging do the same to a value that is no list. -/
def Alike (errors errors' : List Value) (subschema subschema' : Value) (v : Value) : Prop :=
  (v.isMapping = true → v.isExternal = false → errors = errors' ∧ subschema = subschema') ∧
  (v = .null → missing errors = missing errors')

theorem retag_item_iff {v : Value} (single : ∀ items, v ≠ .list items) :
    retag errors subschema v = retag errors' subschema' v ↔ Alike errors errors' subschema subschema' v := by
  cases v with
  | null => simp [retag, tag, Alike, Value.isMapping, Value.entries?]
  | list items => exact absurd rfl (single items)
  | _ => simp [retag, tag, Alike, Value.isMapping, Value.entries?, Value.isExternal]

theorem descend_single {v x : Value} (single : ∀ items, v ≠ .list items) {position : List Nat}
    (there : v.descend position = some x) : x = v := by
  cases position with
  | nil => exact (Option.some.inj there).symm
  | cons i rest =>
      cases v with
      | list items => exact absurd rfl (single items)
      | _ => cases there

/-- A value is tagged alike exactly if it is at every position of its nested lists. -/
theorem retag_eq_iff (v : Value) :
    retag errors subschema v = retag errors' subschema' v ↔
      ∀ position x, v.descend position = some x → Alike errors errors' subschema subschema' x := by
  by_cases nested : ∃ items, v = .list items
  · obtain ⟨items, rfl⟩ := nested
    have each : ∀ item ∈ items, retag errors subschema item = retag errors' subschema' item ↔
        ∀ position x, item.descend position = some x → Alike errors errors' subschema subschema' x :=
      fun item member => retag_eq_iff item
    simp only [retag_list, Value.list.injEq, List.map_inj_left]
    constructor
    · intro same position x there
      cases position with
      | nil =>
          obtain rfl : .list items = x := Option.some.inj there
          simp [Alike, Value.isMapping, Value.entries?]
      | cons i position =>
          obtain ⟨item, found, below⟩ := Option.bind_eq_some_iff.mp there
          have member : item ∈ items := List.mem_of_getElem? found
          exact (each item member).mp (same item member) position x below
    · intro alike item member
      obtain ⟨i, found⟩ := List.mem_iff_getElem?.mp member
      refine (each item member).mpr fun position x there => alike (i :: position) x ?_
      exact Option.bind_eq_some_iff.mpr ⟨item, found, there⟩
  · have single : ∀ items, v ≠ .list items := fun items same => nested ⟨items, same⟩
    rw [retag_item_iff single]
    constructor
    · intro alike position x there
      exact descend_single single there ▸ alike
    · intro alike
      exact alike [] v rfl
termination_by sizeOf v
decreasing_by
  rename_i whole
  have smaller := List.sizeOf_lt_of_mem member
  rw [whole, Value.list.sizeOf_spec]
  omega

end Tagging

theorem retag_mapping {v : Value} {entries : List (Value × Value)} (contents : v.entries? = some entries)
    (untagged : v.isExternal = false) (errors : List Value) (subschema : Value) :
    retag errors subschema v = .external entries errors subschema [] := by
  cases v with
  | map | environment =>
      cases contents
      rfl
  | external => cases untagged
  | _ => cases contents

/-- What two external objects make of one value is the same exactly if they tag it alike. -/
theorem extracted_eq_iff {data data' : List (Value × Value)} {errors errors' : List Value}
    {subschema subschema' : Value} {fieldSubschemas fieldSubschemas' : List (Value × Value)} (found : Value)
    (responseKey : String) :
    (extracted (.external data errors subschema fieldSubschemas) found responseKey).value =
        (extracted (.external data' errors' subschema' fieldSubschemas') found responseKey).value ↔
      ∀ position x, found.descend position = some x →
        Alike errors errors' (subschemaFor subschema fieldSubschemas responseKey)
          (subschemaFor subschema' fieldSubschemas' responseKey) x := by
  rw [← retag_eq_iff]
  cases found with
  | external | fieldError => simp [extracted, Extraction.value, retag, tag]
  | _ => rfl

/-- What lies on a path through an external object is the same whether it is taken out at once or in two steps, if
the first step ends at a plain mapping. If that step ends at an external object, the second one tags with what this
object knows: the two ways agree exactly if the outer object says the same of every mapping, and of every missing
value, that is tagged. -/
theorem returnData_joined {data : List (Value × Value)} {errors : List Value} {subschema : Value}
    {fieldSubschemas : List (Value × Value)} {p q whole : Value} {ps qs : List String} (first : Along p ps)
    (second : Along q qs) (both : Along whole (ps ++ qs)) {v : Value}
    (there : Store.empty.read (.external data errors subschema fieldSubschemas) ps = v)
    (mapping : v.isMapping = true) (field : FieldName) :
    let source := Value.external data errors subschema fieldSubschemas
    let key := field.responseKey
    let atOnce := returnData source whole key
    let parted := (returnData source p key).bind fun inner => returnData inner q key
    (v.isExternal = false → atOnce = parted) ∧
    ∀ data' errors' subschema' fieldSubschemas', v = .external data' errors' subschema' fieldSubschemas' →
      parted = returnData v q key ∧
      (atOnce = parted ↔ ∀ position x, (Store.empty.read v qs).descend position = some x →
        Alike errors errors' (subschemaFor subschema fieldSubschemas key)
          (subschemaFor subschema' fieldSubschemas' key) x) := by
  intro source key atOnce parted
  have onward : Store.empty.read source (ps ++ qs) = Store.empty.read v qs := by
    rw [Store.read_append, there]
  have given : atOnce = .ok (extracted source (Store.empty.read v qs) key).value := by
    rw [← onward]
    exact returnData_along rfl both key
  have started : returnData source p key = .ok (extracted source v key).value :=
    there ▸ returnData_along rfl first key
  constructor
  · intro untagged
    obtain ⟨entries, contents⟩ := Option.isSome_iff_exists.mp mapping
    have tagged : (extracted source v key).value =
        .external entries errors (subschemaFor subschema fieldSubschemas key) [] := by
      have sound : v.isFieldError = false := by
        cases v <;> first | rfl | cases contents
      rw [extracted_inside untagged sound]
      exact retag_mapping contents untagged errors _
    have continued : parted = .ok (extracted (.external entries errors
        (subschemaFor subschema fieldSubschemas key) []) (Store.empty.read (.external entries errors
          (subschemaFor subschema fieldSubschemas key) []) qs) key).value := by
      simp only [parted, started, tagged]
      exact returnData_along rfl second key
    rw [given, continued]
    cases qs with
    | nil => exact congrArg Except.ok tagged
    | cons k rest =>
        rw [Store.read_external contents _ _ _ (List.cons_ne_nil k rest)]
        refine congrArg Except.ok ((extracted_eq_iff _ key).mpr fun position x _ => ?_)
        exact ⟨fun _ _ => ⟨rfl, rfl⟩, fun _ => rfl⟩
  · rintro data' errors' subschema' fieldSubschemas' rfl
    have continued : parted = returnData (.external data' errors' subschema' fieldSubschemas') q key := by
      simp only [parted, started]
      rfl
    refine ⟨continued, ?_⟩
    rw [continued, given, returnData_along rfl second key, Except.ok.injEq]
    exact extracted_eq_iff _ key

/-- A team whose lead is a plain mapping, with a missing member. -/
def team : Value :=
  .external [(.text "lead", .map [(.text "members", .list [.map [(.text "id", .int 1)], .null])])] userErrors
    (.text "Users") [(.text "me", .text "Accounts")]

theorem team_joined :
    (Store.empty.read team ["lead"]).isMapping = true ∧
    returnData team (.text ("lead" ++ "." ++ "members")) "me" =
      (returnData team (.text "lead") "me").bind fun inner => returnData inner (.text "members") "me" := by
  have first : Along (.text "lead") ["lead"] := .text (by decide)
  have second : Along (.text "members") ["members"] := .text (by decide)
  have both : Along (.text ("lead" ++ "." ++ "members")) (["lead"] ++ ["members"]) := .joined "lead" "members"
  refine ⟨rfl, (returnData_joined first second both rfl rfl ⟨"lead", some "me"⟩).1 rfl⟩

/-- A user that came from accounts, inside a result that came from users. -/
def nestedUser : Value :=
  .external [(.text "user", .external [(.text "profile", .map [(.text "name", .text "ada")])]
    [.error "TimeoutError" "too late" none] (.text "Accounts") [])] [] (.text "Users") []

/-- Taken out at once, the profile counts as one of users; taken out of the user, as one of accounts. -/
theorem nestedUser_not_joined :
    ¬ ∀ (data : List (Value × Value)) (errors : List Value) (subschema : Value)
        (fieldSubschemas : List (Value × Value)) (p q whole : Value) (ps qs : List String),
      ps ≠ [] → qs ≠ [] → Along p ps → Along q qs → Along whole (ps ++ qs) →
      (Store.empty.read (.external data errors subschema fieldSubschemas) ps).isMapping = true →
      ∀ field : FieldName,
        returnData (.external data errors subschema fieldSubschemas) whole field.responseKey =
          (returnData (.external data errors subschema fieldSubschemas) p field.responseKey).bind
            fun inner => returnData inner q field.responseKey := by
  intro composes
  have first : Along (.text "user") ["user"] := .text (by decide)
  have second : Along (.text "profile") ["profile"] := .text (by decide)
  have both : Along (.text "user.profile") (["user"] ++ ["profile"]) := .text (by decide)
  have same := composes _ [] (.text "Users") [] _ _ _ ["user"] ["profile"] (by decide) (by decide) first second both
    (rfl : (Store.empty.read nestedUser ["user"]).isMapping = true) ⟨"user", none⟩
  have atOnce : returnData nestedUser (.text "user.profile") "user" =
      .ok (.external [(.text "name", .text "ada")] [] (.text "Users") []) := rfl
  have parted : ((returnData nestedUser (.text "user") "user").bind fun inner =>
        returnData inner (.text "profile") "user") =
      .ok (.external [(.text "name", .text "ada")] [.error "TimeoutError" "too late" none] (.text "Accounts") []) :=
    rfl
  have differs := atOnce.symm.trans (same.trans parted)
  simp at differs

end Delegation

end GraphGateway
