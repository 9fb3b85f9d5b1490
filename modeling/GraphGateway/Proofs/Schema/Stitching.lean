import GraphGateway.Proofs.Schema.Merging

/-!
# What stitching gives

Stitching sources without documents and resolvers gives a schema exactly if no two types that come into it have one
name. It has an operation exactly if a source has a field for it: then each field is the one of the last source that
has it. A named type is the one of the first source that has it.
-/

namespace GraphGateway.Schema

/-- What a field takes over from another one: all, where no further data is the same as empty data. -/
structure Field.TakenFrom (x y : Field ρ) : Prop where
  type : x.type = y.type
  arguments : x.arguments = y.arguments
  resolve : x.resolve = y.resolve
  subscribe : x.subscribe = y.subscribe
  extensions : y.extensions ≠ .null → x.extensions = y.extensions
  without : y.extensions = .null → x.extensions = .map []

theorem Field.copied_takenFrom (y : Field ρ) : y.copied.TakenFrom y := by
  rw [Field.copied]
  split
  · rename_i none
    exact ⟨rfl, rfl, rfl, rfl, fun some => absurd none some, fun _ => rfl⟩
  · rename_i some
    exact ⟨rfl, rfl, rfl, rfl, fun _ => rfl, fun none => absurd none some⟩

/-- Whether a type can be that of an operation: an object, whose fields have mappings of texts as further data. -/
def Body.isOperable : Body ρ → Bool
  | .object _ fields => fields.all fun x => isData x.2.extensions
  | _ => false

namespace Registry

/-- Whether the types of the operations of a schema can be such. -/
def Operable (r : Registry) (s : Schema) : Prop :=
  ∀ id ∈ rootTypes s.roots, ((r.type? id).any fun t => t.body.isOperable) = true

instance (r : Registry) (s : Schema) : Decidable (r.Operable s) :=
  inferInstanceAs (Decidable (∀ id ∈ rootTypes s.roots, _))

theorem forM_ok {check : α → Except Fault Unit} {items : List α} (each : ∀ x ∈ items, check x = .ok ()) :
    items.forM check = .ok () := by
  induction items with
  | nil => rfl
  | cons x rest ih =>
      obtain ⟨first, others⟩ := List.forall_mem_cons.mp each
      have step : (x :: rest).forM check = (check x).bind fun _ => rest.forM check := rfl
      rw [step, first]
      exact ih others

theorem checkOperations_ok {r : Registry} {s : Schema} (operable : r.Operable s) : r.checkOperations s = .ok () := by
  have each : ∀ id ∈ rootTypes s.roots,
      ((r.type? id).map fun t => checkOperationFields t.body).getD (.ok ()) = .ok () := by
    intro id member
    have operable := operable id member
    cases there : r.type? id with
    | none => rfl
    | some t =>
        rw [there] at operable
        obtain ⟨name, body⟩ := t
        cases body with
        | object interfaces fields =>
            have fit : ∀ x ∈ fields, isData x.2.copied.extensions = true := by
              intro x inside
              have own := List.all_eq_true.mp operable x inside
              rw [Field.copied]
              split
              · rfl
              · exact own
            simp only [Option.map_some, Option.getD_some, checkOperationFields, Body.fields?,
              List.all_eq_true.mpr fit, if_true]
        | scalar | interface _ _ | union _ | enum _ | input _ => cases operable
  rw [checkOperations]
  exact forM_ok each

theorem merge_of_operable {r : Registry} {sources : List Schema} (operable : ∀ s ∈ sources, r.Operable s) :
    r.merge sources = r.merged sources := by
  have checked : sources.forM r.checkOperations = .ok () :=
    forM_ok fun s member => checkOperations_ok (operable s member)
  rw [merge, checked]

theorem merged_of_merge {r : Registry} {sources : List Schema} {s : Schema} (ok : (r.merge sources).1 = .ok s) :
    r.merge sources = r.merged sources := by
  rw [merge] at ok ⊢
  split at ok
  · cases ok
  · rfl

theorem stitch_alone (r : Registry) (sources : List Schema) :
    r.stitch sources [] .null = ⟨(r.merge sources).1, [], (r.merge sources).2⟩ := by
  rw [stitch]
  cases r.merge sources with
  | mk result after =>
      cases result with
      | error fault => rfl
      | ok s => rfl

section Stitch

variable {r : Registry} (sound : r.Sound) {sources : List Schema} (held : ∀ s ∈ sources, r.Holds s)
include sound held

/-- Where stitching gives a schema, it has an operation exactly if a source has a field for it. The type of an
operation is a new one, and its fields are those of all sources, each as the last source has it that has one of its
name. Every named type of a source that is not of its operations is there by its name. -/
theorem stitch_places {s : Schema} (stitched : (r.stitch sources [] .null).result = .ok s) :
    let after := (r.stitch sources [] .null).registry
    (∀ operation, (s.root? operation).isSome = true ↔ ∃ source ∈ sources, r.rootFields source operation ≠ []) ∧
    (∀ operation id, s.root? operation = some id →
      (∀ source ∈ sources, ∀ other, source.root? other ≠ some id) ∧
      ∃ fields, after.type? id = some ⟨operation.typeName, .object [] fields⟩ ∧ (fields.map (·.1)).Nodup ∧
        (∀ name, name ∈ fields.map (·.1) ↔ ∃ source ∈ sources, name ∈ (r.rootFields source operation).map (·.1)) ∧
        ∀ name x, (name, x) ∈ fields → ∃ y, r.lastField sources operation name = some y ∧ x.TakenFrom y) ∧
    ∀ source ∈ sources, ∀ name id, (name, id) ∈ source.types → isReserved name = false →
      (∀ operation, source.root? operation ≠ some id) → name ∈ s.types.map (·.1) := by
  intro after
  have ok : (r.merge sources).1 = .ok s := (stitch_alone r sources ▸ rfl : (r.merge sources).1 = _).trans stitched
  have merged : r.merge sources = r.merged sources := merged_of_merge ok
  have same : after = r.withOperations sources := by
    simp only [after, stitch_alone, merged, merged_eq]
  rw [merged] at ok
  obtain ⟨placed, _, types, _⟩ := merged_ok sound held ok
  refine ⟨fun operation => ?_, fun operation id root => ⟨fun source member other own => ?_, ?_⟩,
    fun source member name id typed free apart => ?_⟩
  · rw [← operationFields_ne_nil_iff sound, Option.isSome_iff_exists]
    simp only [placed]
    exact ⟨fun ⟨_, new⟩ => (mem_operationIds_iff.mp new).2.1, exists_operationId⟩
  · have old := (held source member).rooted other id
      ((lookup_eq_some_iff_mem (held source member).operations).mp own)
    exact operationId_new held ((placed operation id).mp root) member old rfl
  · have new := mem_operationIds_iff.mp ((placed operation id).mp root)
    refine ⟨_, same ▸ new.2.2, r.nodup_operationFields sources operation,
      fun name => mem_operationFields_iff sound, fun name x field => ?_⟩
    have found := (lookup_eq_some_iff_mem (r.nodup_operationFields sources operation)).mpr field
    rw [lookup_operationFields sound] at found
    obtain ⟨y, last, rfl⟩ := Option.map_eq_some_iff.mp found
    exact ⟨y, last, y.copied_takenFrom⟩
  · have own : (name, id) ∈ namedTypes source := by
      refine mem_namedTypes_iff.mpr ⟨typed, free, fun root => ?_⟩
      obtain ⟨⟨operation, _⟩, rooted, rfl⟩ := List.mem_map.mp root
      exact apart operation ((lookup_eq_some_iff_mem (held source member).operations).mpr rooted)
    have first : (firstNamed sources name).isSome = true := by
      refine List.findSome?_isSome_iff.mpr ⟨source, member, ?_⟩
      exact lookup_isSome_iff_mem.mpr (List.mem_map.mpr ⟨_, own, rfl⟩)
    obtain ⟨found, some⟩ := Option.isSome_iff_exists.mp first
    have kept : r.Kept sources found := ⟨found, .refl, .inl ⟨name, some⟩⟩
    exact List.mem_map.mpr ⟨_, types found kept, (firstNamed_held held some).2⟩

end Stitch

/-- A source of users, with fields of its query under the names of their types. -/
def shop (fields : List (String × String)) : List (Operation × String) × List Definition :=
  ([(.query, "Query")],
    [⟨"User", .object [] [("id", { type := ⟨.named "ID", "ID"⟩ })]⟩,
      ⟨"Query", .object [] (fields.map fun x => (x.1, { type := ⟨.named x.2, x.2⟩ }))⟩])

/-- Two sources whose queries have a field of one name. -/
def versions : List Schema × Registry :=
  Standard.registry.loadAll [shop [("me", "User"), ("version", "String")], shop [("version", "ID")]]

/-- The later source gives the version. -/
theorem versions_placed : (versions.2.Sound ∧ ∀ s ∈ versions.1, versions.2.Holds s) ∧
    ∃ s id fields x, (versions.2.stitch versions.1 [] .null).result = .ok s ∧ s.root? .query = some id ∧
      (versions.2.stitch versions.1 [] .null).registry.type? id = some ⟨"Query", .object [] fields⟩ ∧
      "me" ∈ fields.map (·.1) ∧ ("version", x) ∈ fields ∧ x.type.written = .named "ID" := by
  have held : versions.2.Sound ∧ _ ∧ ∀ s ∈ versions.1, versions.2.Holds s :=
    loadAll_holds sound_standard (by decide) (by decide)
  obtain ⟨result, me, version, later⟩ :
      (versions.2.stitch versions.1 [] .null).result.toOption.map (·.root? .query) = some (some 17) ∧
        (∃ s ∈ versions.1, "me" ∈ (versions.2.rootFields s .query).map (·.1)) ∧
        (∃ s ∈ versions.1, "version" ∈ (versions.2.rootFields s .query).map (·.1)) ∧
        (versions.2.lastField versions.1 .query "version").map (·.type.written) = some (.named "ID") := by
    decide +kernel
  cases stitched : (versions.2.stitch versions.1 [] .null).result with
  | error fault =>
      rw [stitched] at result
      cases result
  | ok s =>
      rw [stitched] at result
      have root : s.root? .query = some 17 := Option.some.inj result
      obtain ⟨_, ⟨fields, there, _, names, taken⟩⟩ := (stitch_places held.1 held.2.2 stitched).2.1 .query 17 root
      obtain ⟨⟨_, x⟩, field, rfl⟩ := List.mem_map.mp ((names "version").mpr version)
      obtain ⟨y, last, same⟩ := taken _ x field
      rw [last] at later
      exact ⟨⟨held.1, held.2.2⟩, s, 17, fields, x, rfl, root, there, (names "me").mpr me, field,
        same.type ▸ Option.some.inj later⟩

section Stitch

variable {r : Registry} (sound : r.Sound) {sources : List Schema} (held : ∀ s ∈ sources, r.Holds s)
include sound held

/-- Sources whose operations are in order are stitched to a schema exactly if no name stands in the way; otherwise
stitching fails at such a name. In the schema, each named type is the one of the first source that has it. -/
theorem stitch_succeeds_iff (operable : ∀ s ∈ sources, r.Operable s) :
    ((∃ s, (r.stitch sources [] .null).result = .ok s) ↔ ∀ name, ¬ r.Clash sources name) ∧
    (∀ fault, (r.stitch sources [] .null).result = .error fault →
      ∃ name, fault = .misuse (.duplicateType name) ∧ r.Clash sources name) ∧
    ∀ s, (r.stitch sources [] .null).result = .ok s →
      ∀ name id, firstNamed sources name = some id → s.types.lookup name = some id := by
  have result : (r.stitch sources [] .null).result = (r.merged sources).1 := by
    rw [stitch_alone, merge_of_operable operable]
  rw [result]
  refine ⟨merged_succeeds_iff sound held, fun fault failed => ?_, fun s ok name id found => ?_⟩
  · rcases merged_cases sound held with ⟨_, ok, _⟩ | ⟨name, error, clash⟩
    · cases ok.symm.trans failed
    · exact ⟨name, Except.error.inj (failed.symm.trans error), clash⟩
  · obtain ⟨_, names, types, _⟩ := merged_ok sound held ok
    have kept : r.Kept sources id := ⟨id, .refl, .inl ⟨name, found⟩⟩
    rw [lookup_eq_some_iff_mem names, ← (firstNamed_held held found).2]
    exact types id kept

end Stitch

/-- Two sources that answer with users of their own. -/
def buyers : List Schema × Registry :=
  Standard.registry.loadAll [shop [("me", "User")], shop [("buyer", "User")]]

/-- The user of the second source stands in the way. -/
theorem buyers_not_stitched : buyers.1.map ownTypes = [[("User", 13), ("Query", 14)], [("User", 15), ("Query", 16)]] ∧
    (buyers.2.Sound ∧ (∀ s ∈ buyers.1, buyers.2.Holds s) ∧ ∀ s ∈ buyers.1, buyers.2.Operable s) ∧
    ¬ ∃ s, (buyers.2.stitch buyers.1 [] .null).result = .ok s := by
  have held : buyers.2.Sound ∧ _ ∧ ∀ s ∈ buyers.1, buyers.2.Holds s :=
    loadAll_holds sound_standard (by decide) (by decide)
  obtain ⟨types, operable, named, field, name, same⟩ :
      buyers.1.map ownTypes = [[("User", 13), ("Query", 14)], [("User", 15), ("Query", 16)]] ∧
        (∀ s ∈ buyers.1, buyers.2.Operable s) ∧ firstNamed buyers.1 "User" = some 13 ∧
        (buyers.2.lastField buyers.1 .query "buyer").map (·.links) = some [some 15] ∧
        buyers.2.nameOf 13 = "User" ∧ buyers.2.nameOf 13 = buyers.2.nameOf 15 := by
    decide +kernel
  refine ⟨types, ⟨held.1, held.2.2, operable⟩, fun stitched => ?_⟩
  refine (stitch_succeeds_iff held.1 held.2.2 operable).1.mp stitched "User" ?_
  have first : buyers.2.Kept buyers.1 13 := ⟨13, .refl, .inl ⟨"User", named⟩⟩
  obtain ⟨x, found, links⟩ := Option.map_eq_some_iff.mp field
  have second : buyers.2.Kept buyers.1 15 := ⟨15, .refl, .inr (.inl ⟨.query, "buyer", x, found, by simp [links]⟩)⟩
  exact name ▸ .types first second (by decide) same

end Registry

end GraphGateway.Schema
