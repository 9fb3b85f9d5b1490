import GraphGateway.Proofs.Schema.Placement
import GraphGateway.Proofs.Schema.Registration

/-!
# Merging schemas

The types of the operations of a merged schema are new, and all its other types are those of the sources: the types
that are taken from them, and those that can be reached from these or from the fields of operations.
-/

namespace GraphGateway

theorem Operation.typeName_injective {a b : Operation} (same : a.typeName = b.typeName) : a = b := by
  cases a <;> cases b <;> first | rfl | exact absurd same (by decide)

namespace Schema.Registry

/-- The new types of the operations that a source has fields for. -/
def operationTypes (r : Registry) (sources : List Schema) : List (Operation × Registered) :=
  Operation.all.filterMap fun operation =>
    let fields := r.operationFields sources operation
    if fields.isEmpty then none else some (operation, ⟨operation.typeName, .object [] fields⟩)

def withOperations (r : Registry) (sources : List Schema) : Registry :=
  r.add ((r.operationTypes sources).map (·.2))

def operationIds (r : Registry) (sources : List Schema) : List (Operation × TypeId) :=
  ((r.operationTypes sources).zipIdx r.size).map fun x => (x.1.1, x.2)

theorem merged_eq (r : Registry) (sources : List Schema) :
    r.merged sources =
      ((r.withOperations sources).build (r.operationIds sources) ((firstTypes sources).map (·.2)),
        r.withOperations sources) := rfl

theorem mem_operationTypes_iff {r : Registry} {sources : List Schema} {operation : Operation} {t : Registered} :
    (operation, t) ∈ r.operationTypes sources ↔ r.operationFields sources operation ≠ [] ∧
      t = ⟨operation.typeName, .object [] (r.operationFields sources operation)⟩ := by
  simp only [operationTypes, List.mem_filterMap]
  constructor
  · rintro ⟨other, _, found⟩
    split at found
    · cases found
    · rename_i some
      obtain ⟨rfl, rfl⟩ := Prod.mk.inj (Option.some.inj found)
      exact ⟨fun none => some (List.isEmpty_iff.mpr none), rfl⟩
  · rintro ⟨some, rfl⟩
    refine ⟨operation, by cases operation <;> decide, ?_⟩
    rw [if_neg fun none => some (List.isEmpty_iff.mp none)]

theorem nodup_operationIds (r : Registry) (sources : List Schema) :
    ((r.operationIds sources).map (·.1)).Nodup := by
  have names : (r.operationIds sources).map (·.1) = (r.operationTypes sources).map (·.1) := by
    rw [operationIds, List.map_map, ← List.zipIdx_map_fst r.size (r.operationTypes sources), List.map_map,
      List.zipIdx_map_fst]
    rfl
  have own : ∀ {operation x}, (if (r.operationFields sources operation).isEmpty then none
      else some (operation, (⟨operation.typeName, .object [] (r.operationFields sources operation)⟩ : Registered))) =
        some x → x.1 = operation := by
    intro operation x found
    split at found
    · cases found
    · exact (congrArg Prod.fst (Option.some.inj found)).symm
  rw [names, List.Nodup, List.pairwise_map, operationTypes, List.pairwise_filterMap]
  have apart : Operation.all.Pairwise (· ≠ ·) := by decide
  exact apart.imp fun apart x found y found' same => apart ((own found).symm.trans (same.trans (own found')))

/-- The types of the operations are new, and hold the fields of the sources. -/
theorem mem_operationIds_iff {r : Registry} {sources : List Schema} {operation : Operation} {id : TypeId} :
    (operation, id) ∈ r.operationIds sources ↔ r.size ≤ id ∧ r.operationFields sources operation ≠ [] ∧
      (r.withOperations sources).type? id =
        some ⟨operation.typeName, .object [] (r.operationFields sources operation)⟩ := by
  have placed : (operation, id) ∈ r.operationIds sources ↔
      ∃ t, r.size ≤ id ∧ (r.operationTypes sources)[id - r.size]? = some (operation, t) := by
    simp only [operationIds, List.mem_map, List.mem_zipIdx_iff_le_and_getElem?_sub]
    constructor
    · rintro ⟨⟨⟨_, t⟩, _⟩, ⟨beyond, found⟩, same⟩
      obtain ⟨rfl, rfl⟩ := Prod.mk.inj same
      exact ⟨t, beyond, found⟩
    · rintro ⟨t, beyond, found⟩
      exact ⟨((operation, t), id), ⟨beyond, found⟩, rfl⟩
  have there : r.size ≤ id → (r.withOperations sources).type? id =
      (r.operationTypes sources)[id - r.size]?.map (·.2) := by
    intro beyond
    have added : (r.withOperations sources).type? (r.size + (id - r.size)) =
        ((r.operationTypes sources).map (·.2))[id - r.size]? := type?_added (id - r.size)
    rwa [Nat.add_sub_cancel' beyond, List.getElem?_map] at added
  rw [placed]
  constructor
  · rintro ⟨t, beyond, found⟩
    obtain ⟨some, rfl⟩ := mem_operationTypes_iff.mp (List.mem_of_getElem? found)
    exact ⟨beyond, some, by rw [there beyond, found]; rfl⟩
  · rintro ⟨beyond, _, found⟩
    rw [there beyond] at found
    obtain ⟨⟨other, t⟩, found, rfl⟩ := Option.map_eq_some_iff.mp found
    obtain ⟨_, same⟩ := mem_operationTypes_iff.mp (List.mem_of_getElem? found)
    have named : operation.typeName = other.typeName := congrArg TypeDef.name same
    obtain rfl := Operation.typeName_injective named
    exact ⟨_, beyond, found⟩

theorem exists_operationId {r : Registry} {sources : List Schema} {operation : Operation}
    (some : r.operationFields sources operation ≠ []) : ∃ id, (operation, id) ∈ r.operationIds sources := by
  obtain ⟨i, found⟩ := List.mem_iff_getElem?.mp (mem_operationTypes_iff.mpr ⟨some, rfl⟩)
  refine ⟨r.size + i, mem_operationIds_iff.mpr ⟨Nat.le_add_right _ _, some, ?_⟩⟩
  rw [withOperations, type?_added, List.getElem?_map, found]
  rfl

theorem fieldsOf_operation {r : Registry} {sources : List Schema} {operation : Operation} {id : TypeId}
    (placed : (operation, id) ∈ r.operationIds sources) :
    (r.withOperations sources).fieldsOf id = r.operationFields sources operation := by
  rw [fieldsOf, (mem_operationIds_iff.mp placed).2.2]
  rfl

theorem mem_next_operation_iff {r : Registry} {sources : List Schema} {operation : Operation} {id target : TypeId}
    (placed : (operation, id) ∈ r.operationIds sources) :
    target ∈ (r.withOperations sources).next id ↔
      ∃ x ∈ r.operationFields sources operation, some target ∈ x.2.links := by
  have none : (r.withOperations sources).bases id = [] := by
    rw [bases, (mem_operationIds_iff.mp placed).2.2]
    rfl
  rw [next, none, List.nil_append, fieldLinks, fieldsOf_operation placed, List.mem_flatMap]
  simp only [List.mem_filterMap, exists_eq_right]

theorem nameOf_operation {r : Registry} {sources : List Schema} {operation : Operation} {id : TypeId}
    (placed : (operation, id) ∈ r.operationIds sources) :
    (r.withOperations sources).nameOf id = operation.typeName := by
  rw [nameOf, (mem_operationIds_iff.mp placed).2.2]
  rfl

/-- A type that a merged schema takes from its sources: one that can be reached from a named type as the first source
has it, from a field of an operation as the last source has it, or from a standard type. -/
def Kept (r : Registry) (sources : List Schema) (id : TypeId) : Prop :=
  ∃ start, Reaches r.next start id ∧
    ((∃ name, firstNamed sources name = some start) ∨
      (∃ operation name x, r.lastField sources operation name = some x ∧ some start ∈ x.links) ∨
      start ∈ requiredTypes)

/-- A name that stands in the way of merging sources: two types that are taken from them have it, or one of these and
an operation. -/
inductive Clash (r : Registry) (sources : List Schema) : String → Prop where
  | types {a b : TypeId} : r.Kept sources a → r.Kept sources b → a ≠ b → r.nameOf a = r.nameOf b →
      Clash r sources (r.nameOf a)
  | operation {operation : Operation} {s : Schema} {a : TypeId} : s ∈ sources → r.rootFields s operation ≠ [] →
      r.Kept sources a → r.nameOf a = operation.typeName → Clash r sources operation.typeName

theorem firstNamed_held {r : Registry} {sources : List Schema} (held : ∀ s ∈ sources, r.Holds s) {name : String}
    {id : TypeId} (found : firstNamed sources name = some id) : id < r.size ∧ r.nameOf id = name := by
  obtain ⟨s, member, there⟩ := firstNamed_eq_some found
  exact (held s member).named name id (mem_namedTypes_iff.mp there).1

theorem firstTypes_listed {r : Registry} {sources : List Schema} (held : ∀ s ∈ sources, r.Holds s) :
    ((firstTypes sources).map (·.2)).Nodup ∧
      ∀ id ∈ (firstTypes sources).map (·.2), id < (r.withOperations sources).size := by
  have held : ∀ t ∈ firstTypes sources, t.2 < r.size ∧ r.nameOf t.2 = t.1 := by
    intro t member
    have found : firstNamed sources t.1 = some t.2 := by
      rw [← lookup_firstTypes]
      exact (lookup_eq_some_iff_mem (nodup_firstTypes sources)).mpr member
    exact firstNamed_held held found
  constructor
  · have names : (firstTypes sources).map (·.1) = ((firstTypes sources).map (·.2)).map r.nameOf := by
      rw [List.map_map]
      exact List.map_congr_left fun t member => (held t member).2.symm
    have distinct := nodup_firstTypes sources
    rw [names] at distinct
    exact (List.pairwise_map.mp distinct).imp fun apart same => apart (congrArg r.nameOf same)
  · intro id member
    obtain ⟨t, there, rfl⟩ := List.mem_map.mp member
    rw [withOperations, size_add]
    exact Nat.lt_add_right _ (held t there).1

theorem operationId_new {r : Registry} {sources : List Schema} (held : ∀ s ∈ sources, r.Holds s) {operation : Operation}
    {id : TypeId} (placed : (operation, id) ∈ r.operationIds sources) {s : Schema} (member : s ∈ sources)
    {t : String × TypeId} (typed : t ∈ s.types) : t.2 ≠ id := by
  rintro rfl
  exact Nat.not_lt_of_le (mem_operationIds_iff.mp placed).1 ((held s member).named t.1 t.2 typed).1

theorem operationIds_known (r : Registry) (sources : List Schema) :
    ∀ id ∈ rootTypes (r.operationIds sources), id < (r.withOperations sources).size := by
  intro id member
  obtain ⟨operation, found⟩ := mem_rootTypes_iff.mp member
  have placed := (lookup_eq_some_iff_mem (r.nodup_operationIds sources)).mp found
  refine Nat.lt_of_not_le fun beyond => ?_
  cases (type?_of_size_le beyond).symm.trans (mem_operationIds_iff.mp placed).2.2

section Merged

variable {r : Registry} (sound : r.Sound) {sources : List Schema} (held : ∀ s ∈ sources, r.Holds s)
include sound

theorem operationFields_ne_nil_iff {operation : Operation} :
    r.operationFields sources operation ≠ [] ↔ ∃ s ∈ sources, r.rootFields s operation ≠ [] := by
  have named : ∀ fields : List (String × Field (Option TypeId)), fields ≠ [] ↔ ∃ name, name ∈ fields.map (·.1) := by
    intro fields
    rw [← List.isEmpty_eq_false_iff_exists_mem, List.isEmpty_map, List.isEmpty_eq_false_iff]
  simp only [named, mem_operationFields_iff sound]
  exact ⟨fun ⟨name, s, member, there⟩ => ⟨s, member, name, there⟩,
    fun ⟨s, member, name, there⟩ => ⟨name, s, member, there⟩⟩

theorem mem_links_iff {operation : Operation} {target : TypeId} :
    (∃ x ∈ r.operationFields sources operation, some target ∈ x.2.links) ↔
      ∃ name x, r.lastField sources operation name = some x ∧ some target ∈ x.links := by
  have same : ∀ x : Field (Option TypeId), x.copied.links = x.links := by
    intro x
    rw [Field.copied]
    split <;> rfl
  have taken : ∀ name x, (name, x) ∈ r.operationFields sources operation ↔
      ∃ y, r.lastField sources operation name = some y ∧ y.copied = x := by
    intro name x
    rw [← lookup_eq_some_iff_mem (r.nodup_operationFields sources operation), lookup_operationFields sound,
      Option.map_eq_some_iff]
  constructor
  · rintro ⟨⟨name, x⟩, member, refers⟩
    obtain ⟨y, found, rfl⟩ := (taken name x).mp member
    exact ⟨name, y, found, same y ▸ refers⟩
  · rintro ⟨name, y, found, refers⟩
    exact ⟨(name, y.copied), (taken name _).mpr ⟨y, found, rfl⟩, (same y).symm ▸ refers⟩

theorem lastField_links {operation : Operation} {name : String} {x : Field (Option TypeId)}
    (found : r.lastField sources operation name = some x) {target : TypeId} (refers : some target ∈ x.links) :
    target < r.size := by
  obtain ⟨s, _, there⟩ := List.exists_of_findSome?_eq_some found
  rw [rootFields] at there
  cases root : s.root? operation with
  | none =>
      rw [root] at there
      cases there
  | some id =>
      rw [root] at there
      have member : (name, x) ∈ r.fieldsOf id := (lookup_eq_some_iff_mem (sound.fields id)).mp there
      have link : target ∈ r.fieldLinks id :=
        List.mem_flatMap.mpr ⟨(name, x), member, List.mem_filterMap.mpr ⟨some target, refers, rfl⟩⟩
      exact sound.bounded id target (List.mem_append_right _ link)

theorem sound_withOperations : (r.withOperations sources).Sound := by
  refine sound.add (fun t member target link => ?_) fun t member => ?_ <;>
    obtain ⟨⟨operation, t⟩, placed, rfl⟩ := List.mem_map.mp member <;>
    obtain ⟨_, rfl⟩ := mem_operationTypes_iff.mp placed
  · obtain ⟨x, field, refers⟩ := List.mem_flatMap.mp link
    obtain ⟨name, y, last, own⟩ := (mem_links_iff sound).mp ⟨x, field, refers⟩
    exact Nat.lt_add_right _ (lastField_links sound last own)
  · exact nodup_operationFields r sources operation

include held

theorem Kept.inside {id : TypeId} (kept : r.Kept sources id) : id < r.size := by
  obtain ⟨start, reaches, ⟨name, found⟩ | ⟨operation, name, x, found, refers⟩ | standard⟩ := kept
  · exact reaches.inside sound.bounded (firstNamed_held held found).1
  · exact reaches.inside sound.bounded (lastField_links sound found refers)
  · exact reaches.inside sound.bounded (sound.required start standard)

theorem included_iff {id : TypeId} :
    (r.withOperations sources).Included (r.operationIds sources) ((firstTypes sources).map (·.2)) id ↔
      r.Kept sources id ∨ ∃ operation, (operation, id) ∈ r.operationIds sources := by
  have unchanged : ∀ start last, start < r.size →
      (Reaches (r.withOperations sources).next start last ↔ Reaches r.next start last) :=
    fun start last known => reaches_add sound.bounded known
  have named : ∀ start, start ∈ (firstTypes sources).map (·.2) ↔ ∃ name, firstNamed sources name = some start := by
    intro start
    simp only [List.mem_map, Prod.exists, exists_eq_right, ← lookup_firstTypes,
      lookup_eq_some_iff_mem (nodup_firstTypes sources)]
  have rooted : ∀ start, start ∈ rootTypes (r.operationIds sources) ↔
      ∃ operation, (operation, start) ∈ r.operationIds sources := by
    intro start
    simp only [mem_rootTypes_iff, lookup_eq_some_iff_mem (r.nodup_operationIds sources)]
  constructor
  · rintro ⟨start, member, reaches⟩
    rcases List.mem_append.mp member with listed | other
    · obtain ⟨name, found⟩ := (named start).mp listed
      exact .inl ⟨start, (unchanged _ _ (firstNamed_held held found).1).mp reaches, .inl ⟨name, found⟩⟩
    rcases List.mem_append.mp other with root | standard
    · obtain ⟨operation, placed⟩ := (rooted start).mp root
      -- A new type comes from no reference, so that all beyond it was there before.
      cases reaches with
      | refl => exact .inr ⟨operation, placed⟩
      | step refers onward =>
          obtain ⟨name, x, last, link⟩ := (mem_links_iff sound).mp ((mem_next_operation_iff placed).mp refers)
          have known := lastField_links sound last link
          exact .inl ⟨_, (unchanged _ _ known).mp onward, .inr (.inl ⟨operation, name, x, last, link⟩)⟩
    · exact .inl ⟨start, (unchanged _ _ (sound.required start standard)).mp reaches, .inr (.inr standard)⟩
  · rintro (⟨start, reaches, ⟨name, found⟩ | ⟨operation, name, x, last, link⟩ | standard⟩ | ⟨operation, placed⟩)
    · exact ⟨start, List.mem_append_left _ ((named start).mpr ⟨name, found⟩),
        (unchanged _ _ (firstNamed_held held found).1).mpr reaches⟩
    · have refers := (mem_links_iff sound).mpr ⟨name, x, last, link⟩
      have some : r.operationFields sources operation ≠ [] := by
        rintro none
        rw [none] at refers
        obtain ⟨_, member, _⟩ := refers
        cases member
      obtain ⟨root, placed⟩ := exists_operationId some
      exact ⟨root, List.mem_append_right _ (List.mem_append_left _ ((rooted root).mpr ⟨operation, placed⟩)),
        .step ((mem_next_operation_iff placed).mpr refers)
          ((unchanged _ _ (lastField_links sound last link)).mpr reaches)⟩
    · exact ⟨start, List.mem_append_right _ (List.mem_append_right _ standard),
        (unchanged _ _ (sound.required start standard)).mpr reaches⟩
    · exact ⟨id, List.mem_append_right _ (List.mem_append_left _ ((rooted id).mpr ⟨operation, placed⟩)), .refl⟩

theorem nameOf_kept {id : TypeId} (kept : r.Kept sources id) :
    (r.withOperations sources).nameOf id = r.nameOf id :=
  nameOf_add (Kept.inside sound held kept)

/-- Merging sources fails at a name that stands in the way, or gives a schema of the types that are taken from them and
of the new ones. -/
theorem merged_cases :
    (∃ s, (r.merged sources).1 = .ok s ∧ s.roots = r.operationIds sources ∧ (s.types.map (·.1)).Nodup ∧
      (∀ id, r.Kept sources id → (r.nameOf id, id) ∈ s.types) ∧
      ∀ operation id, (operation, id) ∈ r.operationIds sources → (operation.typeName, id) ∈ s.types) ∨
    ∃ name, (r.merged sources).1 = .error (.misuse (.duplicateType name)) ∧ r.Clash sources name := by
  obtain ⟨distinct, known⟩ := firstTypes_listed held
  have built := build_cases (sound_withOperations sound) distinct known (operationIds_known r sources)
  simp only [included_iff sound held] at built
  simp only [merged_eq]
  rcases built with ⟨s, ok, roots, names, types⟩ | ⟨a, b, failed, apart, first, second, same⟩
  · refine .inl ⟨s, ok, roots, names, fun id kept => ?_, fun operation id placed => ?_⟩
    · exact (types _ _).mpr ⟨.inl kept, nameOf_kept sound held kept⟩
    · exact (types _ _).mpr ⟨.inr ⟨operation, placed⟩, nameOf_operation placed⟩
  · refine .inr ⟨_, failed, ?_⟩
    have fields : ∀ {operation id}, (operation, id) ∈ r.operationIds sources →
        ∃ s ∈ sources, r.rootFields s operation ≠ [] :=
      fun placed => (operationFields_ne_nil_iff sound).mp (mem_operationIds_iff.mp placed).2.1
    -- Two new types never have one name; a new type and an old one may.
    rcases first with first | ⟨operation, first⟩ <;> rcases second with second | ⟨other, second⟩
    · rw [nameOf_kept sound held first, nameOf_kept sound held second] at same
      exact nameOf_kept sound held first ▸ .types first second apart same
    · obtain ⟨s, member, some⟩ := fields second
      rw [nameOf_kept sound held first, nameOf_operation second] at same
      exact nameOf_kept sound held first ▸ same ▸ .operation member some first same
    · obtain ⟨s, member, some⟩ := fields first
      rw [nameOf_operation first, nameOf_kept sound held second] at same
      exact nameOf_operation first ▸ .operation member some second same.symm
    · rw [nameOf_operation first, nameOf_operation second] at same
      obtain rfl := Operation.typeName_injective same
      exact absurd (eq_of_mem_of_nodup (r.nodup_operationIds sources) first second) apart

/-- What a merged schema holds: the types that are taken from its sources, and the new ones. -/
theorem merged_ok {s : Schema} (ok : (r.merged sources).1 = .ok s) :
    (∀ operation id, s.root? operation = some id ↔ (operation, id) ∈ r.operationIds sources) ∧
      (s.types.map (·.1)).Nodup ∧ (∀ id, r.Kept sources id → (r.nameOf id, id) ∈ s.types) ∧
      ∀ operation id, (operation, id) ∈ r.operationIds sources → (operation.typeName, id) ∈ s.types := by
  rcases merged_cases sound held with ⟨_, there, roots, names, types, operations⟩ | ⟨_, failed, _⟩
  · obtain rfl := Except.ok.inj (ok.symm.trans there)
    refine ⟨fun operation id => ?_, names, types, operations⟩
    rw [Schema.root?, roots, lookup_eq_some_iff_mem (r.nodup_operationIds sources)]
  · cases ok.symm.trans failed

theorem merged_holds {s : Schema} (ok : (r.merged sources).1 = .ok s) : (r.withOperations sources).Holds s := by
  obtain ⟨distinct, known⟩ := firstTypes_listed held
  simp only [merged_eq] at ok
  exact holds_of_build (sound_withOperations sound) distinct known (operationIds_known r sources)
    (r.nodup_operationIds sources) ok

/-- Sources can be merged exactly if no name stands in the way. -/
theorem merged_succeeds_iff : (∃ s, (r.merged sources).1 = .ok s) ↔ ∀ name, ¬ r.Clash sources name := by
  rcases merged_cases sound held with ⟨s, ok, _, names, types, operations⟩ | ⟨name, failed, clash⟩
  · refine iff_of_true ⟨s, ok⟩ fun name clash => ?_
    cases clash with
    | types first second apart same => exact apart (eq_of_mem_of_nodup names (types _ first) (same ▸ types _ second))
    | @operation operation s a member some kept same =>
        obtain ⟨id, placed⟩ := exists_operationId ((operationFields_ne_nil_iff sound).mpr ⟨s, member, some⟩)
        have new : a = id := eq_of_mem_of_nodup names (same ▸ types _ kept) (operations _ _ placed)
        exact Nat.not_lt_of_le (mem_operationIds_iff.mp placed).1 (new ▸ Kept.inside sound held kept)
  · refine iff_of_false ?_ fun free => free name clash
    rintro ⟨s, ok⟩
    cases failed.symm.trans ok

end Merged

end Schema.Registry

end GraphGateway
