import GraphGateway.Proofs.Distinct
import GraphGateway.Proofs.Schema.Reach
import GraphGateway.TypeSystem.Standard

/-!
# What a schema is built of

A schema that is built takes in, each under its name, the types that can be reached from those that it is made of and
from the standard ones. It cannot be built exactly if two of them have one name.
-/

namespace GraphGateway.Schema

/-- A schema that a registry holds: its types stand in the registry under its names, with them all types that they refer
to, and the types of its operations are among them. -/
structure Registry.Holds (r : Registry) (s : Schema) : Prop where
  named : ∀ name id, (name, id) ∈ s.types → id < r.size ∧ r.nameOf id = name
  distinct : (s.types.map (·.1)).Nodup
  closed : ∀ name id, (name, id) ∈ s.types → ∀ target ∈ r.next id, (r.nameOf target, target) ∈ s.types
  operations : (s.roots.map (·.1)).Nodup
  rooted : ∀ operation id, (operation, id) ∈ s.roots → (r.nameOf id, id) ∈ s.types

namespace Registry

/-- The standard types that every schema takes in. -/
def requiredTypes : List TypeId :=
  Standard.required.filterMap fun name => Standard.types.lookup name

/-- A registry of types that schemas can be built of: it starts with the standard types, every reference leads to one
of its types, and no type has two fields of one name. -/
structure Sound (r : Registry) : Prop where
  standard : ∃ more, r.types = Standard.registry.types ++ more
  bounded : r.Bounded
  fields : ∀ id, ((r.fieldsOf id).map (·.1)).Nodup

theorem Sound.required {r : Registry} (sound : r.Sound) : ∀ id ∈ requiredTypes, id < r.size := by
  obtain ⟨more, whole⟩ := sound.standard
  have known : ∀ id ∈ requiredTypes, id < Standard.registry.types.length := by decide
  intro id member
  rw [size, whole, List.length_append]
  exact Nat.lt_add_right _ (known id member)

/-- A type that can be reached from some types, from the types of operations or from the standard ones. -/
def Included (r : Registry) (roots : List (Operation × TypeId)) (listed : List TypeId) (id : TypeId) : Prop :=
  ∃ start ∈ listed ++ (rootTypes roots ++ requiredTypes), Reaches r.next start id

theorem repeated?_eq_some {seen names : List String} {name : String} (found : repeated? seen names = some name) :
    ∃ before after, names = before ++ name :: after ∧ (name ∈ seen ∨ name ∈ before) := by
  induction names generalizing seen with
  | nil => cases found
  | cons first rest ih =>
      rw [repeated?] at found
      split at found
      · rename_i again
        obtain rfl := Option.some.inj found
        exact ⟨[], rest, rfl, .inl (List.contains_iff_mem.mp again)⟩
      · obtain ⟨before, after, rfl, earlier⟩ := ih found
        refine ⟨first :: before, after, rfl, ?_⟩
        rcases earlier with seen | later
        · rcases List.mem_cons.mp seen with rfl | seen
          · exact .inr List.mem_cons_self
          · exact .inl seen
        · exact .inr (List.mem_cons_of_mem _ later)

theorem repeated?_eq_none {seen names : List String} (found : repeated? seen names = none) :
    names.Nodup ∧ ∀ name ∈ names, name ∉ seen := by
  induction names generalizing seen with
  | nil => exact ⟨.nil, nofun⟩
  | cons first rest ih =>
      rw [repeated?] at found
      split at found
      · cases found
      · rename_i fresh
        obtain ⟨distinct, others⟩ := ih found
        refine ⟨List.nodup_cons.mpr ⟨fun again => others first again List.mem_cons_self, distinct⟩, ?_⟩
        refine List.forall_mem_cons.mpr ⟨fun seen => fresh (List.contains_iff_mem.mpr seen), fun name member seen => ?_⟩
        exact others name member (List.mem_cons_of_mem _ seen)

theorem mem_rootTypes_iff {roots : List (Operation × TypeId)} {id : TypeId} :
    id ∈ rootTypes roots ↔ ∃ operation, roots.lookup operation = some id := by
  rw [rootTypes, List.mem_filterMap]
  constructor
  · exact fun ⟨operation, _, found⟩ => ⟨operation, found⟩
  · exact fun ⟨operation, found⟩ => ⟨operation, by cases operation <;> decide, found⟩

theorem Included.next {r : Registry} {roots : List (Operation × TypeId)} {listed : List TypeId} {id target : TypeId}
    (included : r.Included roots listed id) (refers : target ∈ r.next id) : r.Included roots listed target := by
  obtain ⟨start, member, reaches⟩ := included
  exact ⟨start, member, reaches.onward refers⟩

theorem build_of_repeated {r : Registry} {roots : List (Operation × TypeId)} {listed : List TypeId} {name : String}
    (found : repeated? [] ((r.reach listed (rootTypes roots ++ requiredTypes)).map r.nameOf) = some name) :
    r.build roots listed = .error (.misuse (.duplicateType name)) := by
  rw [requiredTypes] at found
  simp only [build, schema, found]

theorem build_of_distinct {r : Registry} {roots : List (Operation × TypeId)} {listed : List TypeId}
    (found : repeated? [] ((r.reach listed (rootTypes roots ++ requiredTypes)).map r.nameOf) = none) :
    r.build roots listed = .ok { roots, types := (r.reach listed (rootTypes roots ++ requiredTypes)).map fun id =>
      (r.nameOf id, id) } := by
  rw [requiredTypes] at found ⊢
  simp only [build, schema, found]

section Build

variable {r : Registry} (sound : r.Sound) {roots : List (Operation × TypeId)} {listed : List TypeId}
  (distinct : listed.Nodup) (known : ∀ id ∈ listed, id < r.size) (knownRoots : ∀ id ∈ rootTypes roots, id < r.size)
include sound distinct known knownRoots

theorem Included.inside {id : TypeId} (included : r.Included roots listed id) : id < r.size := by
  have knownOthers : ∀ id ∈ rootTypes roots ++ requiredTypes, id < r.size :=
    List.forall_mem_append.mpr ⟨knownRoots, sound.required⟩
  have reached := (mem_reach_iff sound.bounded distinct known knownOthers).mpr included
  exact (reach_explored sound.bounded distinct known knownOthers).2.1 id reached

/-- A schema is built, or fails at a name that two of its types have. -/
theorem build_cases :
    (∃ s, r.build roots listed = .ok s ∧ s.roots = roots ∧ (s.types.map (·.1)).Nodup ∧
      ∀ name id, (name, id) ∈ s.types ↔ r.Included roots listed id ∧ r.nameOf id = name) ∨
    ∃ a b, r.build roots listed = .error (.misuse (.duplicateType (r.nameOf a))) ∧ a ≠ b ∧
      r.Included roots listed a ∧ r.Included roots listed b ∧ r.nameOf a = r.nameOf b := by
  have knownOthers : ∀ id ∈ rootTypes roots ++ requiredTypes, id < r.size :=
    List.forall_mem_append.mpr ⟨knownRoots, sound.required⟩
  have included : ∀ id, id ∈ r.reach listed (rootTypes roots ++ requiredTypes) ↔ r.Included roots listed id :=
    fun id => mem_reach_iff sound.bounded distinct known knownOthers
  have nodup := (reach_explored sound.bounded distinct known knownOthers).1
  cases found : repeated? [] ((r.reach listed (rootTypes roots ++ requiredTypes)).map r.nameOf) with
  | some name =>
      -- The types are all different, so that the two places of the name are of two types.
      obtain ⟨before, after, split, earlier⟩ := repeated?_eq_some found
      obtain ⟨first, rest, whole, firstNames, restNames⟩ := List.map_eq_append_iff.mp split
      obtain ⟨a, others, rfl, rfl, _⟩ := List.map_eq_cons_iff.mp restNames
      rw [← firstNames] at earlier
      obtain ⟨b, member, same⟩ := List.mem_map.mp (earlier.resolve_left nofun)
      have apart : a ≠ b := by
        rintro rfl
        exact (List.nodup_append.mp (whole ▸ nodup)).2.2 a member a List.mem_cons_self rfl
      refine .inr ⟨a, b, build_of_repeated found, apart, (included a).mp ?_, (included b).mp ?_, same.symm⟩
      · exact whole ▸ List.mem_append_right _ List.mem_cons_self
      · exact whole ▸ List.mem_append_left _ member
  | none =>
      refine .inl ⟨_, build_of_distinct found, rfl, ?_, fun name id => ?_⟩
      · simpa [List.map_map, Function.comp_def] using (repeated?_eq_none found).1
      · simp only [List.mem_map, Prod.mk.injEq, ← included]
        constructor
        · rintro ⟨_, member, rfl, rfl⟩
          exact ⟨member, rfl⟩
        · rintro ⟨member, rfl⟩
          exact ⟨id, member, rfl, rfl⟩

theorem build_succeeds_iff :
    (∃ s, r.build roots listed = .ok s) ↔
      ∀ a b, r.Included roots listed a → r.Included roots listed b → r.nameOf a = r.nameOf b → a = b := by
  rcases build_cases sound distinct known knownRoots with
    ⟨s, built, _, names, types⟩ | ⟨a, b, failed, apart, there, here, same⟩
  · refine iff_of_true ⟨s, built⟩ fun a b first second same => ?_
    exact eq_of_mem_of_nodup names ((types _ _).mpr ⟨first, rfl⟩) ((types _ _).mpr ⟨second, same.symm⟩)
  · refine iff_of_false ?_ fun unmixed => apart (unmixed a b there here same)
    rintro ⟨s, built⟩
    cases failed.symm.trans built

theorem holds_of_build (operations : (roots.map (·.1)).Nodup) {s : Schema} (built : r.build roots listed = .ok s) :
    r.Holds s := by
  rcases build_cases sound distinct known knownRoots with ⟨_, ok, rfl, names, types⟩ | ⟨_, _, failed, _⟩
  · obtain rfl := Except.ok.inj (built.symm.trans ok)
    refine ⟨fun name id member => ?_, names, fun name id member target refers => ?_, operations,
      fun operation id member => ?_⟩
    · obtain ⟨included, named⟩ := (types name id).mp member
      exact ⟨included.inside sound distinct known knownRoots, named⟩
    · exact (types _ target).mpr ⟨((types name id).mp member).1.next refers, rfl⟩
    · have root := mem_rootTypes_iff.mpr ⟨operation, (lookup_eq_some_iff_mem operations).mpr member⟩
      exact (types _ id).mpr ⟨⟨id, List.mem_append_right _ (List.mem_append_left _ root), .refl⟩, rfl⟩
  · cases failed.symm.trans built

end Build

end Registry

end GraphGateway.Schema
