import GraphGateway.Proofs.Schema.Building

/-!
# Registering schemas

Loading a schema registers its types. The registry stays one that schemas can be built of, it holds the new schema,
and it holds the schemas that it held before.
-/

namespace GraphGateway.Schema

section Map

variable {α β : Type} (f : α → β)

theorem Field.links_map (x : Field α) : (x.map f).links = x.links.map f := by
  simp [links, Field.map, Link.map, Function.comp_def]

theorem Body.bases_map (b : Body α) : (b.map f).bases = b.bases.map f := by
  cases b <;> rfl

theorem Body.fields_map (b : Body α) : (b.map f).fields = b.fields.map fun x => (x.1, x.2.map f) := by
  cases b <;> rfl

def Body.links (b : Body α) : List α :=
  b.bases ++ b.fields.flatMap (·.2.links)

theorem Body.links_map (b : Body α) : (b.map f).links = b.links.map f := by
  simp only [links, bases_map, fields_map, List.flatMap_map, Field.links_map, List.map_append, List.map_flatMap]

end Map

namespace Registry

theorem mem_next_iff {r : Registry} {id target : TypeId} :
    target ∈ r.next id ↔ ∃ t, r.type? id = some t ∧ some target ∈ t.body.links := by
  cases found : r.type? id with
  | none => simp [next, bases, fieldLinks, fieldsOf, found]
  | some t => simp [next, bases, fieldLinks, fieldsOf, found, Body.links, List.mem_flatMap]

section Add

variable {r : Registry} {types : List Registered} {id : TypeId}

theorem size_add : (r.add types).size = r.size + types.length :=
  List.length_append

theorem type?_add (known : id < r.size) : (r.add types).type? id = r.type? id :=
  List.getElem?_append_left known

theorem type?_added (i : Nat) : (r.add types).type? (r.size + i) = types[i]? := by
  show (r.types ++ types)[r.types.length + i]? = _
  rw [List.getElem?_append_right (Nat.le_add_right _ _), Nat.add_sub_cancel_left]

theorem type?_of_size_le (beyond : r.size ≤ id) : r.type? id = none :=
  List.getElem?_eq_none beyond

theorem nameOf_add (known : id < r.size) : (r.add types).nameOf id = r.nameOf id := by
  rw [nameOf, type?_add known, nameOf]

theorem fieldsOf_add (known : id < r.size) : (r.add types).fieldsOf id = r.fieldsOf id := by
  rw [fieldsOf, type?_add known, fieldsOf]

theorem next_add (known : id < r.size) : (r.add types).next id = r.next id := by
  rw [next, next, bases, bases, fieldLinks, fieldLinks, fieldsOf_add known, type?_add known]

theorem reaches_add (bounded : r.Bounded) {start last : TypeId} (known : start < r.size) :
    Reaches (r.add types).next start last ↔ Reaches r.next start last := by
  constructor
  · intro reaches
    induction reaches with
    | refl => exact .refl
    | step refers _ ih =>
        rw [next_add known] at refers
        exact .step refers (ih (bounded _ _ refers))
  · intro reaches
    induction reaches with
    | refl => exact .refl
    | step refers _ ih => exact .step (next_add known ▸ refers) (ih (bounded _ _ refers))

theorem Holds.add {s : Schema} (holds : r.Holds s) (bounded : r.Bounded) : (r.add types).Holds s := by
  refine ⟨fun name id member => ?_, holds.distinct, fun name id member target refers => ?_, holds.operations,
    fun operation id member => ?_⟩
  · obtain ⟨known, named⟩ := holds.named name id member
    rw [size_add, nameOf_add known]
    exact ⟨Nat.lt_add_right _ known, named⟩
  · have known := (holds.named name id member).1
    rw [next_add known] at refers
    rw [nameOf_add (bounded id target refers)]
    exact holds.closed name id member target refers
  · have there := holds.rooted operation id member
    rwa [nameOf_add (holds.named _ id there).1]

theorem Bounded.add (bounded : r.Bounded)
    (inside : ∀ t ∈ types, ∀ target, some target ∈ t.body.links → target < r.size + types.length) :
    (r.add types).Bounded := by
  intro id target refers
  rw [size_add]
  by_cases known : id < r.size
  · exact Nat.lt_add_right _ (bounded id target (next_add known ▸ refers))
  · obtain ⟨t, found, link⟩ := mem_next_iff.mp refers
    rw [← Nat.add_sub_cancel' (Nat.le_of_not_lt known), type?_added] at found
    exact inside t (List.mem_of_getElem? found) target link

theorem fields_add (distinct : ∀ id, ((r.fieldsOf id).map (·.1)).Nodup)
    (fields : ∀ t ∈ types, (t.body.fields.map (·.1)).Nodup) (id : TypeId) :
    (((r.add types).fieldsOf id).map (·.1)).Nodup := by
  by_cases known : id < r.size
  · rw [fieldsOf_add known]
    exact distinct id
  · have added : (r.add types).type? (r.size + (id - r.size)) = types[id - r.size]? := type?_added (id - r.size)
    rw [Nat.add_sub_cancel' (Nat.le_of_not_lt known)] at added
    rw [fieldsOf, added]
    cases found : types[id - r.size]? with
    | none => exact .nil
    | some t => exact fields t (List.mem_of_getElem? found)

theorem Sound.add (sound : r.Sound)
    (inside : ∀ t ∈ types, ∀ target, some target ∈ t.body.links → target < r.size + types.length)
    (fields : ∀ t ∈ types, (t.body.fields.map (·.1)).Nodup) : (r.add types).Sound := by
  obtain ⟨more, whole⟩ := sound.standard
  refine ⟨⟨more ++ types, ?_⟩, sound.bounded.add inside, fields_add sound.fields fields⟩
  rw [Registry.add, whole, List.append_assoc]

end Add

section Declare

variable {r : Registry} {known : List (String × TypeId)} {definitions : List Definition}

theorem declare_ids {t : String × TypeId} (member : t ∈ (r.declare known definitions).1) :
    t.2 < r.size + definitions.length := by
  obtain ⟨⟨d, id⟩, place, rfl⟩ := List.mem_map.mp member
  obtain ⟨beyond, found⟩ := List.mem_zipIdx_iff_le_and_getElem?_sub.mp place
  have inside := (List.getElem?_eq_some_iff.mp found).1
  have above : r.size ≤ id := beyond
  show id < _
  omega

variable (there : ∀ t ∈ known, t.2 < r.size)
include there

theorem place_inside {name : String} {id : TypeId}
    (found : (known ++ (r.declare known definitions).1).lookup name = some id) :
    id < r.size + definitions.length := by
  obtain ⟨before, after, split, _⟩ := List.lookup_eq_some_iff.mp found
  have member : (name, id) ∈ known ++ (r.declare known definitions).1 := by
    rw [split]
    simp
  rcases List.mem_append.mp member with old | new
  · exact Nat.lt_add_right _ (there _ old)
  · exact declare_ids new

theorem declared_inside {t : Registered}
    (member : t ∈ definitions.map fun d => d.map fun name => (known ++ (r.declare known definitions).1).lookup name)
    {target : TypeId} (link : some target ∈ t.body.links) : target < r.size + definitions.length := by
  obtain ⟨d, _, rfl⟩ := List.mem_map.mp member
  rw [TypeDef.map, Body.links_map] at link
  obtain ⟨name, _, found⟩ := List.mem_map.mp link
  exact place_inside there found

omit there in
theorem declared_fields (fields : ∀ d ∈ definitions, (d.body.fields.map (·.1)).Nodup) {t : Registered}
    (member : t ∈ definitions.map fun d => d.map fun name => (known ++ (r.declare known definitions).1).lookup name) :
    (t.body.fields.map (·.1)).Nodup := by
  obtain ⟨d, defined, rfl⟩ := List.mem_map.mp member
  rw [TypeDef.map, Body.fields_map, List.map_map]
  exact fields d defined

theorem Sound.declare (sound : r.Sound) (fields : ∀ d ∈ definitions, (d.body.fields.map (·.1)).Nodup) :
    (r.declare known definitions).2.Sound := by
  refine sound.add (fun t member target link => ?_) fun t member => declared_fields fields member
  rw [List.length_map]
  exact declared_inside there member link

end Declare

theorem sound_standard : Standard.registry.Sound := by
  have bounded : Bounded {} := fun id target refers => by
    obtain ⟨t, found, _⟩ := mem_next_iff.mp refers
    cases found
  have fields : ∀ d ∈ Standard.definitions, (d.body.fields.map (·.1)).Nodup := by decide +kernel
  refine ⟨⟨[], (List.append_nil _).symm⟩, ?_, ?_⟩
  · refine bounded.add fun t member target link => ?_
    rw [List.length_map]
    exact declared_inside (fun _ none => by cases none) member link
  · exact fields_add (fun _ => .nil) fun t member => declared_fields fields member

theorem standard_known {r : Registry} (sound : r.Sound) : ∀ t ∈ Standard.types, t.2 < r.size := by
  obtain ⟨more, whole⟩ := sound.standard
  have known : ∀ t ∈ Standard.types, t.2 < Standard.registry.types.length := by decide
  intro t member
  rw [size, whole, List.length_append]
  exact Nat.lt_add_right _ (known t member)

theorem nodup_placed {roots : List (Operation × String)} (operations : (roots.map (·.1)).Nodup)
    (place : String → Option TypeId) :
    ((roots.filterMap fun (operation, name) => (place name).map fun id => (operation, id)).map (·.1)).Nodup := by
  refine operations.sublist ?_
  induction roots with
  | nil => exact .slnil
  | cons e rest ih =>
      obtain ⟨operation, name⟩ := e
      have others := ih (List.nodup_cons.mp operations).2
      cases found : place name with
      | none => simpa [found] using others.cons operation
      | some id => simpa [found] using others.cons_cons operation

section Load

variable {r : Registry} (sound : r.Sound) {roots : List (Operation × String)} {definitions : List Definition}
  (fields : ∀ d ∈ definitions, (d.body.fields.map (·.1)).Nodup)
include sound

theorem Holds.load {s : Schema} (holds : r.Holds s) : (r.load roots definitions).2.Holds s :=
  holds.add sound.bounded

include fields

theorem Sound.load : (r.load roots definitions).2.Sound :=
  sound.declare (standard_known sound) fun d member => fields d (List.mem_filter.mp member).1

theorem holds_of_load (operations : (roots.map (·.1)).Nodup) {s : Schema}
    (loaded : (r.load roots definitions).1 = .ok s) : (r.load roots definitions).2.Holds s := by
  let free := definitions.filter fun d => Standard.isFree d.name
  let after := (r.declare Standard.types free).2
  let place := fun name => (Standard.types ++ (r.declare Standard.types free).1).lookup name
  let placed := roots.filterMap fun (operation, name) => (place name).map fun id => (operation, id)
  let listed := (definitions.filterMap fun d => place d.name).eraseDups
  have inside : ∀ name id, place name = some id → id < after.size := by
    intro name id found
    have known := place_inside (standard_known sound) found
    show id < (r.add _).size
    rwa [size_add, List.length_map]
  have built : after.build placed listed = .ok s := by
    have whole : after.buildNew r.size placed listed = .ok s := loaded
    rw [buildNew] at whole
    cases checked : (after.visits listed (rootTypes placed)).forM (after.checkVisit r.size) with
    | error fault =>
        rw [checked] at whole
        cases whole
    | ok _ =>
        rw [checked] at whole
        exact whole
  have knownListed : ∀ id ∈ listed, id < after.size := by
    intro id member
    obtain ⟨d, _, found⟩ := List.mem_filterMap.mp (List.mem_eraseDups.mp member)
    exact inside _ id found
  have knownRoots : ∀ id ∈ rootTypes placed, id < after.size := by
    intro id member
    obtain ⟨operation, found⟩ := mem_rootTypes_iff.mp member
    have there := (lookup_eq_some_iff_mem (nodup_placed operations place)).mp found
    obtain ⟨_, _, named⟩ := List.mem_filterMap.mp there
    obtain ⟨_, found, same⟩ := Option.map_eq_some_iff.mp named
    cases same
    exact inside _ id found
  exact holds_of_build (sound.load fields) (nodup_eraseDups _) knownListed knownRoots
    (nodup_placed operations place) built

end Load

/-- Load schemas one after the other, and leave out those that cannot be loaded. -/
def loadAll (r : Registry) : List (List (Operation × String) × List Definition) → List Schema × Registry
  | [] => ([], r)
  | (roots, definitions) :: rest =>
    let loaded := r.load roots definitions
    let others := loaded.2.loadAll rest
    (loaded.1.toOption.toList ++ others.1, others.2)

/-- Schemas that are loaded are all held by the registry, next to those that it held before. -/
theorem loadAll_holds {r : Registry} (sound : r.Sound) {sources : List (List (Operation × String) × List Definition)}
    (operations : ∀ x ∈ sources, (x.1.map (·.1)).Nodup)
    (fields : ∀ x ∈ sources, ∀ d ∈ x.2, (d.body.fields.map (·.1)).Nodup) :
    (r.loadAll sources).2.Sound ∧ (∀ s, r.Holds s → (r.loadAll sources).2.Holds s) ∧
      ∀ s ∈ (r.loadAll sources).1, (r.loadAll sources).2.Holds s := by
  induction sources generalizing r with
  | nil => exact ⟨sound, fun _ holds => holds, nofun⟩
  | cons x rest ih =>
      obtain ⟨roots, definitions⟩ := x
      obtain ⟨own, operations⟩ := List.forall_mem_cons.mp operations
      obtain ⟨mine, fields⟩ := List.forall_mem_cons.mp fields
      obtain ⟨sound', kept, others⟩ := ih (sound.load mine) operations fields
      refine ⟨sound', fun s holds => kept s (holds.load sound), fun s member => ?_⟩
      rcases List.mem_append.mp member with first | later
      · cases loaded : (r.load roots definitions).1 with
        | error fault =>
            rw [loaded] at first
            cases first
        | ok one =>
            rw [loaded] at first
            obtain rfl := List.mem_singleton.mp first
            exact kept _ (holds_of_load sound mine own loaded)
      · exact others s later

end Registry

end GraphGateway.Schema
