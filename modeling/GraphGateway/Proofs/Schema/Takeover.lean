import GraphGateway.Proofs.Schema.Attaching
import GraphGateway.Proofs.Value.Altering

/-!
# What fields take over from a resolver map

A resolver map is attached to the fields of a schema that it names, whatever else it speaks of. Each of them takes over
what its own entry holds, and no other field changes. Once a map is attached, attaching it again changes nothing.
-/

namespace GraphGateway.Schema

/-- What a mapping holds under a key, unless that is null. -/
def given? (entries : List (Value × Value)) (key : String) : Option Value :=
  (Value.lookup key entries).bind Value.given?

/-- Whether the further data of a field are those that it had, with a selection that a resolver requires. -/
def Selects (selection old new : Value) : Prop :=
  ∃ entries, new = .map entries ∧ Value.lookup selectionKey entries = some selection ∧
    ∀ e : Value × Value, e.1 ≠ .text selectionKey → (e ∈ entries ↔ e ∈ old.entries?.getD [])

/-- How a field takes over its entry of a resolver map. A function takes the place of the function that gives its value.
A mapping gives those of its two functions and the required selection that it does not leave out and that are not
null. -/
inductive Field.Takes : Option Value → Field ρ → Field ρ → Prop
  | nothing (x : Field ρ) : Takes none x x
  | function {v : Value} (x : Field ρ) : v.callable = true → Takes (some v) x { x with resolve := v }
  | mapping {v new : Value} {entries : List (Value × Value)} (x : Field ρ) :
      v.callable = false → v.entries? = some entries →
      (∀ selection, given? entries selectionKey = some selection → Selects selection x.extensions new) →
      (given? entries selectionKey = none → new = x.extensions) →
      Takes (some v) x { x with
        resolve := (given? entries "resolve").getD x.resolve
        subscribe := (given? entries "subscribe").getD x.subscribe
        extensions := new }

theorem Field.Takes.of_mapping {v : Value} {entries : List (Value × Value)} {x x' : Field ρ}
    (takes : x.Takes (some v) x') (plain : v.callable = false) (contents : v.entries? = some entries) :
    x'.resolve = (given? entries "resolve").getD x.resolve ∧
      x'.subscribe = (given? entries "subscribe").getD x.subscribe ∧
      ∀ selection, given? entries selectionKey = some selection → Selects selection x.extensions x'.extensions := by
  cases takes with
  | function _ callable =>
      rw [plain] at callable
      cases callable
  | mapping _ _ held selects _ =>
      obtain rfl := Option.some.inj (contents.symm.trans held)
      exact ⟨rfl, rfl, selects⟩

/-- The entry of a field in a resolver map. -/
def entryFor? (resolvers : Value) (type field : String) : Option Value :=
  ((resolvers.entries?.bind (Value.lookup type)).bind Value.entries?).bind (Value.lookup field)

/-- How a type takes over a resolver map: nothing changes but its fields, and of these each by its own entry. -/
structure TypeDef.Takes (resolvers : Value) (t t' : TypeDef ρ) : Prop where
  name : t'.name = t.name
  body : t'.body = t.body.mapFields fun _ => t'.body.fields
  fields : List.Forall₂ (fun x x' => x'.1 = x.1 ∧ x.2.Takes (entryFor? resolvers t.name x.1) x'.2) t.body.fields
    t'.body.fields

/-- Whether a value maps distinct keys. -/
structure IsDict (v : Value) : Prop where
  mapping : v.isMapping = true
  distinct : ((v.entries?.getD []).map (·.1)).Nodup

/-- A mapping of types to mappings of fields to functions or mappings. -/
structure IsResolverMap (resolvers : Value) : Prop where
  types : IsDict resolvers
  fields : ∀ t ∈ resolvers.entries?.getD [], IsDict t.2
  entries : ∀ t ∈ resolvers.entries?.getD [], ∀ e ∈ t.2.entries?.getD [],
    e.2.callable = true ∨ e.2.isMapping = true

/-- Whether further data can be added to: they are a mapping, or there are none. -/
def Extensible (data : Value) : Prop :=
  data.truthy = false ∨ data.isMapping = true

instance (data : Value) : Decidable (Extensible data) :=
  inferInstanceAs (Decidable (_ ∨ _))

namespace Change

theorem ofValue_callable {v : Value} (callable : v.callable = true) : ofValue v = .ok { resolve := some v } :=
  if_pos callable

theorem ofValue_mapping {v : Value} {entries : List (Value × Value)} (plain : v.callable = false)
    (contents : v.entries? = some entries) :
    ofValue v = .ok {
      resolve := given? entries "resolve", subscribe := given? entries "subscribe"
      selectionSet := given? entries selectionKey } := by
  rw [ofValue, plain, contents]
  rfl

theorem data_none {c : Change} (none : c.selectionSet = none) (old : Value) : c.data old = .ok old := by
  rw [data, none]

theorem data_some {c : Change} {selection old : Value} (selects : c.selectionSet = some selection)
    (extensible : Extensible old) :
    c.data old = .ok (.map (Value.insert (old.entries?.getD []) (.text selectionKey) selection)) := by
  rw [data, selects]
  rcases extensible with falsy | mapping
  · rw [falsy, Value.entries_of_falsy falsy]
    rfl
  · obtain ⟨entries, contents⟩ := Option.isSome_iff_exists.mp mapping
    cases truthy : old.truthy with
    | false =>
        rw [Value.entries_of_falsy truthy]
        rfl
    | true =>
        rw [contents]
        rfl

theorem data_ok (c : Change) {old : Value} (extensible : Extensible old) :
    ∃ new, c.data old = .ok new ∧ Extensible new := by
  cases selects : c.selectionSet with
  | none => exact ⟨old, data_none selects old, extensible⟩
  | some selection => exact ⟨_, data_some selects extensible, .inr rfl⟩

theorem data_data (c : Change) {old new : Value} (extensible : Extensible old) (once : c.data old = .ok new) :
    c.data new = .ok new := by
  cases selects : c.selectionSet with
  | none => exact data_none selects new
  | some selection =>
      rw [data_some selects extensible] at once
      obtain rfl := Except.ok.inj once
      rw [data_some selects (.inr rfl), Value.entries?, Option.getD_some, Value.insert_insert]

theorem apply_of_data {c : Change} {x : Field ρ} {new : Value} (once : c.data x.extensions = .ok new) :
    c.apply x = { c.applyFunctions x with extensions := new } := by
  rw [apply, once]
  rfl

/-- To change a field again in the same way changes nothing. -/
theorem apply_apply (c : Change) {x : Field ρ} (extensible : Extensible x.extensions) :
    c.apply (c.apply x) = c.apply x := by
  obtain ⟨new, once, -⟩ := c.data_ok extensible
  have again : c.data (c.apply x).extensions = .ok new := by
    rw [apply_of_data once]
    exact c.data_data extensible once
  rw [apply_of_data again, apply_of_data once]
  obtain ⟨resolve, subscribe, selectionSet⟩ := c
  cases resolve <;> cases subscribe <;> rfl

theorem apply_extensible (c : Change) {x : Field ρ} (extensible : Extensible x.extensions) :
    Extensible (c.apply x).extensions := by
  obtain ⟨new, once, still⟩ := c.data_ok extensible
  rw [apply_of_data once]
  exact still

theorem selects_of_data {c : Change} {selection old new : Value} (selects : c.selectionSet = some selection)
    (extensible : Extensible old) (once : c.data old = .ok new) : Selects selection old new := by
  rw [data_some selects extensible] at once
  refine ⟨_, (Except.ok.inj once).symm, ?_, fun e other => ?_⟩
  · rw [Value.lookup_insert, if_pos rfl]
  · exact Value.mem_insert_of_ne other selection

theorem ofValue_takes {v : Value} (fits : v.callable = true ∨ v.isMapping = true) :
    ∃ c, ofValue v = .ok c ∧ ∀ x : Field ρ, Extensible x.extensions → x.Takes (some v) (c.apply x) := by
  cases callable : v.callable with
  | true => exact ⟨_, ofValue_callable callable, fun x _ => .function x callable⟩
  | false =>
      rw [callable] at fits
      obtain ⟨entries, contents⟩ := Option.isSome_iff_exists.mp (fits.resolve_left Bool.false_ne_true)
      refine ⟨_, ofValue_mapping callable contents, fun x extensible => ?_⟩
      obtain ⟨new, once, -⟩ := data_ok _ extensible
      rw [apply_of_data once]
      refine .mapping x callable contents (fun selection given => selects_of_data given extensible once) fun absent => ?_
      exact Except.ok.inj (once.symm.trans (data_none absent _))

end Change

theorem filterMap_itemUnder {entries : List (Value × Value)} (distinct : (entries.map (·.1)).Nodup) (key : String) :
    entries.filterMap (itemUnder? key) = (Value.lookup key entries).toList := by
  induction entries with
  | nil => rfl
  | cons e rest ih =>
      obtain ⟨absent, later⟩ := List.nodup_cons.mp distinct
      obtain ⟨k, v⟩ := e
      by_cases same : k = .text key
      · subst same
        have none : Value.lookup key rest = none := by
          rw [← Option.not_isSome_iff_eq_none, Value.lookup_isSome_iff]
          exact absent
        rw [List.filterMap_cons, itemUnder?, if_pos rfl, ih later, none, Value.lookup_cons_self]
        rfl
      · have other : itemUnder? key (k, v) = none := by
          cases k with
          | text name => exact if_neg fun same' => same (congrArg _ same')
          | _ => rfl
        rw [List.filterMap_cons, other, ih later, Value.lookup_cons_of_ne same]

theorem IsDict.under_eq {v : Value} (dict : IsDict v) (key : String) :
    under v key = (v.entries?.bind (Value.lookup key)).toList := by
  rw [under, filterMap_itemUnder dict.distinct]
  cases v.entries? <;> rfl

theorem isDict_map {entries : List (Value × Value)} : IsDict (.map entries) ↔ (entries.map (·.1)).Nodup :=
  ⟨fun dict => dict.distinct, fun distinct => ⟨rfl, distinct⟩⟩

theorem IsDict.mem_of_lookup {v item : Value} {key : String}
    (found : v.entries?.bind (Value.lookup key) = some item) : (.text key, item) ∈ v.entries?.getD [] := by
  obtain ⟨entries, contents, found⟩ := Option.bind_eq_some_iff.mp found
  rw [contents]
  exact Value.mem_of_lookup found

section Map

variable {resolvers : Value} (map : IsResolverMap resolvers)
include map

theorem changesOf_eq (type field : String) :
    changesOf resolvers type field =
      ((entryFor? resolvers type field).bind fun v => (Change.ofValue v).toOption).toList := by
  rw [changesOf, map.types.under_eq, entryFor?]
  cases found : resolvers.entries?.bind (Value.lookup type) with
  | none => rfl
  | some fields =>
      have dict : IsDict fields := map.fields _ (IsDict.mem_of_lookup found)
      rw [Option.toList_some, List.flatMap_singleton, dict.under_eq, Option.bind_some]
      cases fields.entries?.bind (Value.lookup field) with
      | none => rfl
      | some v => cases h : (Change.ofValue v).toOption <;> simp [h]

theorem entry_fits {type field : String} {v : Value} (found : entryFor? resolvers type field = some v) :
    v.callable = true ∨ v.isMapping = true := by
  obtain ⟨entries, contents, inside⟩ := Option.bind_eq_some_iff.mp found
  obtain ⟨fields, typed, contents⟩ := Option.bind_eq_some_iff.mp contents
  refine map.entries _ (IsDict.mem_of_lookup typed) (.text field, v) ?_
  rw [contents]
  exact Value.mem_of_lookup inside

/-- The changes that a resolver map asks for lead a field to take over its entry, and do not change it further. -/
theorem changed_takes (type field : String) {x : Field ρ} (extensible : Extensible x.extensions) :
    x.Takes (entryFor? resolvers type field) (x.changed (changesOf resolvers type field)) ∧
      Extensible (x.changed (changesOf resolvers type field)).extensions ∧
      (x.changed (changesOf resolvers type field)).changed (changesOf resolvers type field) =
        x.changed (changesOf resolvers type field) := by
  rw [changesOf_eq map]
  cases found : entryFor? resolvers type field with
  | none => exact ⟨.nothing x, extensible, rfl⟩
  | some v =>
      obtain ⟨c, read, takes⟩ := Change.ofValue_takes (entry_fits map found)
      rw [Option.bind_some, read]
      exact ⟨takes x extensible, c.apply_extensible extensible, c.apply_apply extensible⟩

end Map

theorem Body.fields_mapFields (b : Body ρ) {f : List (String × Field ρ) → List (String × Field ρ)} (none : f [] = []) :
    (b.mapFields f).fields = f b.fields := by
  cases b with
  | object interfaces fields | interface interfaces fields => rfl
  | input fields => rfl
  | scalar | union members | enum values => exact none.symm

@[simp] theorem TypeDef.name_changed (t : TypeDef ρ) (changes : String → List Change) :
    (t.changed changes).name = t.name :=
  rfl

theorem TypeDef.fields_changed (t : TypeDef ρ) (changes : String → List Change) :
    (t.changed changes).body.fields = t.body.fields.map fun x => (x.1, x.2.changed (changes x.1)) :=
  t.body.fields_mapFields rfl

section Types

variable {resolvers : Value} (map : IsResolverMap resolvers) {t : TypeDef ρ}
  (extensible : ∀ x ∈ t.body.fields, Extensible x.2.extensions)
include map extensible

theorem TypeDef.changed_takes : t.Takes resolvers (t.changed (changesOf resolvers t.name)) where
  name := rfl
  body := by
    rw [TypeDef.fields_changed]
    exact Body.mapFields_congr rfl
  fields := by
    rw [TypeDef.fields_changed, List.forall₂_map_right_iff, List.forall₂_same]
    exact fun x member => ⟨rfl, (Schema.changed_takes map t.name x.1 (extensible x member)).1⟩

theorem TypeDef.changed_extensible :
    ∀ x ∈ (t.changed (changesOf resolvers t.name)).body.fields, Extensible x.2.extensions := by
  rw [TypeDef.fields_changed]
  intro x member
  obtain ⟨y, inside, rfl⟩ := List.mem_map.mp member
  exact (Schema.changed_takes map t.name y.1 (extensible y inside)).2.1

theorem TypeDef.changed_changed :
    (t.changed (changesOf resolvers t.name)).changed (changesOf resolvers t.name) =
      t.changed (changesOf resolvers t.name) := by
  rw [TypeDef.changed_eq_self_iff, TypeDef.fields_changed]
  intro x member
  obtain ⟨y, inside, rfl⟩ := List.mem_map.mp member
  exact (Schema.changed_takes map t.name y.1 (extensible y inside)).2.2

end Types

/-- Whether a step is a warning, or a change of a type of a schema. -/
def Step.Within (s : Schema) : Step → Prop
  | .change id _ _ => ∃ name, (name, id) ∈ s.types
  | .warn _ => True
  | .fail _ => False

namespace Registry

/-- Whether the further data of the fields of a schema can be added to. -/
def ExtensibleIn (r : Registry) (s : Schema) : Prop :=
  ∀ t ∈ s.types, ∀ x ∈ r.fieldsOf t.2, Extensible x.2.extensions

instance (r : Registry) (s : Schema) : Decidable (r.ExtensibleIn s) :=
  inferInstanceAs (Decidable (∀ t ∈ s.types, _))

variable {r : Registry} {s : Schema} {resolvers : Value}

theorem fieldsOf_of_type {id : TypeId} {t : Registered} (there : r.type? id = some t) :
    r.fieldsOf id = t.body.fields := by
  rw [fieldsOf, there]
  rfl

theorem refusal?_none {id : TypeId} (extensible : ∀ x ∈ r.fieldsOf id, Extensible x.2.extensions) (field : String)
    (c : Change) : r.refusal? id field c = none := by
  rw [refusal?]
  cases found : (r.fieldsOf id).lookup field with
  | none => rfl
  | some x =>
      obtain ⟨before, after, whole, -⟩ := List.lookup_eq_some_iff.mp found
      have inside : (field, x) ∈ r.fieldsOf id := by simp [whole]
      obtain ⟨new, once, -⟩ := c.data_ok (extensible _ inside)
      rw [Option.bind_some, once]

theorem ExtensibleIn.modifyField (extensible : r.ExtensibleIn s) (other : TypeId) (field : String) (c : Change) :
    (r.modifyField other field c.apply).ExtensibleIn s := by
  rintro ⟨name, id⟩ typed x member
  cases there : r.type? id with
  | none =>
      rw [fieldsOf, type?_modifyField, there] at member
      cases member
  | some t =>
      have old := extensible (name, id) typed
      rw [fieldsOf_of_type there] at old
      rw [fieldsOf, type?_modifyField, there, Option.map_some, Option.map_some, Option.getD_some] at member
      split at member
      · rw [Body.fields_mapFields _ rfl] at member
        obtain ⟨y, inside, rfl⟩ := List.mem_map.mp member
        split
        · exact c.apply_extensible (old y inside)
        · exact old y inside
      · exact old x member

theorem take_passes {steps : List Step} (within : ∀ step ∈ steps, step.Within s) (extensible : r.ExtensibleIn s) :
    (r.take steps).fault = none := by
  induction steps generalizing r with
  | nil => rfl
  | cons step rest ih =>
      obtain ⟨first, later⟩ := List.forall_mem_cons.mp within
      cases step with
      | warn message => exact ih later extensible
      | fail fault => exact first.elim
      | change id field c =>
          obtain ⟨name, typed⟩ := first
          rw [take, refusal?_none (extensible (name, id) typed)]
          exact ih later (extensible.modifyField id field c)

theorem ofField_within {name : String} {id : TypeId} (typed : (name, id) ∈ s.types) {entry : Value}
    (fits : entry.callable = true ∨ entry.isMapping = true) (type : Value) (names : List String) (key : Value) :
    (Step.ofField id type names key entry).Within s := by
  obtain ⟨c, read, -⟩ := Change.ofValue_takes (ρ := Unit) fits
  cases key with
  | text field =>
      rw [Step.ofField, read]
      split
      · exact ⟨name, typed⟩
      · trivial
  | _ => trivial

theorem ofMap_within (map : IsResolverMap resolvers) (distinct : (s.types.map (·.1)).Nodup) :
    ∀ step ∈ Step.ofMap r s resolvers, step.Within s := by
  obtain ⟨types, contents⟩ := Option.isSome_iff_exists.mp map.types.mapping
  have inner := map.fields
  have entries := map.entries
  rw [contents] at inner entries
  rw [Step.ofMap, contents]
  intro step member
  obtain ⟨t, among, inside⟩ := List.mem_flatMap.mp member
  obtain ⟨fields, held⟩ := Option.isSome_iff_exists.mp (inner t among).mapping
  have fits := entries t among
  rw [held] at fits
  rw [Step.ofType] at inside
  cases found : Step.target? r s t.1 with
  | none =>
      rw [found] at inside
      rw [List.mem_singleton.mp inside]
      trivial
  | some target =>
      obtain ⟨id, names⟩ := target
      rw [found, held] at inside
      obtain ⟨e, own, rfl⟩ := List.mem_map.mp inside
      obtain ⟨name, -, typed⟩ := target?_eq_some found
      exact ofField_within ((lookup_eq_some_iff_mem distinct).mp typed) (fits e own) t.1 names e.1

theorem Holds.nameOf_of_lookup (held : r.Holds s) {name : String} {id : TypeId} (found : s.types.lookup name = some id) :
    r.nameOf id = name :=
  (held.named name id ((lookup_eq_some_iff_mem held.distinct).mp found)).2

section Attach

variable (held : r.Holds s) (extensible : r.ExtensibleIn s) (map : IsResolverMap resolvers)
include held extensible map

theorem attach_passes : (r.attach s resolvers).fault = none :=
  take_passes (ofMap_within map held.distinct) extensible

theorem type?_attached (id : TypeId) :
    (r.attach s resolvers).registry.type? id = (r.type? id).map fun t =>
      if s.types.lookup t.name = some id then t.changed (changesOf resolvers t.name) else t :=
  type?_attach (attach_passes held extensible map) (fun _ _ => held.nameOf_of_lookup) id

theorem type?_attached_of_mem {name : String} {id : TypeId} (typed : (name, id) ∈ s.types) :
    ∃ t, r.type? id = some t ∧ t.name = name ∧
      (r.attach s resolvers).registry.type? id = some (t.changed (changesOf resolvers t.name)) := by
  obtain ⟨below, named⟩ := held.named name id typed
  cases there : r.type? id with
  | none => exact absurd below (Nat.not_lt_of_le (List.getElem?_eq_none_iff.mp there))
  | some t =>
      have own : t.name = name := by
        rw [← named, nameOf, there]
        rfl
      refine ⟨t, rfl, own, ?_⟩
      rw [type?_attached held extensible map, there, Option.map_some, own,
        if_pos ((lookup_eq_some_iff_mem held.distinct).mpr typed)]

theorem attached_extensible : (r.attach s resolvers).registry.ExtensibleIn s := by
  rintro ⟨name, id⟩ typed
  obtain ⟨t, there, -, after⟩ := type?_attached_of_mem held extensible map typed
  have old := extensible (name, id) typed
  rw [fieldsOf_of_type there] at old
  rw [fieldsOf_of_type after]
  exact TypeDef.changed_extensible map old

/-- Attaching again passes, and changes nothing. -/
theorem attach_attached :
    ((r.attach s resolvers).registry.attach s resolvers).fault = none ∧
      ((r.attach s resolvers).registry.attach s resolvers).registry = (r.attach s resolvers).registry := by
  -- The types have kept their names, and their data can still be added to.
  have passed : ((r.attach s resolvers).registry.attach s resolvers).fault = none :=
    take_passes (ofMap_within map held.distinct) (attached_extensible held extensible map)
  have names : ∀ name id, s.types.lookup name = some id → (r.attach s resolvers).registry.nameOf id = name := by
    intro name id found
    obtain ⟨t, -, named, after⟩ :=
      type?_attached_of_mem held extensible map ((lookup_eq_some_iff_mem held.distinct).mp found)
    rw [nameOf, after]
    exact named
  refine ⟨passed, congrArg Registry.mk (List.ext_getElem? fun id => ?_)⟩
  have again := type?_attach passed names id
  have once := type?_attached held extensible map id
  refine (again.trans ?_ : _ = (r.attach s resolvers).registry.type? id)
  rw [once]
  cases there : r.type? id with
  | none => rfl
  | some t =>
      refine congrArg some ?_
      dsimp only
      by_cases found : s.types.lookup t.name = some id
      · have old := extensible (t.name, id) ((lookup_eq_some_iff_mem held.distinct).mp found)
        rw [fieldsOf_of_type there] at old
        simp only [found, if_true, TypeDef.name_changed]
        exact TypeDef.changed_changed map old
      · simp only [found, if_false]

/-- Attaching a resolver map passes, whatever the map speaks of besides. The fields of the schema take over their own
entries, nothing else changes, and attaching the map again changes nothing further. -/
theorem attach_takes :
    (r.attach s resolvers).fault = none ∧
    (∀ name id, (name, id) ∈ s.types → ∃ t t', r.type? id = some t ∧ t.name = name ∧
      (r.attach s resolvers).registry.type? id = some t' ∧ t.Takes resolvers t') ∧
    (∀ id, (∀ name, (name, id) ∉ s.types) → (r.attach s resolvers).registry.type? id = r.type? id) ∧
    ((r.attach s resolvers).registry.attach s resolvers).fault = none ∧
    ((r.attach s resolvers).registry.attach s resolvers).registry = (r.attach s resolvers).registry := by
  refine ⟨attach_passes held extensible map, fun name id typed => ?_, fun id apart => ?_,
    attach_attached held extensible map⟩
  · obtain ⟨t, there, named, after⟩ := type?_attached_of_mem held extensible map typed
    have old := extensible (name, id) typed
    rw [fieldsOf_of_type there] at old
    exact ⟨t, _, there, named, after, TypeDef.changed_takes map old⟩
  · have other : ∀ t : Registered, s.types.lookup t.name ≠ some id := fun t found =>
      apart t.name ((lookup_eq_some_iff_mem held.distinct).mp found)
    rw [type?_attached held extensible map]
    simp [other]

end Attach

/-- A source of users, whose identity has a function and further data. -/
def costly : List Schema × Registry :=
  Standard.registry.loadAll [([(.query, "Query")],
    [⟨"User", .object [] [("id", {
        type := ⟨.named "ID", "ID"⟩, resolve := .function 0 "identify"
        extensions := .map [(.text "cost", .int 2)] })]⟩,
      ⟨"Query", .object [] [("me", { type := ⟨.named "User", "User"⟩ })]⟩])]

/-- Resolvers for the identity and for what is not there, among it a type without fields. -/
def watchIdentity : Value :=
  .map [(.text "Order", .map [(.text "id", .function 1 "order")]),
    (.text "ID", .map [(.text "id", .function 1 "order")]),
    (.text "User", .map [(.text "name", .function 1 "order"),
      (.text "id", .map [(.text "resolve", .null), (.text "subscribe", .function 2 "watch"),
        (.text selectionKey, .text "\x7b id \x7d")])])]

/-- The identity keeps its function and its cost, and what is not there stops nothing. -/
theorem costly_watched : ∃ s x, s ∈ costly.1 ∧ costly.2.Holds s ∧ costly.2.ExtensibleIn s ∧
    IsResolverMap watchIdentity ∧ (costly.2.attach s watchIdentity).fault = none ∧
    (costly.2.attach s watchIdentity).registry.fieldsOf 13 = [("id", x)] ∧
    x.resolve = .function 0 "identify" ∧ x.subscribe = .function 2 "watch" ∧
    Selects (.text "\x7b id \x7d") (.map [(.text "cost", .int 2)]) x.extensions := by
  have held : costly.2.Sound ∧ _ ∧ ∀ s ∈ costly.1, costly.2.Holds s :=
    loadAll_holds sound_standard (by decide) (by decide)
  have source : ∃ s ∈ costly.1, ("User", 13) ∈ s.types ∧ costly.2.ExtensibleIn s := by decide +kernel
  obtain ⟨s, member, typed, extensible⟩ := source
  have map : IsResolverMap watchIdentity := by
    refine ⟨⟨rfl, ?_⟩, ?_, ?_⟩
    · simp [watchIdentity, Value.entries?]
    · simp [watchIdentity, Value.entries?, isDict_map]
    · simp only [watchIdentity, Value.entries?, Option.getD_some, List.forall_mem_cons, List.not_mem_nil]
      simp [Value.callable, Value.isMapping, Value.entries?]
  obtain ⟨passed, takes, -⟩ := attach_takes (held.2.2 s member) extensible map
  obtain ⟨t, t', there, named, after, taken⟩ := takes "User" 13 typed
  obtain ⟨type, old⟩ : ∃ type, t.body.fields = [("id", {
      type := type, resolve := .function 0 "identify", extensions := .map [(.text "cost", .int 2)] })] := by
    rw [← Option.some.inj there]
    exact ⟨_, rfl⟩
  have fields := taken.fields
  rw [old, named, ← fieldsOf_of_type after] at fields
  generalize whole : (costly.2.attach s watchIdentity).registry.fieldsOf 13 = news at fields
  obtain _ | @⟨_, new, _, _, ⟨key, own⟩, _ | _⟩ := fields
  obtain ⟨name, x⟩ := new
  obtain rfl : name = "id" := key
  have entry : entryFor? watchIdentity "User" "id" = some (.map [(.text "resolve", .null),
      (.text "subscribe", .function 2 "watch"), (.text selectionKey, .text "\x7b id \x7d")]) := rfl
  rw [entry] at own
  obtain ⟨resolve, subscribe, selects⟩ := own.of_mapping rfl rfl
  exact ⟨s, x, member, held.2.2 s member, extensible, map, passed, whole, resolve, subscribe, selects _ rfl⟩

end Registry

end GraphGateway.Schema
