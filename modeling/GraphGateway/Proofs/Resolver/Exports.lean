import GraphGateway.Proofs.Resolver.Overrides

/-!
# What resolver files contribute

A module may hold its resolver map in three places, of which the first one counts that holds something: below its
default export, in the default export itself, or beside it. A file contributes the map of the first such place, except
that a default export which is no map and has none below it hides the map beside it.
-/

namespace GraphGateway.Resolver

inductive Place where
  | belowDefault
  | default
  | beside
  deriving Repr, DecidableEq

def Place.order : List Place := [.belowDefault, .default, .beside]

/-- What a module holds in a place. Null stands for nothing. -/
def Place.held (m : Module) : Place → Value
  | .belowDefault => Store.empty.read (m.get "default").toValue ["resolvers"]
  | .default => if (m.get "default").toValue.isMapping then (m.get "default").toValue else .null
  | .beside => (m.get "resolvers").toValue

/-- What a module holds in the first place that holds something. -/
def firstUsable? (m : Module) : Option Value :=
  Place.order.findSome? fun place => (place.held m).given?

/-- Whether the default export of a module is something, but no map, and has no resolvers. -/
structure Hides (m : Module) : Prop where
  something : (m.get "default").toValue ≠ .null
  unmapped : (m.get "default").toValue.isMapping = false
  bare : Place.belowDefault.held m = .null

section Exported

variable {m : Module}

theorem firstUsable?_eq : firstUsable? m = ((Place.belowDefault.held m).given?.or
    (Place.default.held m).given?).or (Place.beside.held m).given? := by
  simp only [firstUsable?, Place.order, List.findSome?_cons, List.findSome?_nil]
  cases (Place.belowDefault.held m).given? with
  | some map => rfl
  | none => cases (Place.default.held m).given? <;> cases (Place.beside.held m).given? <;> rfl

theorem exported_of_absent (absent : (m.get "default").toValue = .null) : exported m = Place.beside.held m := by
  rw [exported, absent]
  rfl

theorem exported_of_bare (something : (m.get "default").toValue ≠ .null) (bare : Place.belowDefault.held m = .null) :
    exported m = Place.default.held m := by
  rw [Place.held] at bare
  rw [exported, Place.held]
  split
  · exact absurd (by assumption) something
  · rw [bare]

theorem exported_of_below (something : Place.belowDefault.held m ≠ .null) :
    exported m = Place.belowDefault.held m := by
  rw [exported, Place.held]
  split
  · rename_i absent
    rw [Place.held, absent] at something
    exact absurd (Store.read_null ..) something
  · split
    · exact absurd (by assumption) something
    · rfl

theorem exported_of_hides (hides : Hides m) : exported m = .null := by
  rw [exported_of_bare hides.something hides.bare, Place.held, hides.unmapped]
  rfl

theorem exported_of_not_hides (unhidden : ¬ Hides m) : (exported m).given? = firstUsable? m := by
  rw [firstUsable?_eq]
  by_cases absent : (m.get "default").toValue = .null
  · rw [exported_of_absent absent, Place.held, Place.held, absent, Store.read_null]
    rfl
  · by_cases bare : Place.belowDefault.held m = .null
    · have mapped : (m.get "default").toValue.isMapping = true :=
        Bool.not_eq_false _ ▸ fun unmapped => unhidden ⟨absent, unmapped, bare⟩
      rw [exported_of_bare absent bare, bare, Place.held, if_pos mapped, Value.given?_of_ne_null absent]
      rfl
    · rw [exported_of_below bare, Value.given?_of_ne_null bare]
      rfl

theorem firstUsable?_of_hides (hides : Hides m) : firstUsable? m = (Place.beside.held m).given? := by
  rw [firstUsable?_eq, hides.bare, Place.held, hides.unmapped]
  rfl

theorem loaded_map (path : String) (m : Module) : (loaded path m).map = (exported m).given?.getD (.map []) := by
  rw [loaded]
  cases exported m <;> rfl

end Exported

section File

variable {μ : Type} {importer : Importer μ} {memory : μ} {directory : String} {st : Store}

/-- A file contributes the map of the first place in which its module holds something, and the empty map if there is
none, unless its default export hides what is beside it: then it contributes the empty map in any case. So it
contributes something else than the documented map exactly if there is a map with entries that is hidden. -/
theorem file_contributes_iff {before : List Described} {d : Described} {path : String} {m : Module}
    (parse : d.parse st = .ok (.file path))
    (imports : (importer (fileIdentifier directory path) (compileEach importer memory directory st before).memory).1 =
      .ok m)
    (after : List Described) :
    let usable := (firstUsable? m).getD (.map [])
    ∃ map, (compileEach importer memory directory st (before ++ d :: after)).outcomes[before.length]? =
        some (.ok (.file map)) ∧
      (¬ Hides m → map = usable) ∧ (Hides m → map = .map []) ∧
      (map ≠ usable ↔ Hides m ∧ (Place.beside.held m).given?.getD (.map []) ≠ .map []) := by
  intro usable
  have placed := outcomes_getElem? importer directory st memory before d after
  rw [outcome_file importer directory st parse, imports] at placed
  have unhidden : ¬ Hides m → (loaded path m).map = usable := fun unhidden => by
    rw [loaded_map, exported_of_not_hides unhidden]
  have hidden : Hides m → (loaded path m).map = .map [] := fun hides => by
    rw [loaded_map, exported_of_hides hides]
    rfl
  refine ⟨_, placed, unhidden, hidden, fun other => ?_, fun ⟨hides, beside⟩ same => ?_⟩
  · have hides : Hides m := Classical.byContradiction fun shown => other (unhidden shown)
    refine ⟨hides, fun empty => other ?_⟩
    rw [hidden hides, ← empty, ← firstUsable?_of_hides hides]
  · rw [hidden hides] at same
    rw [← firstUsable?_of_hides hides] at beside
    exact beside same.symm

end File

/-- A plugin that exports its name by default, and its resolvers beside that. -/
def namedPlugin : Module where
  name := "plugin"
  exports := [("default", .value (.text "plugin")),
    ("resolvers", .value (.map [(.text "Query", .map [(.text "version", .text "1.0")])]))]

/-- The resolvers of the plugin are not contributed. -/
theorem namedPlugin_hidden :
    let importer : Importer Unit := fun _ m => (.ok namedPlugin, m)
    let written : Described := .written (.text "plugin.py")
    written.parse .empty = .ok (.file "plugin.py") ∧ (importer (fileIdentifier "/" "plugin.py") ()).1 = .ok namedPlugin ∧
      ∃ map, (compileEach importer () "/" .empty [written]).outcomes = [.ok (.file map)] ∧
        map ≠ (firstUsable? namedPlugin).getD (.map []) := by
  intro importer written
  have hides : Hides namedPlugin := ⟨nofun, rfl, rfl⟩
  obtain ⟨map, placed, _, hidden, differs⟩ :=
    @file_contributes_iff Unit importer () "/" .empty [] written "plugin.py" namedPlugin rfl rfl []
  refine ⟨rfl, rfl, map, ?_, differs.mpr ⟨hides, nofun⟩⟩
  rw [hidden hides]
  rfl

end GraphGateway.Resolver
