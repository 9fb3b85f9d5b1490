import GraphGateway.Proofs.Schema.Building
import GraphGateway.Schema.Stitch

/-!
# Whose fields and types are taken

Of several sources, the last one that has a field of an operation gives it, and the first one that has a named type
gives that. These are what putting all fields and all types together, one after the other, comes to.
-/

namespace GraphGateway.Schema

theorem lookup_map (f : β → γ) (entries : List (String × β)) (name : String) :
    (entries.map fun x => (x.1, f x.2)).lookup name = (entries.lookup name).map f := by
  induction entries with
  | nil => rfl
  | cons e rest ih =>
      rw [List.map_cons, List.lookup_cons, List.lookup_cons, ih]
      cases name == e.1 <;> rfl

theorem lookup_single (x : String × β) (name : String) :
    [x].lookup name = if name = x.1 then some x.2 else none := by
  rw [List.lookup_cons]
  by_cases same : name = x.1
  · simp [same]
  · simp [beq_eq_false_iff_ne.mpr same, same]

theorem lookup_reverse {entries : List (String × β)} (distinct : (entries.map (·.1)).Nodup) (name : String) :
    entries.reverse.lookup name = entries.lookup name := by
  have reversed : (entries.reverse.map (·.1)).Nodup :=
    (List.reverse_perm entries |>.map (·.1)).nodup_iff.mpr distinct
  ext value
  rw [lookup_eq_some_iff_mem reversed, lookup_eq_some_iff_mem distinct, List.mem_reverse]

section Fields

variable (fields : List (String × Field ρ)) (x : String × Field ρ)

private theorem lookup_replaced (name : String) :
    (fields.map fun y => if y.1 = x.1 then x else y).lookup name =
      (fields.lookup name).map fun old => if name = x.1 then x.2 else old := by
  induction fields with
  | nil => rfl
  | cons y rest ih =>
      rw [List.map_cons, List.lookup_cons, List.lookup_cons, ih]
      by_cases same : y.1 = x.1
      · simp only [same, if_true]
        by_cases here : name = x.1
        · simp [here]
        · simp [beq_eq_false_iff_ne.mpr here]
      · simp only [same, if_false]
        by_cases here : name = y.1
        · simp [here, same]
        · simp [beq_eq_false_iff_ne.mpr here]

theorem lookup_putField (name : String) :
    (putField fields x).lookup name = if name = x.1 then some x.2 else fields.lookup name := by
  rw [putField]
  split
  · rename_i there
    rw [lookup_replaced]
    by_cases same : name = x.1
    · have found : (fields.lookup name).isSome = true := by
        obtain ⟨y, member, named⟩ := List.any_eq_true.mp there
        exact lookup_isSome_iff_mem.mpr (List.mem_map.mpr ⟨y, member, (of_decide_eq_true named).trans same.symm⟩)
      obtain ⟨old, found⟩ := Option.isSome_iff_exists.mp found
      rw [found, Option.map_some, if_pos same, if_pos same]
    · simp [same]
  · rename_i absent
    rw [List.lookup_append, lookup_single]
    by_cases same : name = x.1
    · have none : fields.lookup name = none := by
        refine List.lookup_eq_none_iff.mpr fun y member => ?_
        refine bne_iff_ne.mpr fun named => absent (List.any_eq_true.mpr ⟨y, member, ?_⟩)
        exact decide_eq_true (named.symm.trans same)
      rw [none, if_pos same, Option.none_or]
    · rw [if_neg same, if_neg same, Option.or_none]

theorem keys_putField : (putField fields x).map (·.1) =
    if x.1 ∈ fields.map (·.1) then fields.map (·.1) else fields.map (·.1) ++ [x.1] := by
  have there : (fields.any (·.1 = x.1)) = decide (x.1 ∈ fields.map (·.1)) := by
    rw [Bool.eq_iff_iff]
    simp
  have kept : (fields.map fun y => if y.1 = x.1 then x else y).map (·.1) = fields.map (·.1) := by
    rw [List.map_map]
    refine List.map_congr_left fun y _ => ?_
    by_cases same : y.1 = x.1 <;> simp [same]
  rw [putField, there]
  by_cases member : x.1 ∈ fields.map (·.1) <;> simp [member, kept]

end Fields

theorem lookup_putFields (fields added : List (String × Field ρ)) (name : String) :
    (added.foldl putField fields).lookup name = (added.reverse.lookup name).or (fields.lookup name) := by
  induction added generalizing fields with
  | nil => rfl
  | cons x rest ih =>
      rw [List.foldl_cons, ih, lookup_putField, List.reverse_cons, List.lookup_append, lookup_single, Option.or_assoc]
      split <;> rfl

theorem nodup_putFields {fields : List (String × Field ρ)} (distinct : (fields.map (·.1)).Nodup)
    (added : List (String × Field ρ)) : ((added.foldl putField fields).map (·.1)).Nodup := by
  induction added generalizing fields with
  | nil => exact distinct
  | cons x rest ih =>
      have step : ((putField fields x).map (·.1)).Nodup := by
        rw [keys_putField]
        split
        · exact distinct
        · rename_i absent
          exact nodup_snoc distinct absent
      exact ih step

private def keepFirst (types : List (String × TypeId)) (t : String × TypeId) : List (String × TypeId) :=
  if (types.lookup t.1).isSome then types else types ++ [t]

private theorem lookup_keepFirst (types added : List (String × TypeId)) (name : String) :
    (added.foldl keepFirst types).lookup name = (types.lookup name).or (added.lookup name) := by
  induction added generalizing types with
  | nil => simp
  | cons t rest ih =>
      have step : (keepFirst types t).lookup name = (types.lookup name).or ([t].lookup name) := by
        rw [keepFirst]
        split
        · rename_i there
          rw [lookup_single]
          by_cases same : name = t.1
          · obtain ⟨id, found⟩ := Option.isSome_iff_exists.mp (same ▸ there)
            rw [found, Option.some_or]
          · rw [if_neg same, Option.or_none]
        · rw [List.lookup_append]
      rw [List.foldl_cons, ih, step, Option.or_assoc, ← List.lookup_append, List.singleton_append]

private theorem nodup_keepFirst {types : List (String × TypeId)} (distinct : (types.map (·.1)).Nodup)
    (added : List (String × TypeId)) : ((added.foldl keepFirst types).map (·.1)).Nodup := by
  induction added generalizing types with
  | nil => exact distinct
  | cons t rest ih =>
      have step : ((keepFirst types t).map (·.1)).Nodup := by
        rw [keepFirst]
        split
        · exact distinct
        · rename_i absent
          rw [lookup_isSome_iff_mem] at absent
          rw [List.map_append]
          exact nodup_snoc distinct absent
      exact ih step

namespace Registry

def rootFields (r : Registry) (s : Schema) (operation : Operation) : List (String × Field (Option TypeId)) :=
  ((s.root? operation).map r.fieldsOf).getD []

def lastField (r : Registry) (sources : List Schema) (operation : Operation) (name : String) :
    Option (Field (Option TypeId)) :=
  sources.reverse.findSome? fun s => (r.rootFields s operation).lookup name

def firstNamed (sources : List Schema) (name : String) : Option TypeId :=
  sources.findSome? fun s => (namedTypes s).lookup name

theorem Sound.rootFields {r : Registry} (sound : r.Sound) (s : Schema) (operation : Operation) :
    ((r.rootFields s operation).map (·.1)).Nodup := by
  rw [Registry.rootFields]
  cases s.root? operation with
  | none => exact .nil
  | some id => exact sound.fields id

theorem lookup_operationFields {r : Registry} (sound : r.Sound) (sources : List Schema) (operation : Operation)
    (name : String) :
    (r.operationFields sources operation).lookup name = (r.lastField sources operation name).map Field.copied := by
  have last : (sources.flatMap fun s => r.rootFields s operation).reverse.lookup name =
      r.lastField sources operation name := by
    rw [lastField]
    induction sources with
    | nil => rfl
    | cons s rest ih =>
        rw [List.flatMap_cons, List.reverse_append, List.lookup_append, ih, List.reverse_cons,
          List.findSome?_append, lookup_reverse (sound.rootFields s operation)]
        simp
  rw [operationFields, lookup_putFields, ← List.map_reverse, lookup_map, List.lookup_nil, Option.or_none, ← last]
  rfl

theorem nodup_operationFields (r : Registry) (sources : List Schema) (operation : Operation) :
    ((r.operationFields sources operation).map (·.1)).Nodup :=
  have none : (([] : List (String × Field (Option TypeId))).map (·.1)).Nodup := .nil
  nodup_putFields none _

/-- An operation has a field exactly if a source has one for it of its name. -/
theorem mem_operationFields_iff {r : Registry} (sound : r.Sound) {sources : List Schema} {operation : Operation}
    {name : String} :
    name ∈ (r.operationFields sources operation).map (·.1) ↔
      ∃ s ∈ sources, name ∈ (r.rootFields s operation).map (·.1) := by
  rw [← lookup_isSome_iff_mem, lookup_operationFields sound, Option.isSome_map, lastField, List.findSome?_isSome_iff]
  simp only [List.mem_reverse, lookup_isSome_iff_mem]

theorem lookup_firstTypes (sources : List Schema) (name : String) :
    (firstTypes sources).lookup name = firstNamed sources name := by
  have folded : firstTypes sources = (sources.flatMap namedTypes).foldl keepFirst [] := rfl
  rw [folded, lookup_keepFirst, List.lookup_nil, Option.none_or, firstNamed]
  induction sources with
  | nil => rfl
  | cons s rest ih =>
      rw [List.flatMap_cons, List.lookup_append, ih rfl, List.findSome?_cons]
      cases (namedTypes s).lookup name <;> rfl

theorem nodup_firstTypes (sources : List Schema) : ((firstTypes sources).map (·.1)).Nodup :=
  have none : (([] : List (String × TypeId)).map (·.1)).Nodup := .nil
  nodup_keepFirst none _

theorem firstNamed_eq_some {sources : List Schema} {name : String} {id : TypeId}
    (found : firstNamed sources name = some id) : ∃ s ∈ sources, (name, id) ∈ namedTypes s := by
  obtain ⟨s, member, there⟩ := List.exists_of_findSome?_eq_some found
  obtain ⟨before, after, split, _⟩ := List.lookup_eq_some_iff.mp there
  exact ⟨s, member, by rw [split]; simp⟩

theorem mem_namedTypes_iff {s : Schema} {name : String} {id : TypeId} :
    (name, id) ∈ namedTypes s ↔ (name, id) ∈ s.types ∧ isReserved name = false ∧ id ∉ s.roots.map (·.2) := by
  simp [namedTypes, List.mem_filter, List.contains_eq_mem]

end Registry

end GraphGateway.Schema
