import GraphGateway.Proofs.Schema.Stitching
import GraphGateway.Proofs.Value.Entries

/-!
# What attaching resolvers changes

Resolvers are attached to the fields of a schema in place. A stitched schema holds named types of its sources as they
are, so that resolvers for such a type change it in the source as well. The types of its operations are new.
-/

namespace GraphGateway.Schema

def Field.changed (changes : List Change) (x : Field ρ) : Field ρ :=
  changes.foldl (fun x c => c.apply x) x

def TypeDef.changed (changes : String → List Change) (t : TypeDef ρ) : TypeDef ρ :=
  { t with body := t.body.mapFields fun fields => fields.map fun x => (x.1, x.2.changed (changes x.1)) }

theorem Body.mapFields_mapFields (b : Body ρ) (f g : List (String × Field ρ) → List (String × Field ρ)) :
    (b.mapFields f).mapFields g = b.mapFields (g ∘ f) := by
  cases b <;> rfl

theorem Body.mapFields_congr {b : Body ρ} {f g : List (String × Field ρ) → List (String × Field ρ)}
    (same : f b.fields = g b.fields) : b.mapFields f = b.mapFields g := by
  cases b with
  | object interfaces fields | interface interfaces fields => exact congrArg _ same
  | input fields => exact congrArg _ same
  | scalar | union members | enum values => rfl

theorem Body.mapFields_eq_self_iff {b : Body ρ} {f : List (String × Field ρ) → List (String × Field ρ)}
    (none : f [] = []) : b.mapFields f = b ↔ f b.fields = b.fields := by
  cases b with
  | object interfaces fields | interface interfaces fields | input fields => simp [mapFields, Body.fields, fields?]
  | scalar | union members | enum values => simp [mapFields, Body.fields, fields?, none]

theorem TypeDef.changed_congr {t : TypeDef ρ} {changes others : String → List Change}
    (same : ∀ x ∈ t.body.fields, changes x.1 = others x.1) : t.changed changes = t.changed others := by
  have body : t.body.mapFields (fun fields => fields.map fun x => (x.1, x.2.changed (changes x.1))) =
      t.body.mapFields fun fields => fields.map fun x => (x.1, x.2.changed (others x.1)) :=
    Body.mapFields_congr (List.map_congr_left fun x member => by rw [same x member])
  rw [changed, changed, body]

theorem TypeDef.changed_eq_self_iff {t : TypeDef ρ} {changes : String → List Change} :
    t.changed changes = t ↔ ∀ x ∈ t.body.fields, x.2.changed (changes x.1) = x.2 := by
  obtain ⟨name, body⟩ := t
  rw [changed, TypeDef.mk.injEq, and_iff_right rfl, Body.mapFields_eq_self_iff rfl]
  constructor
  · intro same x member
    have each := List.map_inj_left.mp (same.trans (List.map_id _).symm) x member
    exact congrArg Prod.snd each
  · intro same
    exact (List.map_congr_left fun x member => by rw [same x member]; rfl).trans (List.map_id _)

/-- The change of a field that a step makes. -/
def Step.change? (id : TypeId) (field : String) : Step → Option Change
  | .change other name c => if other = id ∧ name = field then some c else none
  | .warn _ | .fail _ => none

def itemUnder? (key : String) : Value × Value → Option Value
  | (.text name, item) => if name = key then some item else none
  | _ => none

def under (v : Value) (key : String) : List Value :=
  (v.entries?.getD []).filterMap (itemUnder? key)

/-- The changes of a field of a type that a resolver map asks for. -/
def changesOf (resolvers : Value) (type field : String) : List Change :=
  (under resolvers type).flatMap fun entries =>
    (under entries field).filterMap fun v => (Change.ofValue v).toOption

namespace Registry

theorem type?_modifyField {r : Registry} {id other : TypeId} {name : String}
    {f : Field (Option TypeId) → Field (Option TypeId)} :
    (r.modifyField id name f).type? other = (r.type? other).map fun t =>
      if id = other then
        { t with body := t.body.mapFields fun fields => fields.map fun x => if x.1 = name then (x.1, f x.2) else x }
      else t :=
  List.getElem?_modify ..

theorem type?_take {r : Registry} {steps : List Step} (passed : (r.take steps).fault = none) (id : TypeId) :
    (r.take steps).registry.type? id =
      (r.type? id).map (·.changed fun field => steps.filterMap (Step.change? id field)) := by
  induction steps generalizing r with
  | nil =>
      have same : ∀ t : Registered, (t.changed fun _ => []) = t := fun t =>
        TypeDef.changed_eq_self_iff.mpr fun _ _ => rfl
      simp [take, same]
  | cons step rest ih =>
      cases step with
      | fail fault => cases passed
      | warn message => exact ih passed
      | change other name c =>
          rw [take] at passed ⊢
          cases refused : r.refusal? other name c with
          | some fault =>
              rw [refused] at passed
              cases passed
          | none =>
              rw [refused] at passed
              show ((r.modifyField other name c.apply).take rest).registry.type? id = _
              rw [ih passed, type?_modifyField, Option.map_map]
              -- The step comes first, and the rest changes the type that it leaves.
              refine congrArg (Option.map · _) (funext fun t => ?_)
              rw [Function.comp_apply]
              by_cases own : other = id
              · rw [if_pos own, TypeDef.changed, TypeDef.changed, Body.mapFields_mapFields]
                refine congrArg (TypeDef.mk t.name <| t.body.mapFields ·) (funext fun fields => ?_)
                rw [Function.comp_apply, List.map_map]
                refine List.map_congr_left fun x _ => ?_
                by_cases named : x.1 = name
                · simp [Step.change?, own, named, Field.changed]
                · simp [Step.change?, named, Ne.symm named]
              · rw [if_neg own]
                exact TypeDef.changed_congr fun x _ => by simp [Step.change?, own]

section Read

variable {r : Registry} {s : Schema} {id : TypeId} {names : List String} {field : String} {type key entries : Value}

theorem ofField_change? (known : field ∈ names) (entry : Value) :
    (Step.ofField id type names key entry).change? id field =
      (itemUnder? field (key, entry)).bind fun v => (Change.ofValue v).toOption := by
  cases key with
  | text name =>
      rw [Step.ofField, itemUnder?]
      by_cases same : name = field
      · subst same
        rw [if_pos (List.contains_iff_mem.mpr known), if_pos rfl, Option.bind_some]
        cases Change.ofValue entry with
        | error fault => rfl
        | ok c => exact if_pos (And.intro rfl rfl)
      · rw [if_neg same, Option.bind_none]
        cases names.contains name with
        | false => rfl
        | true =>
            cases Change.ofValue entry with
            | error fault => rfl
            | ok c => exact if_neg fun own => same own.2
  | _ => rfl

theorem ofField_change?_other {other : TypeId} (apart : other ≠ id) (entry : Value) :
    (Step.ofField other type names key entry).change? id field = none := by
  cases key with
  | text name =>
      rw [Step.ofField]
      cases names.contains name with
      | false => rfl
      | true =>
          cases Change.ofValue entry with
          | error fault => rfl
          | ok c => exact if_neg fun own => apart own.1
  | _ => rfl

theorem ofType_changes (found : Step.target? r s type = some (id, names)) (known : field ∈ names) :
    (Step.ofType r s type entries).filterMap (Step.change? id field) =
      (under entries field).filterMap fun v => (Change.ofValue v).toOption := by
  rw [Step.ofType, found, under]
  cases entries.entries? with
  | none => rfl
  | some fields =>
      rw [Option.getD_some, List.filterMap_filterMap]
      show (fields.map _).filterMap _ = _
      rw [List.filterMap_map]
      exact congrArg (fields.filterMap ·) (funext fun e => ofField_change? known e.2)

theorem ofType_changes_other (apart : ∀ names, Step.target? r s type ≠ some (id, names)) :
    (Step.ofType r s type entries).filterMap (Step.change? id field) = [] := by
  rw [Step.ofType]
  cases found : Step.target? r s type with
  | none => rfl
  | some target =>
      obtain ⟨other, names⟩ := target
      cases entries.entries? with
      | none => rfl
      | some fields =>
          refine List.filterMap_eq_nil_iff.mpr fun step member => ?_
          obtain ⟨e, _, rfl⟩ := List.mem_map.mp member
          exact ofField_change?_other (fun same => apart names (by rw [found, same])) e.2

theorem target?_eq_some (found : Step.target? r s type = some (id, names)) :
    ∃ name, type = .text name ∧ s.types.lookup name = some id := by
  cases type with
  | text name =>
      obtain ⟨other, named, found⟩ := Option.bind_eq_some_iff.mp found
      obtain ⟨_, _, found⟩ := Option.bind_eq_some_iff.mp found
      obtain ⟨_, _, found⟩ := Option.bind_eq_some_iff.mp found
      obtain rfl := (Prod.mk.inj (Option.some.inj found)).1
      exact ⟨name, rfl, named⟩
  | _ => cases found

theorem target?_text {name : String} {t : Registered} (named : s.types.lookup name = some id)
    (there : r.type? id = some t) (known : field ∈ t.body.fields.map (·.1)) :
    Step.target? r s (.text name) = some (id, t.body.fields.map (·.1)) := by
  have some : t.body.fields? = some t.body.fields := by
    cases found : t.body.fields? with
    | none => simp [Body.fields, found] at known
    | some fields => simp [Body.fields, found]
  simp [Step.target?, named, there, some]

/-- The steps of a resolver map change the fields of a type as the map asks under the name of the type. -/
theorem ofMap_changes {resolvers : Value} {name : String} {t : Registered} (named : s.types.lookup name = some id)
    (apart : ∀ other, s.types.lookup other = some id → other = name) (there : r.type? id = some t)
    (known : field ∈ t.body.fields.map (·.1)) :
    (Step.ofMap r s resolvers).filterMap (Step.change? id field) = changesOf resolvers name field := by
  rw [Step.ofMap, changesOf, under]
  cases resolvers.entries? with
  | none => rfl
  | some types =>
      rw [Option.getD_some]
      show (types.flatMap fun t => Step.ofType r s t.1 t.2).filterMap _ = _
      induction types with
      | nil => rfl
      | cons e rest ih =>
          obtain ⟨key, entries⟩ := e
          rw [List.flatMap_cons, List.filterMap_append, ih, List.filterMap_cons]
          by_cases own : key = .text name
          · subst own
            rw [ofType_changes (target?_text named there known) known, itemUnder?, if_pos rfl, List.flatMap_cons]
          -- Entries under another name have no steps for this type, since it has one name only.
          · have none : itemUnder? name (key, entries) = none := by
              cases key with
              | text other => exact if_neg fun same => own (congrArg _ same)
              | _ => rfl
            have kept : (Step.ofType r s key entries).filterMap (Step.change? id field) = [] := by
              refine ofType_changes_other fun names found => ?_
              obtain ⟨other, rfl, placed⟩ := target?_eq_some found
              exact own (congrArg _ (apart other placed))
            rw [kept, none, List.nil_append]

theorem ofMap_changes_other {resolvers : Value} (apart : ∀ name, s.types.lookup name ≠ some id) :
    (Step.ofMap r s resolvers).filterMap (Step.change? id field) = [] := by
  rw [Step.ofMap]
  cases resolvers.entries? with
  | none => rfl
  | some types =>
      rw [List.filterMap_flatMap, List.flatMap_eq_nil_iff]
      refine fun e _ => ofType_changes_other fun names found => ?_
      obtain ⟨name, _, found⟩ := target?_eq_some found
      exact apart name found

end Read

/-- Attaching that does not end early changes the types of a schema as the resolver map asks under their names, and no
others. -/
theorem type?_attach {r : Registry} {s : Schema} {resolvers : Value} (passed : (r.attach s resolvers).fault = none)
    (named : ∀ name id, s.types.lookup name = some id → r.nameOf id = name) (id : TypeId) :
    (r.attach s resolvers).registry.type? id = (r.type? id).map fun t =>
      if s.types.lookup t.name = some id then t.changed (changesOf resolvers t.name) else t := by
  rw [attach, type?_take passed]
  cases there : r.type? id with
  | none => rfl
  | some t =>
      have same : ∀ name, s.types.lookup name = some id → name = t.name := by
        intro name found
        rw [← named name id found, nameOf, there]
        rfl
      refine congrArg some ?_
      dsimp only
      split
      · rename_i found
        refine TypeDef.changed_congr fun x member => ?_
        exact ofMap_changes found same there (List.mem_map.mpr ⟨x, member, rfl⟩)
      · rename_i apart
        have none : ∀ name, s.types.lookup name ≠ some id := fun name found => apart (same name found ▸ found)
        refine TypeDef.changed_eq_self_iff.mpr fun x _ => ?_
        rw [ofMap_changes_other none]
        rfl

theorem changesOf_of_falsy {resolvers : Value} (falsy : resolvers.truthy = false) (type field : String) :
    changesOf resolvers type field = [] := by
  rw [changesOf, under, Value.entries_of_falsy falsy]
  rfl

/-- Without documents, resolvers are attached to the merged schema. -/
theorem stitch_attaches {r : Registry} {sources : List Schema} {resolvers : Value} {s : Schema}
    (stitched : (r.stitch sources [] resolvers).result = .ok s) :
    (r.merge sources).1 = .ok s ∧
      ((resolvers.truthy = false ∧ (r.stitch sources [] resolvers).registry = (r.merge sources).2) ∨
        ((r.merge sources).2.attach s resolvers).fault = none ∧
          (r.stitch sources [] resolvers).registry = ((r.merge sources).2.attach s resolvers).registry) := by
  rw [stitch] at stitched ⊢
  cases merge : r.merge sources with
  | mk result after =>
      rw [merge] at stitched
      cases result with
      | error fault => cases stitched
      | ok merged =>
          simp only [extendAll] at stitched ⊢
          cases asked : resolvers.truthy with
          | false =>
              simp only [asked, Bool.false_eq_true, if_false] at stitched ⊢
              exact ⟨stitched, .inl ⟨trivial, trivial⟩⟩
          | true =>
              simp only [asked, if_true] at stitched ⊢
              cases passed : (after.attach merged resolvers).fault with
              | some fault =>
                  rw [passed] at stitched
                  cases stitched
              | none =>
                  rw [passed] at stitched
                  obtain rfl := Except.ok.inj stitched
                  exact ⟨rfl, .inr ⟨passed, rfl⟩⟩

section Stitch

variable {r : Registry} (sound : r.Sound) {sources : List Schema} (held : ∀ s ∈ sources, r.Holds s)
  {resolvers : Value} {s : Schema}
include sound held

/-- A type that was there before is changed as the resolvers ask if the stitched schema holds it, and stays as it is
otherwise. -/
theorem type?_stitch (stitched : (r.stitch sources [] resolvers).result = .ok s) {name : String} {id : TypeId}
    (known : id < r.size) (named : r.nameOf id = name) :
    (r.stitch sources [] resolvers).registry.type? id = (r.type? id).map fun t =>
      if s.types.lookup name = some id then t.changed (changesOf resolvers name) else t := by
  obtain ⟨ok, attached⟩ := stitch_attaches stitched
  have merged := merged_of_merge ok
  rw [merged] at ok attached
  have holds := merged_holds sound held ok
  have before : (r.merged sources).2.type? id = r.type? id := type?_add known
  have names : ∀ other id, s.types.lookup other = some id → (r.merged sources).2.nameOf id = other :=
    fun other id found => (holds.named other id ((lookup_eq_some_iff_mem holds.distinct).mp found)).2
  cases there : r.type? id with
  | none =>
      exact absurd known (Nat.not_lt_of_le (List.getElem?_eq_none_iff.mp there))
  | some t =>
      have own : t.name = name := by
        rw [← named, nameOf, there]
        rfl
      rcases attached with ⟨falsy, after⟩ | ⟨passed, after⟩
      · have none : t.changed (changesOf resolvers name) = t :=
          TypeDef.changed_eq_self_iff.mpr fun x _ => by rw [changesOf_of_falsy falsy]; rfl
        rw [after, before, there, Option.map_some, none, ite_self]
      · rw [after, type?_attach passed names, before, there, Option.map_some, own]
        rfl

/-- Resolvers never reach the sources through the types of operations. Through a named type of a source they do exactly
if the stitched schema holds this type under its name; so the sources stay as they are exactly if no resolver changes
a field of such a type. -/
theorem stitch_keeps_sources_iff (stitched : (r.stitch sources [] resolvers).result = .ok s) :
    let after := (r.stitch sources [] resolvers).registry
    (∀ operation id, s.root? operation = some id →
      s.types.lookup operation.typeName = some id ∧ ∀ source ∈ sources, ∀ t ∈ source.types, t.2 ≠ id) ∧
    (∀ source ∈ sources, ∀ name id, (name, id) ∈ source.types → after.type? id = (r.type? id).map fun t =>
      if s.types.lookup name = some id then t.changed (changesOf resolvers name) else t) ∧
    ((∀ source ∈ sources, ∀ t ∈ source.types, after.type? t.2 = r.type? t.2) ↔
      ∀ source ∈ sources, ∀ name id, (name, id) ∈ source.types → s.types.lookup name = some id →
        ∀ field x, (field, x) ∈ r.fieldsOf id → x.changed (changesOf resolvers name field) = x) := by
  intro after
  have changed : ∀ source ∈ sources, ∀ name id, (name, id) ∈ source.types → after.type? id = (r.type? id).map fun t =>
      if s.types.lookup name = some id then t.changed (changesOf resolvers name) else t := by
    intro source member name id typed
    obtain ⟨known, named⟩ := (held source member).named name id typed
    exact type?_stitch sound held stitched known named
  refine ⟨fun operation id root => ?_, changed, fun unchanged => ?_, fun unchanged => ?_⟩
  · obtain ⟨ok, _⟩ := stitch_attaches stitched
    rw [merged_of_merge ok] at ok
    obtain ⟨placed, names, _, operations⟩ := merged_ok sound held ok
    have new := (placed operation id).mp root
    exact ⟨(lookup_eq_some_iff_mem names).mpr (operations _ _ new), fun source member t typed =>
      operationId_new held new member typed⟩
  · intro source member name id typed found field x there
    have same := (changed source member name id typed).symm.trans (unchanged source member (name, id) typed)
    rw [fieldsOf] at there
    cases old : r.type? id with
    | none =>
        rw [old] at there
        cases there
    | some t =>
        rw [old] at there same
        rw [Option.map_some, if_pos found] at same
        exact TypeDef.changed_eq_self_iff.mp (Option.some.inj same) (field, x) there
  · rintro source member ⟨name, id⟩ typed
    rw [changed source member name id typed]
    cases there : r.type? id with
    | none => rfl
    | some t =>
        refine congrArg some ?_
        split
        · rename_i found
          refine TypeDef.changed_eq_self_iff.mpr fun x field => ?_
          refine unchanged source member name id typed found x.1 x.2 ?_
          rw [fieldsOf, there]
          exact field
        · rfl

end Stitch

def members : List Schema × Registry :=
  Standard.registry.loadAll [shop [("me", "User")]]

def identify : Value :=
  .map [(.text "User", .map [(.text "id", .function 0 "identify")])]

/-- The source of the users gets the resolver. -/
theorem members_changed : (members.2.Sound ∧ ∀ s ∈ members.1, members.2.Holds s) ∧
    (∃ s, (members.2.stitch members.1 [] identify).result = .ok s) ∧
    ¬ ∀ source ∈ members.1, ∀ t ∈ source.types,
      (members.2.stitch members.1 [] identify).registry.type? t.2 = members.2.type? t.2 := by
  have held : members.2.Sound ∧ _ ∧ ∀ s ∈ members.1, members.2.Holds s :=
    loadAll_holds sound_standard (by decide) (by decide)
  have result : (members.2.stitch members.1 [] identify).result.toOption.map (·.types.lookup "User") =
      some (some 13) := by
    decide +kernel
  cases stitched : (members.2.stitch members.1 [] identify).result with
  | error fault =>
      rw [stitched] at result
      cases result
  | ok s =>
      rw [stitched] at result
      refine ⟨⟨held.1, held.2.2⟩, ⟨s, rfl⟩, fun unchanged => ?_⟩
      have source : ∃ source ∈ members.1, ("User", 13) ∈ source.types := by decide +kernel
      obtain ⟨source, member, typed⟩ := source
      have kept := (stitch_keeps_sources_iff held.1 held.2.2 stitched).2.2.mp unchanged source member "User" 13 typed
        (Option.some.inj result) "id" _ (List.mem_singleton.mpr rfl)
      have resolver : Value.function 0 "identify" = .null := congrArg Field.resolve kept
      cases resolver

end Registry

end GraphGateway.Schema
