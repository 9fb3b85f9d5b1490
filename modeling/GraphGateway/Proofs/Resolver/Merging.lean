import GraphGateway.Proofs.Resolver.FieldMaps
import GraphGateway.Proofs.Store.Growth
import GraphGateway.Proofs.Value.Altering
import GraphGateway.Resolver.Compile

/-!
# Merging resolver maps

Maps are merged into a map that is made for it, and what it holds for a type is a mapping made for it as well. So merging
changes no container that is there. What comes out is the entries of the maps put in one after the other, which do not
depend on how the maps are grouped. The maps of resolver files are put together in the same way.
-/

namespace GraphGateway

namespace Resolver

namespace FieldMap

def updating (fields : List (Value × α)) (old : Option (List (Value × α))) : List (Value × α) :=
  Value.update (old.getD []) fields

/-- The entries of types put together: of each field the last one, in the place of the first one. -/
def joined (m : FieldMap α) : FieldMap α :=
  Value.alterAll updating [] m

def mapEntries (f : α → β) (m : FieldMap α) : FieldMap β :=
  m.map fun t => (t.1, t.2.map fun e => (e.1, f e.2))

theorem put_mapEntries (f : α → β) (m : FieldMap α) (type : Value) (fields : List (Value × α)) :
    (m.mapEntries f).put type (fields.map fun e => (e.1, f e.2)) = (m.put type fields).mapEntries f := by
  have there : Store.empty.find? (m.mapEntries f) type =
      (Store.empty.find? m type).map fun fields => fields.map fun e => (e.1, f e.2) := Store.find_map ..
  rw [put, put, there, mapEntries, mapEntries, ← Value.insert_map, ← Value.update_map]
  cases Store.empty.find? m type <;> rfl

/-- Whether types and fields have names. -/
structure IsNamed (m : FieldMap α) : Prop where
  types : Value.Named m
  fields : ∀ t ∈ m, Value.Named t.2

theorem composes_replacing : Value.Composes (fun _ => True) (fun _ => True) fun (v : α) (_ : Option α) => v where
  new _ _ _ := rfl
  onto _ _ _ _ _ := rfl
  starts _ _ := trivial
  keeps _ _ _ _ := trivial

theorem reached_nil (reached : α → Prop) : Value.Reached reached [] :=
  ⟨Value.named_nil, .nil, nofun⟩

theorem reached_update {old fields : List (Value × α)} (made : Value.Reached (fun _ => True) old)
    (named : Value.Named fields) : Value.Reached (fun _ => True) (Value.update old fields) :=
  made.alterAll composes_replacing named fun _ _ => trivial

theorem update_update {old fields : List (Value × α)} (made : Value.Reached (fun _ => True) old)
    (named : Value.Named fields) (entries : List (Value × α)) :
    Value.update entries (Value.update old fields) = Value.update (Value.update entries old) fields :=
  Value.alterAll_alterAll composes_replacing made named (fun _ _ => trivial) entries

theorem composes_updating :
    Value.Composes Value.Named (Value.Reached fun _ => True) (updating (α := α)) where
  new _ named o := update_update (reached_nil _) named (o.getD [])
  onto _ _ made named o := update_update made named (o.getD [])
  starts _ named := reached_update (reached_nil _) named
  keeps _ _ made named := reached_update made named

variable {m n : FieldMap α}

theorem joined_append_joined (first : m.IsNamed) (second : n.IsNamed) :
    (m.joined ++ n.joined).joined = (m ++ n).joined := by
  have once : ∀ {n : FieldMap α}, n.IsNamed → ∀ entries, Value.alterAll updating entries n.joined =
      Value.alterAll updating entries n :=
    fun named entries => Value.alterAll_alterAll composes_updating (reached_nil _) named.types named.fields entries
  have appended : ∀ a b : FieldMap α, (a ++ b).joined = Value.alterAll updating a.joined b :=
    Value.alterAll_append updating []
  calc (m.joined ++ n.joined).joined
      = Value.alterAll updating (Value.alterAll updating [] m.joined) n.joined := appended ..
    _ = Value.alterAll updating m.joined n := by rw [once first, once second]; rfl
    _ = (m ++ n).joined := (appended m n).symm

theorem IsNamed.joined (named : m.IsNamed) : m.joined.IsNamed where
  types := ((reached_nil _).alterAll composes_updating named.types named.fields).named
  fields t member := (((reached_nil _).alterAll composes_updating named.types named.fields).values t member).named

theorem isNamed_flatMap {maps : β → FieldMap α} {vs : List β} (each : ∀ v ∈ vs, (maps v).IsNamed) :
    IsNamed (vs.flatMap maps) where
  types t member := by
    obtain ⟨v, among, inside⟩ := List.mem_flatMap.mp member
    exact (each v among).types t inside
  fields t member := by
    obtain ⟨v, among, inside⟩ := List.mem_flatMap.mp member
    exact (each v among).fields t inside

theorem joined_joined (named : m.IsNamed) : m.joined.joined = m.joined := by
  have alone := joined_append_joined named (n := []) ⟨Value.named_nil, nofun⟩
  rwa [show joined ([] : FieldMap α) = [] from rfl, List.append_nil, List.append_nil] at alone

end FieldMap

/-- The map that a value holds: of each type the entries of its fields. -/
def fieldMap (st : Store) (v : Value) : FieldMap Value :=
  ((st.look v).entries?.getD []).map fun t => (t.1, (st.look t.2).entries?.getD [])

/-- Whether a value maps names of types to mappings from names of fields. -/
structure IsMap (st : Store) (v : Value) : Prop where
  mapping : (st.look v).isMapping = true
  inner : ∀ t ∈ (st.look v).entries?.getD [], (st.look t.2).isMapping = true
  named : (fieldMap st v).IsNamed

section Growth

variable {st after : Store} {v : Value}

theorem IsMap.inner_looks (map : IsMap st v) (grows : st.GrowsTo after) :
    ∀ t ∈ (st.look v).entries?.getD [], after.look t.2 = st.look t.2 :=
  fun t member => grows.look_mapping (map.inner t member)

theorem IsMap.fieldMap_grows (map : IsMap st v) (grows : st.GrowsTo after) : fieldMap after v = fieldMap st v := by
  rw [fieldMap, fieldMap, grows.look_mapping map.mapping]
  exact List.map_congr_left fun t member => by rw [map.inner_looks grows t member]

theorem IsMap.grows (map : IsMap st v) (grows : st.GrowsTo after) : IsMap after v where
  mapping := by rw [grows.look_mapping map.mapping, map.mapping]
  inner t member := by
    rw [grows.look_mapping map.mapping] at member
    rw [map.inner_looks grows t member, map.inner t member]
  named := by
    rw [map.fieldMap_grows grows]
    exact map.named

theorem entriesOf_grows (grows : st.GrowsTo after) (mapping : (st.look v).isMapping = true) :
    Template.entriesOf after v = .ok ((st.look v).entries?.getD []) := by
  obtain ⟨entries, contents⟩ := Option.isSome_iff_exists.mp mapping
  rw [Template.entriesOf, grows.look_mapping mapping, contents]
  rfl

end Growth

theorem mergeTypes_cons {merged own : Handle} {type : Value} {st after : Store}
    (finds : ownFields merged type st = (own, after)) (fields : Value) (rest : List (Value × Value)) :
    mergeTypes merged ((type, fields) :: rest) st = match Template.entriesOf after fields with
      | .error fault => (some fault, after)
      | .ok added => mergeTypes merged rest (after.set own (.map (Value.update (after.entriesAt own) added))) := by
  obtain ⟨rfl, rfl⟩ : own = (ownFields merged type st).1 ∧ after = (ownFields merged type st).2 := by
    rw [finds]
    exact ⟨rfl, rfl⟩
  rfl

/-- The map that is being made, when it holds these mappings for its types. -/
def contents (st : Store) (owned : List (Value × Handle)) : FieldMap Value :=
  owned.map fun t => (t.1, st.entriesAt t.2)

/-- Whether a map that is being made is on its own: neither it nor the mappings of its types were there before, and no
two of them are one. -/
structure Building (base : Store) (merged : Handle) (owned : List (Value × Handle)) (st : Store) : Prop where
  grows : base.GrowsTo st
  new : ∀ h ∈ merged :: owned.map (·.2), base.cells.size ≤ h ∧ h < st.cells.size
  apart : (merged :: owned.map (·.2)).Nodup
  held : st.get merged = .map (owned.map fun t => (t.1, .shared t.2))
  mappings : ∀ t ∈ owned, (st.get t.2).isMapping = true

theorem contents_congr {st after : Store} {owned : List (Value × Handle)}
    (same : ∀ h ∈ owned.map (·.2), after.get h = st.get h) : contents after owned = contents st owned :=
  List.map_congr_left fun t member => by rw [Store.entriesAt, Store.entriesAt, same t.2 (List.mem_map_of_mem member)]

theorem mem_of_find {owned : List (Value × Handle)} {type : Value} {own : Handle}
    (found : Store.empty.find? owned type = some own) : own ∈ owned.map (·.2) := by
  obtain ⟨t, first, rfl⟩ := Option.map_eq_some_iff.mp found
  exact List.mem_map_of_mem (List.mem_of_find?_eq_some first)

/-- To change the mapping of a type is to put it in anew. -/
theorem contents_set {st : Store} {owned : List (Value × Handle)} {type : Value} {own : Handle}
    (apart : (owned.map (·.2)).Nodup) (found : Store.empty.find? owned type = some own)
    (inside : own < st.cells.size) (fields : List (Value × Value)) :
    contents (st.set own (.map fields)) owned = Value.insert (contents st owned) type fields := by
  induction owned with
  | nil => cases found
  | cons t rest ih =>
      obtain ⟨absent, distinct⟩ := List.nodup_cons.mp (show (t.2 :: rest.map (·.2)).Nodup from apart)
      rw [Store.find_cons] at found
      have step : ∀ st, contents st (t :: rest) = (t.1, st.entriesAt t.2) :: contents st rest := fun _ => rfl
      rw [step, step, Value.insert]
      split at found
      · rename_i same
        obtain rfl := Option.some.inj found
        have others : contents (st.set t.2 (.map fields)) rest = contents st rest :=
          contents_congr fun h member => Store.get_set_of_ne st (ne_of_mem_of_not_mem member absent).symm _
        rw [if_pos same, others, Store.entriesAt, Store.get_set_self st inside]
        rfl
      · rename_i other
        have apart : own ≠ t.2 := ne_of_mem_of_not_mem (mem_of_find found) absent
        rw [if_neg other, ih distinct found, Store.entriesAt, Store.get_set_of_ne st apart, Store.entriesAt]

namespace Building

variable {base st : Store} {merged : Handle} {owned : List (Value × Handle)}

theorem start (base : Store) : Building base base.cells.size [] (base.alloc (.map [])).2 where
  grows := Store.grows_alloc base _
  new h member := by
    rw [List.mem_singleton.mp member, Store.size_alloc]
    exact ⟨Nat.le_refl _, Nat.lt_succ_self _⟩
  apart := List.nodup_singleton _
  held := Store.get_alloc_self base _
  mappings := nofun

theorem entriesAt_merged (building : Building base merged owned st) :
    st.entriesAt merged = owned.map fun t => (t.1, .shared t.2) := by
  rw [Store.entriesAt, building.held]
  rfl

theorem of_mem (building : Building base merged owned st) {h : Handle} (mine : h ∈ owned.map (·.2)) :
    base.cells.size ≤ h ∧ h < st.cells.size ∧ h ≠ merged :=
  have ⟨new, below⟩ := building.new h (List.mem_cons_of_mem _ mine)
  ⟨new, below, ne_of_mem_of_not_mem mine (List.nodup_cons.mp building.apart).1⟩

theorem set (building : Building base merged owned st) {own : Handle} (mine : own ∈ owned.map (·.2))
    (fields : List (Value × Value)) : Building base merged owned (st.set own (.map fields)) := by
  obtain ⟨new, below, other⟩ := building.of_mem mine
  refine ⟨building.grows.set new _, fun h member => ?_, building.apart, ?_, fun t member => ?_⟩
  · rw [Store.size_set]
    exact building.new h member
  · rw [Store.get_set_of_ne st other, building.held]
  · by_cases same : own = t.2
    · rw [← same, Store.get_set_self st below]
      rfl
    · rw [Store.get_set_of_ne st same, building.mappings t member]

/-- The containers after a type that had no mapping got one. -/
def withOwn (st : Store) (merged : Handle) (owned : List (Value × Handle)) (type : Value) : Store :=
  (st.alloc (.map [])).2.set merged (.map ((owned ++ [(type, st.cells.size)]).map fun t => (t.1, .shared t.2)))

theorem withOwn_of_ne {h : Handle} (other : h ≠ merged) (old : h < st.cells.size) (type : Value) :
    (withOwn st merged owned type).get h = st.get h := by
  rw [withOwn, Store.get_set_of_ne _ other.symm, (Store.grows_alloc st _).same h old]

theorem withOwn_new (below : merged < st.cells.size) (type : Value) :
    (withOwn st merged owned type).get st.cells.size = .map [] := by
  rw [withOwn, Store.get_set_of_ne _ (Nat.ne_of_lt below), Store.get_alloc_self]

theorem add (building : Building base merged owned st) (type : Value) :
    Building base merged (owned ++ [(type, st.cells.size)]) (withOwn st merged owned type) := by
  obtain ⟨first, below⟩ := building.new merged List.mem_cons_self
  have later : merged < (st.alloc (.map [])).2.cells.size := by
    rw [Store.size_alloc]
    exact Nat.lt_succ_of_lt below
  have ends : merged :: (owned ++ [(type, st.cells.size)]).map (·.2) =
      (merged :: owned.map (·.2)) ++ [st.cells.size] := by
    rw [List.map_append]
    rfl
  refine ⟨(building.grows.trans (Store.grows_alloc st _)).set first _, ?_, ?_, Store.get_set_self _ later _, ?_⟩
  · rw [ends, withOwn, Store.size_set, Store.size_alloc]
    refine List.forall_mem_append.mpr ⟨fun h member => ?_, fun h member => ?_⟩
    · exact ⟨(building.new h member).1, Nat.lt_succ_of_lt (building.new h member).2⟩
    · rw [List.mem_singleton.mp member]
      exact ⟨building.grows.size, Nat.lt_succ_self _⟩
  · rw [ends]
    refine List.nodup_append.mpr ⟨building.apart, List.nodup_singleton _, fun h member k own => ?_⟩
    rw [List.mem_singleton.mp own]
    exact Nat.ne_of_lt (building.new h member).2
  · refine List.forall_mem_append.mpr ⟨fun t member => ?_, fun t member => ?_⟩
    · obtain ⟨-, old, other⟩ := building.of_mem (List.mem_map_of_mem member)
      rw [withOwn_of_ne other old, building.mappings t member]
    · rw [List.mem_singleton.mp member, withOwn_new below]
      rfl

theorem contents_add (building : Building base merged owned st) (type : Value) :
    contents (withOwn st merged owned type) (owned ++ [(type, st.cells.size)]) = contents st owned ++ [(type, [])] := by
  have below := (building.new merged List.mem_cons_self).2
  have same : contents (withOwn st merged owned type) owned = contents st owned :=
    contents_congr fun h mine => withOwn_of_ne (building.of_mem mine).2.2 (building.of_mem mine).2.1 type
  rw [contents, List.map_append, ← contents, same, List.map_singleton, Store.entriesAt, withOwn_new below]
  rfl

theorem find_held (owned : List (Value × Handle)) (type : Value) :
    Store.empty.find? (owned.map fun t => (t.1, Value.shared t.2)) type =
      (Store.empty.find? owned type).map Value.shared :=
  Store.find_map owned Value.shared type

theorem ownFields_there (building : Building base merged owned st) {type : Value} {own : Handle}
    (found : Store.empty.find? owned type = some own) : ownFields merged type st = (own, st) := by
  rw [ownFields, building.entriesAt_merged, find_held, found]
  rfl

theorem ownFields_absent (building : Building base merged owned st) {type : Value}
    (absent : Store.empty.find? owned type = none) :
    ownFields merged type st = (st.cells.size, withOwn st merged owned type) := by
  have ends : Value.insert (owned.map fun t => (t.1, Value.shared t.2)) type (.shared st.cells.size) =
      (owned ++ [(type, st.cells.size)]).map fun t => (t.1, Value.shared t.2) := by
    rw [Value.insert_of_absent (by rw [find_held, absent]; rfl), List.map_append]
    rfl
  rw [ownFields, building.entriesAt_merged, find_held, absent, withOwn, ← ends]
  rfl

theorem contents_withOwn (building : Building base merged owned st) {s : String}
    (absent : Store.empty.find? owned (.text s) = none) (added : List (Value × Value)) :
    let after := withOwn st merged owned (.text s)
    contents (after.set st.cells.size (.map (Value.update (after.entriesAt st.cells.size) added)))
      (owned ++ [(.text s, st.cells.size)]) = (contents st owned).put (.text s) added := by
  intro after
  have grown := building.add (.text s)
  have none : Store.empty.find? (contents st owned) (.text s) = none := by rw [contents, Store.find_map, absent]; rfl
  have last : Store.empty.find? (owned ++ [(.text s, st.cells.size)]) (.text s) = some st.cells.size := by
    rw [Store.find_append, absent, Store.find_cons, if_pos (Store.sameKey_text_self s)]
    rfl
  have empty : after.entriesAt st.cells.size = [] := by
    rw [Store.entriesAt, withOwn_new (building.new merged List.mem_cons_self).2]
    rfl
  rw [contents_set (List.nodup_cons.mp grown.apart).2 last (grown.of_mem (mem_of_find last)).2.1,
    building.contents_add, ← Value.insert_of_absent none, Value.insert_insert, FieldMap.put, none, empty]
  rfl

/-- Once a type has its mapping, to put fields there is to put them into the map. -/
theorem owns {own : Handle} {type : Value} {after : Store} (building : Building base merged owned st)
    (finds : ownFields merged type st = (own, after)) :
    ∃ more, Building base merged more after ∧ own ∈ more.map (·.2) ∧ ∀ s, type = .text s → ∀ added,
      contents (after.set own (.map (Value.update (after.entriesAt own) added))) more =
        (contents st owned).put type added := by
  cases found : Store.empty.find? owned type with
  | some there =>
      obtain ⟨rfl, rfl⟩ := Prod.mk.inj ((building.ownFields_there found).symm.trans finds)
      have mine := mem_of_find found
      have viewed : Store.empty.find? (contents st owned) type = some (st.entriesAt there) := by
        rw [contents, Store.find_map, found]
        rfl
      refine ⟨owned, building, mine, fun _ _ added => ?_⟩
      rw [contents_set (List.nodup_cons.mp building.apart).2 found (building.of_mem mine).2.1, FieldMap.put, viewed]
      rfl
  | none =>
      obtain ⟨rfl, rfl⟩ := Prod.mk.inj ((building.ownFields_absent found).symm.trans finds)
      refine ⟨_, building.add type, by simp, ?_⟩
      rintro s rfl added
      exact building.contents_withOwn found added

/-- What has been put together so far is built on, whatever the types and fields are; nothing stops that if they are
mappings under names. -/
theorem mergeTypes (building : Building base merged owned st) (types : List (Value × Value)) :
    ∃ more, Building base merged more (mergeTypes merged types st).2 ∧
      (Value.Named types → (∀ t ∈ types, (base.look t.2).isMapping = true) →
        (Resolver.mergeTypes merged types st).1 = none ∧
        contents (Resolver.mergeTypes merged types st).2 more = Value.alterAll FieldMap.updating (contents st owned)
          (types.map fun t => (t.1, (base.look t.2).entries?.getD []))) := by
  induction types generalizing st owned with
  | nil => exact ⟨owned, building, fun _ _ => ⟨rfl, rfl⟩⟩
  | cons t rest ih =>
      obtain ⟨type, fields⟩ := t
      rcases finds : ownFields merged type st with ⟨own, after⟩
      -- A type has its mapping before its fields are read, also where these cannot be read.
      obtain ⟨more, next, mine, puts⟩ := building.owns finds
      rw [mergeTypes_cons finds]
      cases given : Template.entriesOf after fields with
      | error fault =>
          refine ⟨more, next, fun _ inner => ?_⟩
          rw [entriesOf_grows next.grows (inner _ List.mem_cons_self)] at given
          cases given
      | ok added =>
          obtain ⟨all, done, whole⟩ := ih (next.set mine (Value.update (after.entriesAt own) added))
          refine ⟨all, done, fun named inner => ?_⟩
          obtain ⟨⟨s, key⟩, later⟩ := Value.named_cons.mp named
          obtain ⟨here, inner⟩ := List.forall_mem_cons.mp inner
          rw [entriesOf_grows next.grows here] at given
          obtain rfl := Except.ok.inj given
          obtain ⟨unfailed, result⟩ := whole later inner
          exact ⟨unfailed, by rw [result, puts s key]; rfl⟩

theorem mergeMaps (building : Building base merged owned st) (maps : List Value) :
    ∃ more, Building base merged more (mergeMaps merged maps st).2 ∧
      ((∀ map ∈ maps, IsMap base map) →
        (Resolver.mergeMaps merged maps st).1 = none ∧
        contents (Resolver.mergeMaps merged maps st).2 more =
          Value.alterAll FieldMap.updating (contents st owned) (maps.flatMap (fieldMap base))) := by
  induction maps generalizing st owned with
  | nil => exact ⟨owned, building, fun _ => ⟨rfl, rfl⟩⟩
  | cons map rest ih =>
      rw [Resolver.mergeMaps]
      cases given : (st.look map).entries? with
      | none =>
          refine ⟨owned, building, fun each => ?_⟩
          have mapping := (each map List.mem_cons_self).mapping
          rw [← building.grows.look_mapping mapping, Value.isMapping, given] at mapping
          cases mapping
      | some types =>
          obtain ⟨more, next, puts⟩ := building.mergeTypes types
          rcases step : Resolver.mergeTypes merged types st with ⟨stopped, after⟩
          dsimp only
          rw [step] at next puts ⊢
          have whole : IsMap base map → stopped = none ∧
              contents after more = Value.alterAll FieldMap.updating (contents st owned) (fieldMap base map) := by
            intro map
            have same : (base.look _).entries? = some types := building.grows.look_mapping map.mapping ▸ given
            have named := map.named.types
            have inner := map.inner
            rw [fieldMap, same] at named
            rw [same] at inner
            rw [fieldMap, same]
            exact puts (fun t member => named _ (List.mem_map_of_mem member)) inner
          cases stopped with
          | some fault =>
              refine ⟨more, next, fun each => ?_⟩
              cases (whole (each map List.mem_cons_self)).1
          | none =>
              obtain ⟨all, done, result⟩ := ih next
              refine ⟨all, done, fun each => ?_⟩
              obtain ⟨here, later⟩ := List.forall_mem_cons.mp each
              obtain ⟨unfailed, result⟩ := result later
              refine ⟨unfailed, result.trans ?_⟩
              rw [(whole here).2, List.flatMap_cons, Value.alterAll_append]

theorem fieldMap_merged (building : Building base merged owned st) :
    fieldMap st (.shared merged) = contents st owned := by
  rw [fieldMap, show (st.look (.shared merged)).entries? = some _ from congrArg Value.entries? building.held,
    Option.getD_some, List.map_map]
  rfl

end Building

/-- What merging makes of maps: a map of its own, with mappings of its own, which has their entries put together, beside
containers that stay as they are. -/
structure Makes (st : Store) (maps : List Value) (v : Value) (after : Store) : Prop where
  result : merge st maps = ⟨.ok v, after⟩
  grows : st.GrowsTo after
  map : IsMap after v
  entries : fieldMap after v = FieldMap.joined (maps.flatMap (fieldMap st))
  new : ∃ h, v = .shared h ∧ st.cells.size ≤ h ∧ ∀ t ∈ after.entriesAt h, ∃ k, t.2 = .shared k ∧ st.cells.size ≤ k

theorem merge_eq (st : Store) (maps : List Value) :
    merge st maps = match mergeMaps st.cells.size maps (st.alloc (.map [])).2 with
      | (some fault, after) => ⟨.error fault, after⟩
      | (none, after) => ⟨.ok (.shared st.cells.size), after⟩ :=
  rfl

/-- Merging changes no container that is there, whatever is merged. -/
theorem grows_merge (st : Store) (maps : List Value) : st.GrowsTo (merge st maps).store := by
  obtain ⟨_, done, -⟩ := (Building.start st).mergeMaps maps
  rw [merge_eq]
  rcases made : mergeMaps st.cells.size maps (st.alloc (.map [])).2 with ⟨stopped, after⟩
  rw [made] at done
  cases stopped <;> exact done.grows

theorem merge_makes {st : Store} {maps : List Value} (each : ∀ map ∈ maps, IsMap st map) :
    ∃ v after, Makes st maps v after := by
  obtain ⟨owned, done, puts⟩ := (Building.start st).mergeMaps maps
  obtain ⟨unfailed, holds⟩ := puts each
  rcases made : mergeMaps st.cells.size maps (st.alloc (.map [])).2 with ⟨stopped, after⟩
  rw [made] at done unfailed holds
  obtain rfl : stopped = none := unfailed
  have whole : fieldMap after (.shared st.cells.size) = FieldMap.joined (maps.flatMap (fieldMap st)) :=
    done.fieldMap_merged.trans holds
  refine ⟨.shared st.cells.size, after, by rw [merge_eq, made], done.grows, ⟨?_, fun t member => ?_, ?_⟩, whole,
    st.cells.size, rfl, Nat.le_refl _, fun t member => ?_⟩
  · exact congrArg Value.isMapping done.held
  · change t ∈ after.entriesAt st.cells.size at member
    rw [done.entriesAt_merged] at member
    obtain ⟨u, mine, rfl⟩ := List.mem_map.mp member
    exact done.mappings u mine
  · rw [whole]
    exact (FieldMap.isNamed_flatMap fun map member => (each map member).named).joined
  · rw [done.entriesAt_merged] at member
    obtain ⟨u, mine, rfl⟩ := List.mem_map.mp member
    exact ⟨u.2, rfl, (done.of_mem (List.mem_map_of_mem mine)).1⟩

theorem merge_makes_later {st middle : Store} {maps : List Value} (each : ∀ map ∈ maps, IsMap st map)
    (grows : st.GrowsTo middle) :
    ∃ v after, Makes middle maps v after ∧ fieldMap after v = FieldMap.joined (maps.flatMap (fieldMap st)) := by
  obtain ⟨v, after, makes⟩ := merge_makes fun map member => (each map member).grows grows
  refine ⟨v, after, makes, makes.entries.trans ?_⟩
  rw [List.flatMap_def, List.flatMap_def, List.map_congr_left fun map member => (each map member).fieldMap_grows grows]

theorem IsMap.putInto {map : Value} (isMap : IsMap .empty map) (m : FieldMap Value) :
    (Compiled.file map).putInto (m.mapEntries .given) =
      .ok (FieldMap.mapEntries .given (Value.alterAll FieldMap.updating m (fieldMap .empty map))) := by
  have itself := Store.look_empty_mapping isMap.mapping
  have mapping := isMap.mapping
  have inner := isMap.inner
  rw [itself] at mapping inner
  obtain ⟨types, contents⟩ := Option.isSome_iff_exists.mp mapping
  rw [contents] at inner
  rw [Compiled.putInto, FieldMap.putValue, contents, fieldMap, itself, contents, Option.getD_some]
  clear itself mapping contents isMap
  dsimp only
  induction types generalizing m with
  | nil => rfl
  | cons t rest ih =>
      obtain ⟨here, later⟩ := List.forall_mem_cons.mp inner
      rw [List.foldlM_cons, entriesOf_grows (.refl _) here]
      have step := ih (m.put t.1 ((Store.empty.look t.2).entries?.getD [])) later
      rw [← FieldMap.put_mapEntries] at step
      exact step

theorem mergeCompiled_files {maps : List Value} (each : ∀ map ∈ maps, IsMap .empty map) :
    ∃ v after, Makes .empty maps v after ∧ mergeCompiled (maps.map .file) = .ok ((fieldMap after v).mapEntries .given) := by
  obtain ⟨v, after, makes⟩ := merge_makes each
  refine ⟨v, after, makes, ?_⟩
  rw [mergeCompiled, makes.entries]
  clear makes
  have whole : ∀ m : FieldMap Value,
      (maps.map Compiled.file).foldlM (fun m x => x.putInto m) (m.mapEntries .given) =
        .ok (FieldMap.mapEntries .given (Value.alterAll FieldMap.updating m (maps.flatMap (fieldMap .empty)))) := by
    induction maps with
    | nil => exact fun _ => rfl
    | cons map rest ih =>
        intro m
        obtain ⟨here, later⟩ := List.forall_mem_cons.mp each
        rw [List.map_cons, List.foldlM_cons, here.putInto, List.flatMap_cons, Value.alterAll_append]
        exact ih later _
  exact whole []

/-- Maps can be merged in groups and the results merged again: what comes out is the same, in the same order. -/
theorem merge_merged {st : Store} {xs ys : List Value} (maps : ∀ map ∈ xs ++ ys, IsMap st map) :
    ∃ first st₁ second st₂ whole st₃ all st₄ again st₅,
      Makes st xs first st₁ ∧ Makes st₁ ys second st₂ ∧ Makes st₂ [first, second] whole st₃ ∧
      Makes st₃ (xs ++ ys) all st₄ ∧ Makes st₄ [first] again st₅ ∧
      fieldMap st₅ whole = fieldMap st₅ all ∧ fieldMap st₅ again = fieldMap st₅ first := by
  obtain ⟨inFirst, inSecond⟩ := List.forall_mem_append.mp maps
  obtain ⟨first, st₁, makes₁⟩ := merge_makes inFirst
  obtain ⟨second, st₂, makes₂, holds₂⟩ := merge_makes_later inSecond makes₁.grows
  have both : ∀ map ∈ [first, second], IsMap st₂ map :=
    List.forall_mem_cons.mpr ⟨makes₁.map.grows makes₂.grows, List.forall_mem_singleton.mpr makes₂.map⟩
  obtain ⟨whole, st₃, makes₃⟩ := merge_makes both
  obtain ⟨all, st₄, makes₄, holds₄⟩ := merge_makes_later maps ((makes₁.grows.trans makes₂.grows).trans makes₃.grows)
  have since₁ := (makes₂.grows.trans makes₃.grows).trans makes₄.grows
  obtain ⟨again, st₅, makes₅, holds₅⟩ := merge_makes_later (List.forall_mem_singleton.mpr makes₁.map) since₁
  have named : ∀ {zs : List Value}, (∀ map ∈ zs, IsMap st map) → FieldMap.IsNamed (zs.flatMap (fieldMap st)) :=
    fun each => FieldMap.isNamed_flatMap fun map member => (each map member).named
  refine ⟨first, st₁, second, st₂, whole, st₃, all, st₄, again, st₅, makes₁, makes₂, makes₃, makes₄, makes₅, ?_, ?_⟩
  · calc fieldMap st₅ whole
        = fieldMap st₃ whole := makes₃.map.fieldMap_grows (makes₄.grows.trans makes₅.grows)
      _ = FieldMap.joined (fieldMap st₂ first ++ fieldMap st₂ second) := by
          rw [makes₃.entries, List.flatMap_cons, List.flatMap_singleton]
      _ = FieldMap.joined ((xs ++ ys).flatMap (fieldMap st)) := by
          rw [makes₁.map.fieldMap_grows makes₂.grows, makes₁.entries, holds₂,
            FieldMap.joined_append_joined (named inFirst) (named inSecond), List.flatMap_append]
      _ = fieldMap st₅ all := by rw [makes₄.map.fieldMap_grows makes₅.grows, holds₄]
  · calc fieldMap st₅ again
        = FieldMap.joined (fieldMap st₁ first) := by rw [holds₅, List.flatMap_singleton]
      _ = fieldMap st₁ first := by rw [makes₁.entries, FieldMap.joined_joined (named inFirst)]
      _ = fieldMap st₅ first := (makes₁.map.fieldMap_grows (since₁.trans makes₅.grows)).symm

/-- Two maps that share the mapping of their fields, and a third one that speaks of one of these types. -/
def sharedMaps : Store where
  cells := #[.map [(.text "orders", .text "from the file"), (.text "total", .text "from the file")],
    .map [(.text "Query", .shared 0)], .map [(.text "Mutation", .shared 0), (.text "Query", .shared 0)],
    .map [(.text "orders", .text "described")], .map [(.text "Query", .shared 3)]]

theorem sharedMaps_merged :
    let fromFile : List (Value × Value) :=
      [(.text "orders", .text "from the file"), (.text "total", .text "from the file")]
    (∀ map ∈ [(.shared 1 : Value), .shared 4] ++ [.shared 2, .shared 1], IsMap sharedMaps map) ∧
    ∃ first st₁ second st₂ whole st₃ all st₄ again st₅,
      Makes sharedMaps [.shared 1, .shared 4] first st₁ ∧ Makes st₁ [.shared 2, .shared 1] second st₂ ∧
      Makes st₂ [first, second] whole st₃ ∧ Makes st₃ [.shared 1, .shared 4, .shared 2, .shared 1] all st₄ ∧
      Makes st₄ [first] again st₅ ∧
      fieldMap st₅ whole = [(.text "Query", fromFile), (.text "Mutation", fromFile)] ∧
      fieldMap st₅ again =
        [(.text "Query", [(.text "orders", .text "described"), (.text "total", .text "from the file")])] := by
  have isMap : ∀ map ∈ [(.shared 1 : Value), .shared 4] ++ [.shared 2, .shared 1], IsMap sharedMaps map := by
    intro map member
    simp only [List.cons_append, List.nil_append, List.mem_cons, List.not_mem_nil, or_false] at member
    rcases member with rfl | rfl | rfl | rfl <;>
      exact ⟨rfl, by simp [sharedMaps, Store.look, Store.get, Value.entries?, Value.isMapping],
        by simp [fieldMap, sharedMaps, Store.look, Store.get, Value.entries?],
        by simp [fieldMap, sharedMaps, Store.look, Store.get, Value.entries?]⟩
  obtain ⟨first, st₁, second, st₂, whole, st₃, all, st₄, again, st₅, makes₁, makes₂, makes₃, makes₄, makes₅, same,
    unchanged⟩ := merge_merged isMap
  refine ⟨isMap, first, st₁, second, st₂, whole, st₃, all, st₄, again, st₅, makes₁, makes₂, makes₃, makes₄, makes₅,
    ?_, ?_⟩
  · have before := (makes₁.grows.trans makes₂.grows).trans makes₃.grows
    rw [same, makes₄.map.fieldMap_grows makes₅.grows, makes₄.entries, List.flatMap_def,
      List.map_congr_left fun map member => (isMap map member).fieldMap_grows before]
    rfl
  · have since := ((makes₂.grows.trans makes₃.grows).trans makes₄.grows).trans makes₅.grows
    rw [unchanged, makes₁.map.fieldMap_grows since, makes₁.entries]
    rfl

end Resolver

end GraphGateway
