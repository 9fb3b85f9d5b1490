import GraphGateway.Proofs.Path.Reach
import GraphGateway.Template.Scope

/-!
# References to containers that are there

In a store whose containers refer only to containers that are there, nothing leads out of it. Moving values into a store
keeps it so; and what a request that was moved into it leads to is all there.
-/

namespace GraphGateway

namespace Store

/-- Whether some references are references to containers of a store. -/
def Holds (st : Store) (handles : List Handle) : Prop :=
  ∀ h ∈ handles, h < st.cells.size

/-- Whether all containers of a store refer only to containers that are there. -/
def Whole (st : Store) : Prop :=
  ∀ h < st.cells.size, st.Holds (st.get h).handles

variable {st after : Store} {v : Value} {first second : List Handle}

theorem whole_empty : Store.empty.Whole := nofun

theorem Holds.mono (holds : st.Holds first) (grows : st.GrowsTo after) : after.Holds first :=
  fun h member => Nat.lt_of_lt_of_le (holds h member) grows.size

theorem holds_append : st.Holds (first ++ second) ↔ st.Holds first ∧ st.Holds second := by
  simp only [Holds, List.mem_append, or_imp, forall_and]

theorem Whole.closed (whole : st.Whole) (holds : st.Holds v.handles) : st.Closed v where
  own := holds
  onward k reached := whole k reached.inside

/-- What moving something into a store comes to: the store is whole, and holds what the references are to. -/
structure Loads (st after : Store) (handles : List Handle) : Prop where
  grows : st.GrowsTo after
  whole : after.Whole
  holds : after.Holds handles

theorem Loads.nothing (whole : st.Whole) (holds : st.Holds first) : Loads st st first :=
  ⟨.refl st, whole, holds⟩

theorem Loads.place (contents : Loads st after v.handles) :
    Loads st (Store.place v after).2 (Store.place v after).1.handles where
  grows := contents.grows.trans (grows_alloc after v)
  whole h inside := by
    have grows := grows_alloc after v
    have size : (after.alloc v).2.cells.size = after.cells.size + 1 := by simp [alloc]
    show (after.alloc v).2.Holds ((after.alloc v).2.get h).handles
    rcases Nat.lt_succ_iff_lt_or_eq.mp (size ▸ inside) with earlier | rfl
    · rw [grows.same h earlier]
      exact (contents.whole h earlier).mono grows
    · have there : (after.alloc v).2.get after.cells.size = v := by simp [alloc, get]
      rw [there]
      exact contents.holds.mono grows
  holds h member := by
    obtain rfl := List.mem_singleton.mp member
    simp [Store.place, alloc]

theorem Loads.append {middle : Store} (before : Loads st middle first) (next : Loads middle after second) :
    Loads st after (first ++ second) :=
  ⟨before.grows.trans next.grows, next.whole, holds_append.mpr ⟨before.holds.mono next.grows, next.holds⟩⟩

mutual

theorem loads {st : Store} (whole : st.Whole) (v : Value) (holds : st.Holds v.handles) :
    Loads st (st.load v).2 (st.load v).1.handles := by
  cases v with
  | list items => exact .place (loads_items whole items holds)
  | tuple items => exact .place (loads_items whole items holds)
  | map entries => exact .place (loads_entries whole entries holds)
  | record fields => exact .place (loads_fields whole fields holds)
  | external data errors subschema fieldSubschemas =>
      simp only [Value.handles, holds_append] at holds
      obtain ⟨⟨⟨inData, inErrors⟩, inSubschema⟩, inFields⟩ := holds
      have data := loads_entries whole data inData
      have errors := loads_items data.whole errors (inErrors.mono data.grows)
      have both := data.append errors
      have subschema := loads both.whole subschema (inSubschema.mono both.grows)
      have three := both.append subschema
      have fields := loads_entries three.whole fieldSubschemas (inFields.mono three.grows)
      exact .place (three.append fields)
  | fieldError message underlying extensions =>
      simp only [Value.handles, holds_append] at holds
      have cause := loads whole underlying holds.1
      have further := loads cause.whole extensions (holds.2.mono cause.grows)
      exact .place (cause.append further)
  | made className configuration => exact .place (loads whole configuration holds)
  | method object name => exact .place (loads whole object holds)
  | error kind text name => exact .place (.nothing whole holds)
  | other kind => exact .place (.nothing whole holds)
  | real x =>
      cases x with
      | nan => exact .place (.nothing whole holds)
      | finite | infinite => exact .nothing whole holds
  | _ => exact .nothing whole holds
termination_by sizeOf v

theorem loads_items {st : Store} (whole : st.Whole) (items : List Value)
    (holds : st.Holds (Value.handlesItems items)) :
    Loads st (st.loadItems items).2 (Value.handlesItems (st.loadItems items).1) := by
  cases items with
  | nil => exact .nothing whole holds
  | cons v rest =>
      rw [Value.handlesItems, holds_append] at holds
      have first := loads whole v holds.1
      exact first.append (loads_items first.whole rest (holds.2.mono first.grows))
termination_by sizeOf items

theorem loads_entries {st : Store} (whole : st.Whole) (entries : List (Value × Value))
    (holds : st.Holds (Value.handlesEntries entries)) :
    Loads st (st.loadEntries entries).2 (Value.handlesEntries (st.loadEntries entries).1) := by
  match entries with
  | [] => exact .nothing whole holds
  | (key, v) :: rest =>
      rw [Value.handlesEntries, holds_append, holds_append] at holds
      have keyed := Loads.nothing whole holds.1.1
      have entry := keyed.append (loads whole v holds.1.2)
      exact entry.append (loads_entries entry.whole rest (holds.2.mono entry.grows))
termination_by sizeOf entries

theorem loads_fields {st : Store} (whole : st.Whole) (fields : List (String × Value))
    (holds : st.Holds (Value.handlesFields fields)) :
    Loads st (st.loadFields fields).2 (Value.handlesFields (st.loadFields fields).1) := by
  match fields with
  | [] => exact .nothing whole holds
  | (name, v) :: rest =>
      rw [Value.handlesFields, holds_append] at holds
      have field := loads whole v holds.1
      exact field.append (loads_fields field.whole rest (holds.2.mono field.grows))
termination_by sizeOf fields

end

end Store

theorem Request.closed_load {st : Store} (whole : st.Whole) (request : Request)
    (holds : ∀ part ∈ request.names, st.Holds part.2.handles) :
    ∀ part ∈ (request.load st).1.names, (request.load st).2.Closed part.2 := by
  simp only [Request.names, List.forall_mem_cons] at holds
  obtain ⟨inRoot, inArgs, inContext, inInfo, _⟩ := holds
  have root := Store.loads whole request.root inRoot
  have args := Store.loads root.whole request.args (inArgs.mono root.grows)
  have both := root.append args
  have context := Store.loads both.whole request.context (inContext.mono both.grows)
  have three := both.append context
  have info := Store.loads three.whole request.info (inInfo.mono three.grows)
  have all := three.append info
  have parts := all.holds
  simp only [Store.holds_append] at parts
  obtain ⟨⟨⟨atRoot, atArgs⟩, atContext⟩, atInfo⟩ := parts
  have whole : (request.load st).2.Whole := all.whole
  simp only [Request.names, List.forall_mem_cons]
  exact ⟨whole.closed atRoot, whole.closed atArgs, whole.closed atContext, whole.closed atInfo, List.forall_mem_nil _⟩

end GraphGateway
