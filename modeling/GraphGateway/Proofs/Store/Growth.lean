import GraphGateway.Store

/-!
# Stores that grow

Moving a value into a store adds containers and changes none that is there. A store grows into another one
if every container of it is still there with the same contents.
-/

namespace GraphGateway.Store

/-- Whether one store has every container of another, with the same contents. -/
structure GrowsTo (st after : Store) : Prop where
  size : st.cells.size ≤ after.cells.size
  same : ∀ h < st.cells.size, after.get h = st.get h

theorem GrowsTo.refl (st : Store) : st.GrowsTo st :=
  ⟨Nat.le_refl _, fun _ _ => rfl⟩

theorem GrowsTo.trans {st middle after : Store} (first : st.GrowsTo middle) (second : middle.GrowsTo after) :
    st.GrowsTo after where
  size := Nat.le_trans first.size second.size
  same h inside := (second.same h (Nat.lt_of_lt_of_le inside first.size)).trans (first.same h inside)

theorem grows_alloc (st : Store) (v : Value) : st.GrowsTo (st.alloc v).2 where
  size := by simp [alloc]
  same h inside := by simp [alloc, get, Array.getElem?_push_lt inside, inside]

mutual

theorem grows_load (st : Store) (v : Value) : st.GrowsTo (st.load v).2 := by
  cases v with
  | list items => exact (grows_loadItems st items).trans (grows_alloc _ _)
  | tuple items => exact (grows_loadItems st items).trans (grows_alloc _ _)
  | map entries => exact (grows_loadEntries st entries).trans (grows_alloc _ _)
  | record fields => exact (grows_loadFields st fields).trans (grows_alloc _ _)
  | external data errors subschema fieldSubschemas =>
      refine (grows_loadEntries st data).trans ?_
      refine (grows_loadItems _ errors).trans ?_
      refine (grows_load _ subschema).trans ?_
      exact (grows_loadEntries _ fieldSubschemas).trans (grows_alloc _ _)
  | fieldError message underlying extensions =>
      exact (grows_load st underlying).trans ((grows_load _ extensions).trans (grows_alloc _ _))
  | made className configuration => exact (grows_load st configuration).trans (grows_alloc _ _)
  | method object name => exact (grows_load st object).trans (grows_alloc _ _)
  | error kind text name => exact grows_alloc st _
  | other kind => exact grows_alloc st _
  | real x =>
      cases x with
      | nan => exact grows_alloc st _
      | finite | infinite => exact .refl st
  | _ => exact .refl st
termination_by sizeOf v

theorem grows_loadItems (st : Store) (items : List Value) : st.GrowsTo (st.loadItems items).2 := by
  cases items with
  | nil => exact .refl st
  | cons v rest => exact (grows_load st v).trans (grows_loadItems _ rest)
termination_by sizeOf items

theorem grows_loadEntries (st : Store) (entries : List (Value × Value)) :
    st.GrowsTo (st.loadEntries entries).2 := by
  cases entries with
  | nil => exact .refl st
  | cons e rest => exact (grows_load st e.2).trans (grows_loadEntries _ rest)
termination_by sizeOf entries
decreasing_by
  all_goals cases e; simp_wf
  all_goals omega

theorem grows_loadFields (st : Store) (fields : List (String × Value)) :
    st.GrowsTo (st.loadFields fields).2 := by
  cases fields with
  | nil => exact .refl st
  | cons f rest => exact (grows_load st f.2).trans (grows_loadFields _ rest)
termination_by sizeOf fields
decreasing_by
  all_goals cases f; simp_wf
  all_goals omega

end

theorem load_ne_text (st : Store) {v : Value} (notText : ∀ s, v ≠ .text s) (s : String) :
    (st.load v).1 ≠ .text s := by
  cases v with
  | text t => exact absurd rfl (notText t)
  | real x => cases x <;> exact nofun
  | _ => exact nofun

theorem get_set_self (st : Store) {h : Handle} (inside : h < st.cells.size) (v : Value) :
    (st.set h v).get h = v := by
  simp [set, get, inside]

theorem get_set_of_ne (st : Store) {h k : Handle} (other : h ≠ k) (v : Value) :
    (st.set h v).get k = st.get k := by
  simp [set, get, Array.getElem?_setIfInBounds_ne other]

theorem size_set (st : Store) (h : Handle) (v : Value) : (st.set h v).cells.size = st.cells.size := by
  simp [set]

theorem get_alloc_self (st : Store) (v : Value) : (st.alloc v).2.get st.cells.size = v := by
  simp [alloc, get]

theorem size_alloc (st : Store) (v : Value) : (st.alloc v).2.cells.size = st.cells.size + 1 := by
  simp [alloc]

theorem GrowsTo.set {st after : Store} (grows : st.GrowsTo after) {h : Handle} (new : st.cells.size ≤ h) (v : Value) :
    st.GrowsTo (after.set h v) where
  size := by
    rw [size_set]
    exact grows.size
  same k inside := by
    rw [get_set_of_ne after (Nat.ne_of_gt (Nat.lt_of_lt_of_le inside new)) v, grows.same k inside]

/-- A mapping stays as it is while a store grows. -/
theorem GrowsTo.look_mapping {st after : Store} (grows : st.GrowsTo after) {v : Value}
    (mapping : (st.look v).isMapping = true) : after.look v = st.look v := by
  cases v with
  | shared h =>
      refine grows.same h (Nat.lt_of_not_le fun outside => ?_)
      rw [look, get, Array.getElem?_eq_none outside] at mapping
      cases mapping
  | part h which =>
      cases which with
      | message =>
          have plain : ∀ v : Value, (v.errorPart .message).isMapping = false := by
            intro v
            cases v <;> rfl
          rw [look, plain] at mapping
          cases mapping
      | arguments => rfl
  | _ => rfl

theorem look_empty_mapping {v : Value} (mapping : (empty.look v).isMapping = true) : empty.look v = v := by
  cases v with
  | shared h => cases mapping
  | part h which => cases which <;> cases mapping
  | _ => rfl

end GraphGateway.Store
