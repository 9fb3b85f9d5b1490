import GraphGateway.Proofs.Path.Landing
import GraphGateway.Proofs.Path.Numeral
import GraphGateway.Proofs.Store.Reach
import GraphGateway.Proofs.Value.Entries

/-!
# What paths reach

A path leads from a value to nothing but what that value reaches, so what lies along it stays while the containers
that the value reaches do. A write along a path changes none but these.
-/

namespace GraphGateway

namespace Value

variable {v w : Value} {name : String}

theorem handles_of_mem {items : List Value} (member : v ∈ items) : v.handles ⊆ handlesItems items := by
  induction items with
  | nil => cases member
  | cons first rest ih =>
      rcases List.mem_cons.mp member with rfl | later
      · exact List.subset_append_left _ _
      · exact List.Subset.trans (ih later) (List.subset_append_right _ _)

theorem handles_of_entry {entries : List (Value × Value)} {e : Value × Value} (member : e ∈ entries) :
    e.2.handles ⊆ handlesEntries entries := by
  induction entries with
  | nil => cases member
  | cons first rest ih =>
      obtain ⟨k, here⟩ := first
      rw [handlesEntries]
      rcases List.mem_cons.mp member with rfl | later
      · exact List.Subset.trans (List.subset_append_right _ _) (List.subset_append_left _ _)
      · exact List.Subset.trans (ih later) (List.subset_append_right _ _)

theorem handles_of_field {fields : List (String × Value)} (found : fields.lookup name = some v) :
    v.handles ⊆ handlesFields fields := by
  induction fields with
  | nil => cases found
  | cons field rest ih =>
      obtain ⟨k, here⟩ := field
      rw [List.lookup_cons] at found
      split at found
      · obtain rfl := Option.some.inj found
        exact List.subset_append_left _ _
      · exact List.Subset.trans (ih found) (List.subset_append_right _ _)

theorem handles_errorPart (which : ErrorPart) : (v.errorPart which).handles = [] := by
  cases v <;> cases which <;> rfl

theorem eq_of_response {message : String} {extensions : Value} (asked : v.response? name = some (message, extensions)) :
    ∃ underlying, v = .fieldError message underlying extensions := by
  unfold response? at asked
  split at asked
  · split at asked
    · cases asked
      exact ⟨_, rfl⟩
    · cases asked
  · cases asked

theorem handlesFields_entries (fields : List (String × Value)) :
    handlesEntries (fields.map fun f => (.text f.1, f.2)) = handlesFields fields := by
  induction fields with
  | nil => rfl
  | cons field rest ih => exact congrArg (field.2.handles ++ ·) ih

theorem handles_historyOf (found : historyOf? name = some w) : w.handles = [] := by
  unfold historyOf? at found
  split at found <;> cases found <;> rfl

theorem handles_detail {kind : String} {given : Option String} (found : detail? kind given name = some w) :
    w.handles = [] := by
  unfold detail? at found
  split at found
  · cases found
    split
    · cases given <;> rfl
    · rfl
  · exact handles_historyOf found

theorem handles_described (found : described? v name = some w) : w.handles = [] := by
  unfold described? at found
  repeat' split at found
  all_goals cases found <;> rfl

theorem handles_integerMember {n : Int} (found : integerMember? n name = some w) : w.handles = [] := by
  unfold integerMember? at found
  split at found <;> cases found <;> rfl

theorem handles_complexMember {re im : Number.Binary64} (found : complexMember? re im name = some w) :
    w.handles = [] := by
  unfold complexMember? at found
  split at found <;> cases found <;> rfl

theorem handles_fieldErrorMember {underlying extensions : Value}
    (found : fieldErrorMember? underlying extensions name = some w) :
    w.handles ⊆ underlying.handles ++ extensions.handles := by
  unfold fieldErrorMember? at found
  split at found
  · cases found
    exact List.subset_append_left _ _
  · cases found
    exact List.subset_append_right _ _
  iterate 5
    cases found
    exact List.nil_subset _
  rw [handles_historyOf found]
  exact List.nil_subset _

theorem handles_recordMember {fields : List (String × Value)} (found : recordMember? fields name = some w) :
    w.handles ⊆ handlesFields fields := by
  rcases Option.or_eq_some_iff.mp found with found | ⟨_, found⟩
  · exact handles_of_field found
  · split at found
    · cases found
      rw [handles, handlesFields_entries]
      exact List.Subset.refl _
    · cases found

theorem handles_attribute (found : v.attribute? name = some w) : w.handles ⊆ v.handles := by
  have plain : w.handles = [] → w.handles ⊆ v.handles := fun none => none ▸ List.nil_subset _
  rcases Option.or_eq_some_iff.mp found with found | ⟨_, found⟩
  · cases v with
    | bool | int => exact plain (handles_integerMember found)
    | real | imaginary => exact plain (handles_complexMember found)
    | error => exact plain (handles_detail found)
    | fieldError => exact handles_fieldErrorMember found
    | record => exact handles_recordMember found
    | _ => cases found
  · exact plain (handles_described found)

end Value

namespace Store

variable {st after : Store} {v w owner : Value} {key : String} {h : Handle}

theorem handles_partOf (st : Store) (v : Value) (which : ErrorPart) : (st.partOf v which).handles ⊆ v.handles := by
  unfold partOf
  split
  · exact List.Subset.refl _
  · rw [Value.handles_errorPart]
    exact List.nil_subset _

theorem handles_formatted (st : Store) (v : Value) (message : String) (extensions : Value) :
    (st.formatted v message extensions).handles ⊆ v.handles ++ extensions.handles := by
  have said : (if message.isEmpty then Value.text "An unknown error occurred." else st.partOf v .message).handles ⊆
      v.handles := by
    split
    · exact List.nil_subset _
    · exact st.handles_partOf v .message
  unfold formatted
  dsimp only
  split
  · simp only [Value.handles, Value.handlesEntries, List.nil_append, List.append_nil]
    exact List.append_subset.mpr
      ⟨List.subset_append_of_subset_left _ said, List.subset_append_of_subset_right _ (List.Subset.refl _)⟩
  · simp only [Value.handles, Value.handlesEntries, List.nil_append, List.append_nil]
    exact List.subset_append_of_subset_left _ said

theorem handles_attribute {name : String} (found : st.attribute? v name = some w) :
    w.handles ⊆ v.handles ++ (st.look v).handles := by
  unfold attribute? at found
  dsimp only at found
  split at found
  · cases found
    exact List.subset_append_of_subset_left _ (st.handles_partOf v _)
  · split at found
    · cases found
      exact List.subset_append_left _ _
    · split at found
      · rename_i message extensions asked
        cases found
        obtain ⟨underlying, contents⟩ := Value.eq_of_response asked
        rw [contents, Value.handles]
        exact List.Subset.trans (st.handles_formatted v message extensions)
          (List.append_subset.mpr ⟨List.subset_append_left _ _,
            List.subset_append_of_subset_right _ (List.subset_append_right _ _)⟩)
      · rcases Option.or_eq_some_iff.mp found with found | ⟨_, found⟩
        · exact List.subset_append_of_subset_right _ (Value.handles_attribute found)
        · split at found
          · cases found
            exact List.subset_append_left _ _
          · cases found

theorem attribute_null {name : String} (nothing : st.look v = .null) : st.attribute? v name = none := by
  unfold attribute?
  rw [nothing]
  rfl

theorem handles_child (st : Store) (v : Value) (key : String) :
    (st.child v key).handles ⊆ v.handles ++ (st.look v).handles := by
  have item : ∀ items, (item items key).handles ⊆ Value.handlesItems items := by
    intro items
    unfold Store.item
    split
    · rename_i i _
      cases found : (position? items.length i).bind (items[·]?) with
      | none => exact List.nil_subset _
      | some v =>
          obtain ⟨k, _, there⟩ := Option.bind_eq_some_iff.mp found
          exact Value.handles_of_mem (List.mem_of_getElem? there)
    · exact List.nil_subset _
  have entry : ∀ entries, ((Value.lookup key entries).getD .null).handles ⊆ Value.handlesEntries entries := by
    intro entries
    cases found : Value.lookup key entries with
    | none => exact List.nil_subset _
    | some v => exact Value.handles_of_entry (Value.mem_of_lookup found)
  have named : ((st.attribute? v key).getD .null).handles ⊆ v.handles ++ (st.look v).handles := by
    cases found : st.attribute? v key with
    | none => exact List.nil_subset _
    | some v => exact handles_attribute found
  unfold child
  generalize st.look v = container at named
  cases container with
  | map entries => exact List.subset_append_of_subset_right _ (entry entries)
  | external data errors subschema fieldSubschemas =>
      simp only [Value.handles, List.append_assoc]
      exact List.subset_append_of_subset_right _ (List.subset_append_of_subset_left _ (entry data))
  | environment vars =>
      have texts : ∀ vars : List (String × String),
          Value.handlesEntries (vars.map fun v => (.text v.1, .text v.2)) = [] := by
        intro vars
        induction vars with
        | nil => rfl
        | cons v rest ih => exact ih
      refine List.Subset.trans (entry _) ?_
      rw [texts vars]
      exact List.nil_subset _
  | list items | tuple items => exact List.subset_append_of_subset_right _ (item items)
  | _ => exact named

theorem Reaches.mono (inside : ∀ h ∈ w.handles, h < st.cells.size → st.Reaches v h) (reached : st.Reaches w h) :
    st.Reaches v h := by
  induction reached with
  | direct member small => exact inside _ member small
  | onward _ member small ih => exact ih.onward member small

theorem reaches_look (member : h ∈ (st.look v).handles) (inside : h < st.cells.size) : st.Reaches v h := by
  cases v with
  | shared k =>
      by_cases there : k < st.cells.size
      · exact Reaches.onward (.direct List.mem_cons_self there) member inside
      · have nothing : st.get k = .null := by simp [get, there]
        simp [look, nothing, Value.handles] at member
  | part k which =>
      cases which with
      | message => simp [look, Value.handles_errorPart] at member
      | arguments => exact .direct (by simpa [look, Value.handles, Value.handlesItems] using member) inside
  | _ => exact .direct member inside

theorem reaches_child (reached : st.Reaches (st.child v key) h) : st.Reaches v h :=
  reached.mono fun _ member inside => by
    rcases List.mem_append.mp (st.handles_child v key member) with own | below
    · exact .direct own inside
    · exact reaches_look below inside

theorem read_nil (st : Store) (v : Value) : st.read v [] = v := by
  cases v <;> rfl

theorem read_cons (st : Store) (v : Value) (key : String) (rest : List String) :
    st.read v (key :: rest) = st.read (st.child v key) rest := by
  cases v with
  | null => exact (st.read_null rest).symm
  | _ => rfl

theorem reaches_read {keys : List String} (reached : st.Reaches (st.read v keys) h) : st.Reaches v h := by
  induction keys generalizing v with
  | nil => rwa [read_nil] at reached
  | cons key rest ih =>
      rw [read_cons] at reached
      exact reaches_child (ih reached)

/-- Whether all references that a value leads to are references to containers that are there. -/
structure Closed (st : Store) (v : Value) : Prop where
  own : ∀ h ∈ v.handles, h < st.cells.size
  onward : ∀ k, st.Reaches v k → ∀ h ∈ (st.get k).handles, h < st.cells.size

theorem Closed.look (closed : st.Closed v) : ∀ h ∈ (st.look v).handles, h < st.cells.size := by
  intro h member
  cases v with
  | shared k =>
      have here : k ∈ (Value.shared k).handles := List.mem_cons_self
      exact closed.onward k (.direct here (closed.own k here)) h member
  | part k which =>
      cases which with
      | message => simp [Store.look, Value.handles_errorPart] at member
      | arguments => exact closed.own h (by simpa [Store.look, Value.handles, Value.handlesItems] using member)
  | _ => exact closed.own h member

theorem Closed.below (closed : st.Closed v) (below : w.handles ⊆ (st.look v).handles) : st.Closed w where
  own h member := closed.look h (below member)
  onward k reached := closed.onward k <| reached.mono fun _ member inside => reaches_look (below member) inside

theorem Closed.child (closed : st.Closed v) (key : String) : st.Closed (st.child v key) where
  own h member := by
    rcases List.mem_append.mp (st.handles_child v key member) with own | below
    · exact closed.own h own
    · exact closed.look h below
  onward k reached := closed.onward k (reaches_child reached)

theorem child_congr (isContained : Path.isContainer (st.look v) = true) (same : after.look w = st.look v)
    (key : String) : after.child w key = st.child v key := by
  simp only [child, same]
  generalize st.look v = container at isContained
  cases container <;> first | rfl | cases isContained

theorem look_kept (closed : st.Closed v) (kept : st.Keeps v after) : after.look v = st.look v := by
  have same : ∀ k ∈ v.handles, after.get k = st.get k := fun k member => kept k (.direct member (closed.own k member))
  cases v with
  | shared k => exact same k List.mem_cons_self
  | part k which => cases which <;> simp [look, same k List.mem_cons_self]
  | _ => rfl

theorem attribute_kept (closed : st.Closed v) (kept : st.Keeps v after) (name : String) :
    after.attribute? v name = st.attribute? v name := by
  have same := look_kept closed kept
  have part : ∀ which, after.partOf v which = st.partOf v which := by
    intro which
    cases v <;> simp only [partOf, same]
  have further : ∀ {message extensions}, (st.look v).response? name = some (message, extensions) →
      after.look extensions = st.look extensions := by
    intro message extensions asked
    obtain ⟨underlying, contents⟩ := Value.eq_of_response asked
    have below : extensions.handles ⊆ (st.look v).handles := by
      rw [contents, Value.handles]
      exact List.subset_append_right _ _
    exact look_kept (closed.below below) fun h reached =>
      kept h (reached.mono fun _ member inside => reaches_look (below member) inside)
  unfold attribute?
  dsimp only
  rw [same]
  split
  · rw [part]
  · split
    · rfl
    · split
      · rename_i asked
        simp only [formatted, further asked, part]
      · rfl

theorem child_kept (closed : st.Closed v) (kept : st.Keeps v after) (key : String) :
    after.child v key = st.child v key := by
  unfold child
  dsimp only
  rw [look_kept closed kept, attribute_kept closed kept]

/-- Every path leads to the same in a store that keeps the value that it starts from. -/
theorem read_kept {keys : List String} (closed : st.Closed v) (kept : st.Keeps v after) :
    after.read v keys = st.read v keys := by
  induction keys generalizing v with
  | nil => rw [read_nil, read_nil]
  | cons key rest ih =>
      rw [read_cons, read_cons, child_kept closed kept]
      exact ih (closed.child key) fun h reached => kept h (reaches_child reached)

section Writing

open GraphGateway.Path

theorem child_of_next {below : Value} (found : next (st.look owner) key = .ok below) : st.child owner key = below := by
  unfold child
  generalize st.look owner = container at found
  cases container with
  | list items =>
      cases indexed : index key with
      | error fault => simp [next, indexed, Except.map] at found
      | ok i =>
          obtain rfl : items[i]?.getD .null = below := by simpa [next, indexed, Except.map] using found
          exact item_of_readInt (readInt_of_index indexed) items
  | map entries | external data errors subschema fieldSubschemas | environment vars => exact Except.ok.inj found
  | _ => cases found

theorem isContainer_of_assign {container changed : Value} (assigned : assign container key v = .ok changed) :
    isContainer container = true := by
  cases container <;> first | rfl | cases assigned

theorem get_assignIn (inside : h < st.cells.size) (other : owner = .shared h → isContainer (st.get h) = false) :
    (st.assignIn owner key v).store.get h = st.get h := by
  cases owner with
  | shared k =>
      have grown := st.grows_load v
      unfold assignIn
      cases assigned : assign (st.get k) key (st.load v).1 with
      | error fault => simp [assigned]
      | ok changed =>
          have apart : k ≠ h := by
            rintro rfl
            simp [isContainer_of_assign assigned] at other
          simp only [assigned]
          rw [get_set_of_ne _ apart, grown.same h inside]
  | _ =>
      unfold assignIn
      simp only
      split <;> rfl

theorem ends_apart (inside : h < st.cells.size) (apart : isContainer (st.get h) = true → ¬ st.Reaches owner h) :
    owner = .shared h → isContainer (st.get h) = false := by
  rintro rfl
  refine Bool.eq_false_iff.mpr fun container => apart container ?_
  exact .direct List.mem_cons_self inside

/-- A write changes no container but those that its owner reaches. -/
theorem get_write {keys : List String} (inside : h < st.cells.size)
    (apart : isContainer (st.get h) = true → ¬ st.Reaches owner h) :
    (st.write owner keys v).store.get h = st.get h := by
  have other := ends_apart inside apart
  induction keys generalizing owner with
  | nil => rfl
  | cons key rest ih =>
      cases rest with
      | nil => exact get_assignIn inside other
      | cons key' rest =>
          unfold write
          cases found : next (st.look owner) key with
          | error fault => rfl
          | ok below =>
              obtain rfl := child_of_next found
              have onward : (st.write (st.child owner key) (key' :: rest) v).store.get h = st.get h := by
                have apart : isContainer (st.get h) = true → ¬ st.Reaches (st.child owner key) h :=
                  fun container reached => apart container (reaches_child reached)
                exact ih apart (ends_apart inside apart)
              simp only
              split
              · split <;> exact onward
              · split
                · rfl
                · obtain ⟨fault, made⟩ := st.write_made key' rest v
                  rw [made]
                  exact get_assignIn inside other

end Writing

end Store

end GraphGateway
