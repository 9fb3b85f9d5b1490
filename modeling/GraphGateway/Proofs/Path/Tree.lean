import GraphGateway.Proofs.Path.Reach

/-!
# Trees of mappings and lists

A value is a tree if there is one way only to each shared container that it reaches: none holds itself, and what a
mapping or a list holds under one key shares no container with what it holds under another.
-/

namespace GraphGateway

open Number GraphGateway.Path

def Value.held : Value → List Value
  | .list items => items
  | .map entries => entries.map (·.2)
  | _ => []

namespace Store

variable {st : Store} {v w container : Value} {key other : String} {h : Handle}

theorem look_container (st : Store) (isContained : isContainer container = true) : st.look container = container := by
  cases container <;> first | rfl | cases isContained

theorem shared_or_container (isContained : isContainer (st.look v) = true) :
    (∃ h, v = .shared h) ∨ isContainer v = true := by
  cases v with
  | shared h => exact .inl ⟨h, rfl⟩
  | part h which =>
      cases which with
      | message =>
          have noContainer : ∀ w : Value, isContainer (w.errorPart .message) = false := fun w => by cases w <;> rfl
          rw [look, noContainer] at isContained
          cases isContained
      | arguments => cases isContained
  | _ => exact .inr isContained

theorem child_held (isContained : isContainer (st.look v) = true) (key : String) :
    st.child v key ∈ (st.look v).held ∨ st.child v key = .null ∨ ∃ s, st.child v key = .text s := by
  unfold child
  generalize st.look v = container at isContained
  cases container with
  | list items =>
      simp only [Value.entries?, item]
      split
      · rename_i i _
        cases found : (position? items.length i).bind (items[·]?) with
        | none => exact .inr (.inl rfl)
        | some w =>
            obtain ⟨k, _, there⟩ := Option.bind_eq_some_iff.mp found
            exact .inl (List.mem_of_getElem? there)
      · exact .inr (.inl rfl)
  | map entries =>
      simp only [Value.entries?]
      cases found : Value.lookup key entries with
      | none => exact .inr (.inl rfl)
      | some w => exact .inl (List.mem_map_of_mem (f := (·.2)) (Value.mem_of_lookup found))
  | environment vars =>
      simp only [Value.entries?]
      cases found : Value.lookup key (vars.map fun v => (.text v.1, .text v.2)) with
      | none => exact .inr (.inl rfl)
      | some w =>
          obtain ⟨setting, _, same⟩ := List.mem_map.mp (Value.mem_of_lookup found)
          exact .inr (.inr ⟨setting.2, (Prod.mk.inj same).2.symm⟩)
  | _ => cases isContained

theorem child_pairwise {R : Value → Value → Prop} (symm : ∀ v w, R v w → R w v) (plain : ∀ v w, w.handles = [] → R v w)
    (isContained : isContainer (st.look v) = true) (apart : (st.look v).held.Pairwise R) (differ : key ≠ other)
    (first : IsCanonical key) (second : IsCanonical other) : R (st.child v key) (st.child v other) := by
  cases looked : st.look v with
  | list items =>
      rw [looked] at apart
      simp only [child, looked, Value.entries?]
      rcases item_canonical first with nothing | ⟨i, rfl, firstItem⟩
      · exact symm _ _ (plain _ _ (by rw [nothing]; rfl))
      rcases item_canonical second with nothing | ⟨j, rfl, secondItem⟩
      · exact plain _ _ (by rw [nothing]; rfl)
      rw [firstItem, secondItem]
      by_cases inside : i < items.length ∧ j < items.length
      · obtain ⟨small, also⟩ := inside
        rw [List.getElem?_eq_getElem small, List.getElem?_eq_getElem also]
        have apart := List.pairwise_iff_getElem.mp apart
        rcases Nat.lt_or_gt_of_ne fun same => differ (congrArg numeral same) with before | behind
        · exact apart i j small also before
        · exact symm _ _ (apart j i also small behind)
      · rcases Classical.not_and_iff_not_or_not.mp inside with beyond | beyond
        · exact symm _ _ (plain _ _ (by simp [List.getElem?_eq_none (Nat.not_lt.mp beyond), Value.handles]))
        · exact plain _ _ (by simp [List.getElem?_eq_none (Nat.not_lt.mp beyond), Value.handles])
  | map entries =>
      rw [looked] at apart
      simp only [child, looked, Value.entries?]
      cases found : Value.lookup key entries with
      | none => exact symm _ _ (plain _ _ rfl)
      | some x =>
          cases also : Value.lookup other entries with
          | none => exact plain _ _ rfl
          | some y => exact Value.lookup_pairwise symm apart differ found also
  | environment vars =>
      rcases child_held isContained other with member | null | ⟨s, text⟩
      · simp [looked, Value.held] at member
      · exact plain _ _ (by rw [null]; rfl)
      · exact plain _ _ (by rw [text]; rfl)
  | _ => simp [looked, isContainer] at isContained

/-- Whether two values reach no container in common. -/
def Apart (st : Store) (v w : Value) : Prop :=
  ∀ h, isContainer (st.get h) = true → st.Reaches v h → ¬ st.Reaches w h

theorem Apart.symm (apart : st.Apart v w) : st.Apart w v :=
  fun h isContained second first => apart h isContained first second

theorem not_reaches (plain : v.handles = []) (h : Handle) : ¬ st.Reaches v h := by
  intro reached
  induction reached with
  | direct member _ => simp [plain] at member
  | onward _ _ _ ih => exact ih

theorem Closed.of_handles (plain : v.handles = []) : st.Closed v where
  own := by simp [plain]
  onward k reached := absurd reached (not_reaches plain k)

/-- Whether a value is a tree of mappings and lists, with any other values as leaves. What a shared container holds is
referred to, and is no container of its own. -/
inductive Tree (st : Store) : Value → Prop where
  | node {v : Value} (each : ∀ w ∈ (st.look v).held, Tree st w) (apart : (st.look v).held.Pairwise st.Apart)
      (below : ∀ h, v = .shared h → ∀ w ∈ (st.look v).held, isContainer w = false ∧ ¬ st.Reaches w h) : Tree st v

namespace Tree

theorem of_held (plain : v.handles = []) (member : w ∈ v.held) : w.handles = [] ∧ sizeOf w < sizeOf v := by
  cases v with
  | list items =>
      have member : w ∈ items := member
      have inside := Value.handles_of_mem member
      have smaller := List.sizeOf_lt_of_mem member
      rw [Value.handles] at plain
      simp only [Value.list.sizeOf_spec]
      exact ⟨List.subset_nil.mp (plain ▸ inside), by omega⟩
  | map entries =>
      obtain ⟨⟨k, w⟩, listed, rfl⟩ := List.mem_map.mp member
      have inside := Value.handles_of_entry listed
      have smaller := List.sizeOf_lt_of_mem listed
      rw [Value.handles] at plain
      simp only [Value.map.sizeOf_spec]
      rw [Prod.mk.sizeOf_spec] at smaller
      exact ⟨List.subset_nil.mp (plain ▸ inside), by omega⟩
  | _ => cases member

theorem of_handles {v : Value} (plain : v.handles = []) : st.Tree v := by
  have looked : st.look v = v := by
    cases v <;> first | rfl | cases plain
  refine .node ?_ ?_ ?_
  · intro w member
    rw [looked] at member
    have ⟨inside, _⟩ := of_held plain member
    exact of_handles inside
  · rw [looked]
    exact List.pairwise_of_forall_mem_list fun w member _ _ h _ reached =>
      absurd reached (not_reaches (of_held plain member).1 h)
  · rintro h rfl
    cases plain
termination_by sizeOf v

theorem child (tree : st.Tree v) (isContained : isContainer (st.look v) = true) (key : String) :
    st.Tree (st.child v key) := by
  obtain ⟨each, _, _⟩ := tree
  rcases child_held isContained key with member | null | ⟨s, text⟩
  · exact each _ member
  · exact null ▸ of_handles rfl
  · exact text ▸ of_handles rfl

theorem apart_child (tree : st.Tree v) (isContained : isContainer (st.look v) = true) (differ : key ≠ other)
    (first : IsCanonical key) (second : IsCanonical other) : st.Apart (st.child v key) (st.child v other) := by
  obtain ⟨_, apart, _⟩ := tree
  exact child_pairwise (fun _ _ => Apart.symm) (fun _ _ plain h _ _ => not_reaches plain h) isContained apart differ
    first second

/-- A shared container in a tree is not reached from what it holds, which is no container of its own. -/
theorem shared_child (tree : st.Tree (.shared h)) (isContained : isContainer (st.get h) = true) (key : String) :
    isContainer (st.child (.shared h) key) = false ∧ ¬ st.Reaches (st.child (.shared h) key) h := by
  obtain ⟨_, _, below⟩ := tree
  rcases child_held (v := .shared h) isContained key with member | null | ⟨s, text⟩
  · exact below h rfl _ member
  · rw [null]
    exact ⟨rfl, not_reaches rfl h⟩
  · rw [text]
    exact ⟨rfl, not_reaches rfl h⟩

end Tree

end Store

end GraphGateway
