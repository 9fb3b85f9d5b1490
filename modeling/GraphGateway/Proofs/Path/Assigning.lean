import GraphGateway.Proofs.Path.Assembly
import GraphGateway.Proofs.Path.Tree

/-!
# What assigning does

What is put under a key of a container is what the key leads to afterwards. What other keys lead to stays, if they are
canonical. Whether a list or a mapping takes a key does not depend on the value that is put there.
-/

namespace GraphGateway

open Number

namespace Path

variable {container changed v : Value} {key other : String}

/-- Whether a value is a list or a mapping with entries of its own. -/
inductive Branch : Value → Prop where
  | list (items : List Value) : Branch (.list items)
  | map (entries : List (Value × Value)) : Branch (.map entries)

theorem Branch.contained (branch : Branch container) : isContainer container = true := by
  cases branch <;> rfl

theorem branch_containerFor (key : String) : Branch (containerFor key) := by
  rcases containerFor_cases key with made | made
  · exact made ▸ .list []
  · exact made ▸ .map []

theorem setItem_ok {items filled : List Value} {i : Nat} (fits : setItem items i v = .ok filled) (w : Value) :
    setItem items i w = .ok (withItem items i w) := by
  cases placed : setItem items i w with
  | error fault =>
      rw [setItem_fails placed v] at fits
      cases fits
  | ok also =>
      simp only [setItem] at placed
      split at placed
      · cases placed
      · split at placed
        · cases placed
        · exact placed.symm

theorem setItem_inside {items : List Value} {i : Nat} (inside : i < items.length) (w : Value) :
    setItem items i w = .ok (withItem items i w) := by
  have nothing : i + 1 - items.length = 0 := by omega
  simp only [setItem, withItem, nothing]
  rw [if_neg (by decide), if_neg (by decide)]

theorem assign_list_ok {items : List Value} (assigned : assign (.list items) key v = .ok changed) :
    ∃ i, index key = .ok i ∧ ∀ w, assign (.list items) key w = .ok (.list (withItem items i w)) := by
  simp only [assign] at assigned
  cases indexed : index key with
  | error fault => simp [indexed, bind, Except.bind] at assigned
  | ok i =>
      cases filled : setItem items i v with
      | error fault => simp [indexed, filled, bind, Except.bind] at assigned
      | ok also =>
          refine ⟨i, rfl, fun w => ?_⟩
          simp only [assign, indexed, setItem_ok filled w, bind, Except.bind, pure, Except.pure]

theorem assign_any (branch : Branch container) (assigned : assign container key v = .ok changed) (w : Value) :
    ∃ also, assign container key w = .ok also := by
  cases branch with
  | list items =>
      obtain ⟨i, _, all⟩ := assign_list_ok assigned
      exact ⟨_, all w⟩
  | map entries => exact ⟨_, rfl⟩

theorem branch_of_null (assigned : assign container key .null = .ok changed) : Branch container := by
  cases container with
  | list items => exact .list items
  | map entries => exact .map entries
  | _ => cases assigned

theorem container_of_assign (assigned : assign container key v = .ok changed) : isContainer changed = true := by
  cases container with
  | list items =>
      obtain ⟨_, rfl⟩ := assign_list assigned
      rfl
  | map entries =>
      cases assigned
      rfl
  | environment vars =>
      cases v with
      | text s =>
          simp only [assign] at assigned
          cases set : setVariable vars key s with
          | error fault => simp [set, Except.map] at assigned
          | ok vars =>
              simp only [set, Except.map, Except.ok.injEq] at assigned
              exact assigned ▸ rfl
      | _ => cases assigned
  | _ => cases assigned

theorem putBack_assigned (assigned : assign container key v = .ok changed) : putBack container key v = changed := by
  cases container with
  | external data errors subschema fieldSubschemas => cases assigned
  | _ => simp only [putBack, assigned, Except.toOption, Option.getD_some]

theorem lookup_variables (vars : List (String × String)) (name : String) :
    Value.lookup name (vars.map fun v => (.text v.1, .text v.2)) = (vars.lookup name).map .text := by
  induction vars with
  | nil => rfl
  | cons first rest ih =>
      obtain ⟨k, s⟩ := first
      simp only [List.map_cons, Value.lookup, List.lookup_cons, ih]
      by_cases same : k = name
      · simp [same]
      · simp [same, beq_eq_false_iff_ne.mpr (Ne.symm same)]

theorem lookup_replaced {vars : List (String × String)} {name : String} (there : (vars.lookup name).isSome = true)
    (s : String) : (vars.map fun v => if v.1 = name then (name, s) else v).lookup name = some s := by
  induction vars with
  | nil => cases there
  | cons first rest ih =>
      obtain ⟨k, t⟩ := first
      rw [List.map_cons, List.lookup_cons]
      by_cases same : k = name
      · simp [same]
      · have apart : (name == k) = false := beq_eq_false_iff_ne.mpr (Ne.symm same)
        simp only [List.lookup_cons, apart] at there
        simpa [same, apart] using ih there

theorem lookup_setVariable {vars after : List (String × String)} {name s : String}
    (done : setVariable vars name s = .ok after) : after.lookup name = some s := by
  unfold setVariable at done
  split at done
  · cases done
  · split at done
    · cases done
    · split at done
      · rename_i there
        obtain rfl := Except.ok.inj done
        exact lookup_replaced there s
      · rename_i absent
        obtain rfl := Except.ok.inj done
        have nothing : vars.lookup name = none := Option.not_isSome_iff_eq_none.mp absent
        simp [List.lookup_append, nothing]

theorem child_assign (st : Store) (assigned : assign container key v = .ok changed) : st.child changed key = v := by
  cases container with
  | list items =>
      obtain ⟨i, indexed, all⟩ := assign_list_ok assigned
      obtain rfl := Except.ok.inj ((all v).symm.trans assigned)
      simp only [Store.child, Store.look, Value.entries?, Store.item_of_readInt (readInt_of_index indexed)]
      rw [getD_withItem, if_pos rfl]
  | map entries =>
      cases assigned
      simp [Store.child, Store.look, Value.entries?, Value.lookup_insert]
  | environment vars =>
      cases v with
      | text s =>
          simp only [assign] at assigned
          cases set : setVariable vars key s with
          | error fault => simp [set, Except.map] at assigned
          | ok after =>
              simp only [set, Except.map, Except.ok.injEq] at assigned
              subst assigned
              simp [Store.child, Store.look, Value.entries?, lookup_variables, lookup_setVariable set]
      | _ => cases assigned
  | _ => cases assigned

theorem child_assign_other (st : Store) (branch : Branch container) (assigned : assign container key v = .ok changed)
    (differ : key ≠ other) (first : IsCanonical key) (second : IsCanonical other) :
    st.child changed other = st.child container other := by
  cases branch with
  | list items =>
      obtain ⟨i, indexed, all⟩ := assign_list_ok assigned
      obtain rfl := Except.ok.inj ((all v).symm.trans assigned)
      simp only [Store.child, Store.look, Value.entries?]
      rcases Store.item_canonical second with nothing | ⟨j, rfl, leads⟩
      · rw [nothing, nothing]
      · obtain ⟨n, rfl, same⟩ := first.numeral (readInt_of_index indexed)
        have apart : i ≠ j := by
          rintro rfl
          exact differ (congrArg numeral (Int.ofNat.inj same).symm)
        rw [leads, leads, getD_withItem, if_neg apart]
  | map entries =>
      cases assigned
      simp [Store.child, Store.look, Value.entries?, Value.lookup_insert, differ]

theorem child_containerFor (st : Store) (key other : String) : st.child (containerFor key) other = .null := by
  rcases containerFor_cases key with made | made
  · rw [made]
    simp only [Store.child, Store.look, Value.entries?, Store.item]
    split
    · simp
    · rfl
  · rw [made]
    rfl

/-- Whether the container that is made for each key takes the key. -/
def Makes (path : List String) : Prop :=
  ∀ key ∈ path, ∃ made, assign (containerFor key) key .null = .ok made

theorem nest_made {rest : List String} (makes : Makes (key :: rest)) (v : Value) :
    assign (containerFor key) key (nest rest v) = .ok (nest (key :: rest) v) := by
  obtain ⟨_, free⟩ := makes key List.mem_cons_self
  obtain ⟨made, assigned⟩ := assign_any (branch_containerFor key) free (nest rest v)
  simp [nest, assigned, Except.toOption]

theorem withItem_nil (i : Nat) (v : Value) : withItem [] i v = List.replicate i .null ++ [v] := by
  simp [withItem, List.replicate_succ']

theorem assign_present {below : Value} (found : next container key = .ok below) (isContained : isContainer below = true)
    (inside : isContainer container = true) (w : Value) : ∃ changed, assign container key w = .ok changed := by
  cases container with
  | list items =>
      cases indexed : index key with
      | error fault => simp [next, indexed, Except.map] at found
      | ok i =>
          obtain rfl : items[i]?.getD .null = below := by simpa [next, indexed, Except.map] using found
          have short : i < items.length := by
            refine Classical.byContradiction fun beyond => ?_
            rw [List.getElem?_eq_none (Nat.not_lt.mp beyond)] at isContained
            cases isContained
          refine ⟨.list (withItem items i w), ?_⟩
          simp only [assign, indexed, setItem_inside short w, bind, Except.bind, pure, Except.pure]
  | map entries => exact ⟨_, rfl⟩
  | environment vars =>
      obtain rfl := Except.ok.inj found
      rw [lookup_variables] at isContained
      cases set : vars.lookup key <;> simp [set, isContainer] at isContained
  | _ => cases inside

end Path

end GraphGateway
