import GraphGateway.Path.Write
import GraphGateway.Proofs.Store.Growth

/-!
# Where a write lands

A write along a path changes at most one of the containers that are there before it: the last shared one
that it passes. `Store.landing?` walks to it without writing, and `Store.write_changes` says that a write does
to every container what its landing does.
-/

namespace GraphGateway

/-- A value that is put under a key of a shared container. -/
structure Landing where
  handle : Handle
  key : String
  value : Value

/-- What a landing makes of the contents of a container. -/
def Landing.change (l : Landing) (h : Handle) (contents : Value) : Value :=
  if l.handle = h then (Path.assign contents l.key l.value).toOption.getD contents else contents

/-- What landings make of the contents of a container, one after the other. -/
def Landing.changes (ls : List Landing) (h : Handle) (contents : Value) : Value :=
  ls.foldl (fun contents l => l.change h contents) contents

namespace Landing

@[simp] theorem changes_nil (h : Handle) (contents : Value) : changes [] h contents = contents :=
  rfl

@[simp] theorem changes_cons (l : Landing) (ls : List Landing) (h : Handle) (contents : Value) :
    changes (l :: ls) h contents = changes ls h (l.change h contents) :=
  rfl

@[simp] theorem changes_append (ls ms : List Landing) (h : Handle) (contents : Value) :
    changes (ls ++ ms) h contents = changes ms h (changes ls h contents) := by
  simp [changes]

theorem change_elsewhere {l : Landing} {h : Handle} (elsewhere : l.handle ≠ h) (contents : Value) :
    l.change h contents = contents := by
  simp [change, elsewhere]

theorem changes_elsewhere {ls : List Landing} {h : Handle} (elsewhere : ∀ l ∈ ls, l.handle ≠ h)
    (contents : Value) : changes ls h contents = contents := by
  induction ls generalizing contents with
  | nil => rfl
  | cons l ls ih =>
      rw [changes_cons, change_elsewhere (elsewhere l List.mem_cons_self)]
      exact ih (fun m member => elsewhere m (List.mem_cons_of_mem l member)) contents

end Landing

/-- Whether a store comes out of another one by landings and by new containers. -/
structure Store.ChangesBy (st : Store) (ls : List Landing) (after : Store) : Prop where
  size : st.cells.size ≤ after.cells.size
  contents : ∀ h < st.cells.size, after.get h = Landing.changes ls h (st.get h)

namespace Store.ChangesBy

theorem refl (st : Store) : st.ChangesBy [] st :=
  ⟨Nat.le_refl _, fun _ _ => rfl⟩

theorem trans {st middle after : Store} {ls ms : List Landing} (first : st.ChangesBy ls middle)
    (second : middle.ChangesBy ms after) : st.ChangesBy (ls ++ ms) after where
  size := Nat.le_trans first.size second.size
  contents h inside := by
    rw [second.contents h (Nat.lt_of_lt_of_le inside first.size), first.contents h inside, Landing.changes_append]

end Store.ChangesBy

namespace Path

/-- A value inside the containers that are made for the keys of a path. Where a key does not fit the
container that is made for it, the container stays empty. -/
def nest : List String → Value → Value
  | [], v => v
  | key :: rest, v => (assign (containerFor key) key (nest rest v)).toOption.getD (containerFor key)

theorem containerFor_cases (key : String) : containerFor key = .list [] ∨ containerFor key = .map [] := by
  unfold containerFor
  split
  · exact .inl rfl
  · exact .inr rfl

theorem assign_list {items : List Value} {key : String} {v container : Value}
    (placed : assign (.list items) key v = .ok container) : ∃ items, container = .list items := by
  simp only [assign] at placed
  cases indexed : index key with
  | error fault => simp [indexed, bind, Except.bind] at placed
  | ok i =>
      cases filled : setItem items i v with
      | error fault => simp [indexed, filled, bind, Except.bind] at placed
      | ok items =>
          simp only [indexed, filled, bind, Except.bind, pure, Except.pure, Except.ok.injEq] at placed
          exact ⟨items, placed.symm⟩

theorem nest_cons_ne_text (key : String) (rest : List String) (v : Value) (s : String) :
    nest (key :: rest) v ≠ .text s := by
  rcases containerFor_cases key with list | map
  · cases placed : assign (.list []) key (nest rest v) with
    | error fault => simp [nest, list, placed, Except.toOption]
    | ok container =>
        obtain ⟨items, rfl⟩ := assign_list placed
        simp [nest, list, placed, Except.toOption]
  · simp [nest, map, assign, Except.toOption]

theorem setItem_fails {items : List Value} {i : Nat} {v : Value} {fault : Fault}
    (refused : setItem items i v = .error fault) (w : Value) : setItem items i w = .error fault := by
  simp only [setItem] at refused ⊢
  split at refused
  · rename_i long
    rw [if_pos long]
    exact refused
  · rename_i short
    rw [if_neg short]
    split at refused
    · rename_i large
      rw [if_pos large]
      exact refused
    · cases refused

theorem assign_fails {container w : Value} {key : String} {fault : Fault} (notText : ∀ s, w ≠ .text s)
    (refused : assign container key .null = .error fault) : ∃ fault, assign container key w = .error fault := by
  cases container with
  | list items =>
      simp only [assign] at refused ⊢
      cases indexed : index key with
      | error fault => exact ⟨fault, rfl⟩
      | ok i =>
          cases filled : setItem items i .null with
          | error fault => exact ⟨fault, by simp [bind, Except.bind, setItem_fails filled w]⟩
          | ok items => simp [indexed, filled, bind, Except.bind, pure, Except.pure] at refused
  | map entries => cases refused
  | environment vars =>
      cases w with
      | text s => exact absurd rfl (notText s)
      | _ => exact ⟨_, rfl⟩
  | _ => exact ⟨_, rfl⟩

end Path

namespace Store

open GraphGateway.Path

/-- A write that goes no further than an owner lands in it if it is shared. -/
private def landsIn (st : Store) (owner : Value) (key : String) (v : Value) : Option Landing :=
  match owner with
  | .shared h => some ⟨h, key, (st.load v).1⟩
  | _ => none

/-- Where a write of a value along a path lands among the shared containers. -/
def landing? (st : Store) (owner : Value) (keys : List String) (v : Value) : Option Landing :=
  match keys with
  | [] => none
  | [key] => st.landsIn owner key v
  | key :: key' :: rest =>
    match next (st.look owner) key with
    | .error _ => none
    | .ok below =>
      if isContainer (st.look below) then st.landing? below (key' :: rest) v
      else st.landsIn owner key (nest (key' :: rest) v)

theorem assignIn_made (st : Store) (key key' : String) (v : Value) :
    ∃ fault, st.assignIn (containerFor key) key' v =
      ⟨(assign (containerFor key) key' v).toOption.getD (containerFor key), st, fault⟩ := by
  rcases containerFor_cases key with made | made
  · rw [made]
    cases placed : assign (.list []) key' v with
    | error fault => exact ⟨some fault, by simp [assignIn, placed, Except.toOption]⟩
    | ok container => exact ⟨none, by simp [assignIn, placed, Except.toOption]⟩
  · rw [made]
    exact ⟨none, rfl⟩

theorem write_made (st : Store) (key : String) (rest : List String) (v : Value) :
    ∃ fault, st.write (containerFor key) (key :: rest) v = ⟨nest (key :: rest) v, st, fault⟩ := by
  induction rest generalizing key with
  | nil => exact st.assignIn_made key key v
  | cons key' rest ih =>
      have unshared : st.look (containerFor key) = containerFor key := by
        rcases containerFor_cases key with made | made <;> rw [made] <;> rfl
      -- An empty container has nothing to go into, so that the write goes on in a container of its own.
      have below : next (containerFor key) key = .ok .null ∨
          ∃ fault, next (containerFor key) key = .error fault ∧
            ∀ w, assign (containerFor key) key w = .error fault := by
        rcases containerFor_cases key with made | made
        · rw [made]
          cases indexed : index key with
          | error fault =>
              refine .inr ⟨fault, by simp [next, indexed, Except.map], fun w => ?_⟩
              simp [assign, indexed, bind, Except.bind]
          | ok i => exact .inl (by simp [next, indexed, Except.map])
        · rw [made]
          exact .inl rfl
      have nested : nest (key :: key' :: rest) v =
          (assign (containerFor key) key (nest (key' :: rest) v)).toOption.getD (containerFor key) := rfl
      simp only [write, unshared, nested]
      rcases below with free | ⟨fault, blocked, refused⟩
      · simp only [free]
        cases placed : assign (containerFor key) key .null with
        | error fault =>
            obtain ⟨fault', refused⟩ := assign_fails (nest_cons_ne_text key' rest v) placed
            exact ⟨some fault, by simp [look, isContainer, refused, Except.toOption]⟩
        | ok _ =>
            obtain ⟨inner, made⟩ := ih key'
            obtain ⟨outer, assigned⟩ := st.assignIn_made key key (nest (key' :: rest) v)
            refine ⟨inner, ?_⟩
            simp [look, isContainer, made, assigned]
      · exact ⟨some fault, by simp [blocked, refused, Except.toOption]⟩

theorem assignIn_changes (st : Store) (owner : Value) (key : String) (v : Value) :
    st.ChangesBy (st.landsIn owner key v).toList (st.assignIn owner key v).store := by
  cases owner with
  | shared k =>
      have grown := st.grows_load v
      simp only [landsIn, Option.toList_some]
      cases placed : assign (st.get k) key (st.load v).1 with
      | error fault =>
          simp only [assignIn, placed]
          refine ⟨Nat.le_refl _, fun h _ => ?_⟩
          by_cases same : k = h
          · subst same
            simp [Landing.change, placed, Except.toOption]
          · simp [Landing.change, same]
      | ok container =>
          simp only [assignIn, placed]
          refine ⟨by simpa [set] using grown.size, fun h inside => ?_⟩
          by_cases same : k = h
          · subst same
            rw [get_set_self _ (Nat.lt_of_lt_of_le inside grown.size)]
            simp [Landing.change, placed, Except.toOption]
          · rw [get_set_of_ne _ same, grown.same h inside]
            simp [Landing.change, same]
  | _ =>
      simp only [assignIn, landsIn]
      split <;> exact .refl st

theorem change_refused {st : Store} {owner : Value} {key : String} {w : Value} {fault : Fault}
    (notText : ∀ s, w ≠ .text s) (refused : assign (st.look owner) key .null = .error fault) (h : Handle) :
    Landing.changes (st.landsIn owner key w).toList h (st.get h) = st.get h := by
  cases owner with
  | shared k =>
      by_cases same : k = h
      · subst same
        obtain ⟨fault, still⟩ := assign_fails (st.load_ne_text notText) refused
        have still : assign (st.get k) key (st.load w).1 = .error fault := still
        simp [landsIn, Landing.change, still, Except.toOption]
      · exact Landing.changes_elsewhere (by simpa [landsIn] using same) _
  | _ => rfl

theorem write_changes (st : Store) (owner : Value) (keys : List String) (v : Value) :
    st.ChangesBy (st.landing? owner keys v).toList (st.write owner keys v).store := by
  induction keys generalizing owner with
  | nil => exact .refl st
  | cons key rest ih =>
      cases rest with
      | nil => exact st.assignIn_changes owner key v
      | cons key' rest =>
          simp only [write, landing?]
          cases found : next (st.look owner) key with
          | error fault => exact .refl st
          | ok below =>
              by_cases container : isContainer (st.look below) = true
              · simp only [container, if_true]
                split <;> exact ih _
              · simp only [container]
                cases placed : assign (st.look owner) key .null with
                | error fault =>
                    refine ⟨Nat.le_refl _, fun h _ => ?_⟩
                    exact (change_refused (nest_cons_ne_text key' rest v) placed h).symm
                | ok _ =>
                    obtain ⟨fault, made⟩ := st.write_made key' rest v
                    simpa [made] using st.assignIn_changes owner key (nest (key' :: rest) v)

end Store

end GraphGateway
