import GraphGateway.Proofs.Path.Assigning

/-!
# What a write puts in place

A write along a path of a tree puts its value at the end of the path, and nothing anywhere else: what another path
leads to stays what it was, unless a leaf stood in the way of the write.
-/

namespace GraphGateway.Store

open GraphGateway.Path

variable {st after : Store} {owner v w : Value} {key other : String} {path rest : List String}

/-- Whether a value is moved into any store as it is: it has no container of its own. -/
def Settled (v : Value) : Prop :=
  ∀ st : Store, st.load v = (v, st)

theorem loadItems_padded (st : Store) (n : Nat) (v : Value) :
    st.loadItems (List.replicate n .null ++ [v]) = (List.replicate n .null ++ [(st.load v).1], (st.load v).2) := by
  induction n with
  | zero => rfl
  | succ n ih => simp only [List.replicate_succ, List.cons_append, loadItems, load, ih]

theorem load_made (st : Store) {made : Value} (assigned : assign (containerFor key) key v = .ok made) :
    ∃ moved, assign (containerFor key) key (st.load v).1 = .ok moved ∧
      st.load made = (.shared (st.load v).2.cells.size, ((st.load v).2.alloc moved).2) := by
  rcases containerFor_cases key with list | map
  · rw [list] at assigned ⊢
    obtain ⟨i, _, all⟩ := assign_list_ok assigned
    obtain rfl := Except.ok.inj ((all v).symm.trans assigned)
    refine ⟨_, all _, ?_⟩
    simp only [load, withItem_nil, loadItems_padded]
    rfl
  · rw [map] at assigned ⊢
    obtain rfl := Except.ok.inj assigned
    exact ⟨_, rfl, rfl⟩

/-- Whether a value has another one at the end of a path, and nothing along paths that part from it. -/
def Nested (st : Store) : List String → Value → Value → Prop
  | [], v, w => w = v
  | key :: rest, v, w =>
    Nested st rest v (st.child w key) ∧
      ∀ other, key ≠ other → IsCanonical key → IsCanonical other → st.child w other = .null

theorem Nested.read (nested : st.Nested path v w) : st.read w path = v := by
  induction path generalizing w with
  | nil =>
      obtain rfl := nested
      exact st.read_nil w
  | cons key rest ih =>
      rw [read_cons]
      exact ih nested.1

theorem Nested.read_other {common : List String} (nested : st.Nested (common ++ key :: rest) v w)
    (differ : key ≠ other) (first : IsCanonical key) (second : IsCanonical other) (rest' : List String) :
    st.read w (common ++ other :: rest') = .null := by
  induction common generalizing w with
  | nil =>
      rw [List.nil_append, read_cons, nested.2 other differ first second, read_null]
  | cons c common ih =>
      rw [List.cons_append, read_cons]
      exact ih nested.1

theorem nested_child {made : Value} (assigned : assign (containerFor key) key w = .ok made)
    (onward : st.Nested rest v w) (same : st.look owner = made) : st.Nested (key :: rest) v owner := by
  have leads : ∀ k, st.child owner k = st.child made k := by
    intro k
    have isContained := container_of_assign assigned
    have contents := st.look_container isContained
    exact child_congr (contents.symm ▸ isContained) (same.trans contents.symm) k
  refine ⟨?_, fun other differ first second => ?_⟩
  · rw [leads, child_assign st assigned]
    exact onward
  · rw [leads, child_assign_other st (branch_containerFor key) assigned differ first second, child_containerFor]

theorem nested_nest (st : Store) (makes : Makes path) (v : Value) : st.Nested path v (nest path v) := by
  induction path with
  | nil => rfl
  | cons key rest ih =>
      have assigned := nest_made makes v
      refine nested_child assigned (ih fun k member => makes k (List.mem_cons_of_mem _ member)) ?_
      exact st.look_container (container_of_assign assigned)

/-- It still is when these are moved into a store, whatever becomes of the containers that were there before. -/
theorem nested_load (makes : Makes path) (settled : Settled v)
    (same : ∀ h, st.cells.size ≤ h → h < (st.load (nest path v)).2.cells.size →
      after.get h = (st.load (nest path v)).2.get h) :
    after.Nested path v (st.load (nest path v)).1 := by
  induction path with
  | nil =>
      rw [nest, settled st]
      rfl
  | cons key rest ih =>
      obtain ⟨moved, assigned, loaded⟩ := st.load_made (nest_made makes v)
      have grown := st.grows_load (nest rest v)
      generalize whole : st.load (nest (key :: rest) v) = result at same loaded
      subst loaded
      refine nested_child assigned (ih (fun k member => makes k (List.mem_cons_of_mem _ member)) fun h fresh inside => ?_) ?_
      · rw [same h fresh (by simp [alloc]; omega), (grows_alloc _ _).same h inside]
      · rw [look, same _ grown.size (by simp [alloc])]
        simp [alloc, get]

/-- What assigning without a fault does: to a shared container, after the value is moved into the store, or to a
container that its owner has. -/
theorem assignIn_cases (done : (st.assignIn owner key w).fault = none) :
    (∃ k changed, owner = .shared k ∧ assign (st.get k) key (st.load w).1 = .ok changed ∧
        st.assignIn owner key w = ⟨owner, (st.load w).2.set k changed, none⟩) ∨
      isContainer owner = true ∧ ∃ changed, assign owner key w = .ok changed ∧
        st.assignIn owner key w = ⟨changed, st, none⟩ := by
  cases owner with
  | shared k =>
      cases assigned : assign (st.get k) key (st.load w).1 with
      | error fault => simp [assignIn, assigned] at done
      | ok changed => exact .inl ⟨k, changed, rfl, assigned, by simp [assignIn, assigned]⟩
  | list items | map entries | environment vars =>
      refine .inr ⟨rfl, ?_⟩
      unfold assignIn at done ⊢
      simp only at done ⊢
      split at done
      · rename_i changed assigned
        exact ⟨changed, assigned, by simp⟩
      · cases done
  | _ => simp [assignIn, assign] at done

/-- What becomes of the owner of a write that goes on in what stands under a key: it stays, if that is shared, and gets
back what became of that otherwise. -/
def carried (owner : Value) (key : String) (below after : Value) : Value :=
  match below with
  | .shared _ => owner
  | _ => putBack owner key after

/-- The first step of a write that succeeds: it puts what is left of the path into its owner, or goes on in the
container that stands under the first key. -/
inductive Step (st : Store) (owner : Value) (key : String) (rest : List String) (v : Value) : Prop where
  | lands (free : rest = [] ∨ isContainer (st.look (st.child owner key)) = false) (makes : Makes rest)
      (done : (st.assignIn owner key (nest rest v)).fault = none)
      (written : st.write owner (key :: rest) v = st.assignIn owner key (nest rest v))
  | passes (found : next (st.look owner) key = .ok (st.child owner key))
      (isContained : isContainer (st.look (st.child owner key)) = true)
      (done : (st.write (st.child owner key) rest v).fault = none)
      (written : st.write owner (key :: rest) v =
        ⟨carried owner key (st.child owner key) (st.write (st.child owner key) rest v).owner,
          (st.write (st.child owner key) rest v).store, none⟩)

theorem assigned_made (done : (st.assignIn (containerFor key) key w).fault = none) :
    ∃ made, assign (containerFor key) key .null = .ok made := by
  rcases assignIn_cases done with ⟨k, _, shared, _⟩ | ⟨_, _, assigned, _⟩
  · rcases containerFor_cases key with made | made <;> rw [made] at shared <;> cases shared
  · exact assign_any (branch_containerFor key) assigned .null

theorem done_of_null {made : Value} (free : assign (st.look owner) key .null = .ok made) (w : Value) :
    (st.assignIn owner key w).fault = none := by
  have branch := branch_of_null free
  rcases shared_or_container branch.contained with ⟨k, rfl⟩ | isContained
  · obtain ⟨changed, assigned⟩ := assign_any branch free (st.load w).1
    have assigned : assign (st.get k) key (st.load w).1 = .ok changed := assigned
    simp [assignIn, assigned]
  · rw [st.look_container isContained] at branch free
    obtain ⟨changed, assigned⟩ := assign_any branch free w
    cases branch <;> simp [assignIn, assigned]

/-- Every write that succeeds takes such a first step. -/
theorem write_step (placed : (st.write owner (key :: rest) v).fault = none) : st.Step owner key rest v := by
  induction rest generalizing owner key with
  | nil => exact .lands (.inl rfl) nofun placed rfl
  | cons key' rest ih =>
      unfold write at placed
      cases found : next (st.look owner) key with
      | error fault => simp [found] at placed
      | ok below =>
          obtain rfl := child_of_next found
          simp only [found] at placed
          by_cases isContained : isContainer (st.look (st.child owner key)) = true
          · simp only [isContained, if_true] at placed
            have done : (st.write (st.child owner key) (key' :: rest) v).fault = none := by
              split at placed <;> exact placed
            refine .passes found isContained done ?_
            rw [write]
            simp only [found, isContained, if_true, ← done]
            generalize st.child owner key = below
            cases below <;> rfl
          · obtain ⟨fault, made⟩ := st.write_made key' rest v
            simp only [isContained] at placed
            cases free : assign (st.look owner) key .null with
            | error fault => simp [free] at placed
            | ok _ =>
                obtain rfl : fault = none := by simpa [free, made] using placed
                have done := done_of_null free (nest (key' :: rest) v)
                have makes : Makes (key' :: rest) := by
                  have first := @ih (containerFor key') key' (by rw [made])
                  cases first with
                  | passes _ isContained _ _ =>
                      rw [child_containerFor] at isContained
                      cases isContained
                  | lands _ makes done _ => exact List.forall_mem_cons.mpr ⟨assigned_made done, makes⟩
                refine .lands (.inr (by simpa using isContained)) makes done ?_
                rw [write]
                simp only [found, isContained, free, made]
                simp [← done]

theorem write_shared (st : Store) (h : Handle) (keys : List String) (v : Value) :
    (st.write (.shared h) keys v).owner = .shared h := by
  have assigned : ∀ (st : Store) key w, (st.assignIn (.shared h) key w).owner = .shared h := by
    intro st key w
    simp only [assignIn]
    split <;> rfl
  cases keys with
  | nil => rfl
  | cons key rest =>
      cases rest with
      | nil => exact assigned st key v
      | cons key' rest =>
          unfold write
          cases next (st.look (.shared h)) key with
          | error fault => rfl
          | ok below =>
              simp only
              split
              · split <;> rfl
              · split
                · rfl
                · exact assigned _ _ _

/-- Whether a value can be put into a tree as it is: it has no container of its own, or the tree no shared one. -/
def Enters (st : Store) (owner v : Value) : Prop :=
  Settled v ∨ ∀ h, st.Reaches owner h → isContainer (st.get h) = false

theorem Enters.of_handles (plain : owner.handles = []) : st.Enters owner v :=
  .inr fun h reached => absurd reached (not_reaches plain h)

theorem Enters.child (enters : st.Enters owner v) (key : String) : st.Enters (st.child owner key) v :=
  enters.imp_right fun unshared h reached => unshared h (reaches_child reached)

theorem child_set (after : Store) {k : Handle} {changed : Value} (inside : k < st.cells.size)
    (isContained : isContainer changed = true) (key : String) :
    (st.set k changed).child (.shared k) key = after.child changed key := by
  have contents := after.look_container isContained
  refine child_congr (contents.symm ▸ isContained) ?_ key
  rw [contents]
  exact get_set_self st inside changed

section Landing

variable (closed : st.Closed owner) (done : (st.assignIn owner key (nest rest v)).fault = none)
include closed done

theorem landed_here (isContained : isContainer (st.look owner) = true) (enters : st.Enters owner v) (makes : Makes rest) :
    (st.assignIn owner key (nest rest v)).store.Nested rest v
      ((st.assignIn owner key (nest rest v)).store.child (st.assignIn owner key (nest rest v)).owner key) := by
  rcases assignIn_cases done with ⟨k, changed, rfl, assigned, written⟩ | ⟨_, changed, assigned, written⟩
  · have inside : k < st.cells.size := closed.own k List.mem_cons_self
    have grown : k < (st.load (nest rest v)).2.cells.size :=
      Nat.lt_of_lt_of_le inside (st.grows_load (nest rest v)).size
    have settled : Settled v := by
      refine enters.resolve_right fun unshared => ?_
      have plain : isContainer (st.get k) = false := unshared k (.direct List.mem_cons_self inside)
      rw [isContainer_of_assign assigned] at plain
      cases plain
    rw [written, child_set st grown (container_of_assign assigned), child_assign st assigned]
    refine nested_load makes settled fun h fresh _ => get_set_of_ne _ ?_ changed
    exact Nat.ne_of_lt (Nat.lt_of_lt_of_le inside fresh)
  · rw [written, child_assign st assigned]
    exact st.nested_nest makes v

/-- What the other keys of its owner lead to stays. -/
theorem landed_elsewhere (branch : Branch (st.look owner)) (differ : key ≠ other) (first : IsCanonical key)
    (second : IsCanonical other) :
    (st.assignIn owner key (nest rest v)).store.child (st.assignIn owner key (nest rest v)).owner other =
      st.child owner other := by
  rcases assignIn_cases done with ⟨k, changed, rfl, assigned, written⟩ | ⟨isContained, changed, assigned, written⟩
  · have inside : k < (st.load (nest rest v)).2.cells.size :=
      Nat.lt_of_lt_of_le (closed.own k List.mem_cons_self) (st.grows_load (nest rest v)).size
    rw [written]
    calc ((st.load (nest rest v)).2.set k changed).child (.shared k) other
      _ = st.child changed other := child_set st inside (container_of_assign assigned) other
      _ = st.child (st.get k) other := child_assign_other st branch assigned differ first second
      _ = st.child (.shared k) other := child_congr branch.contained (st.look_container branch.contained) other
  · rw [st.look_container isContained] at branch
    rw [written]
    exact child_assign_other st branch assigned differ first second

end Landing

section Passing

variable (tree : st.Tree owner) (closed : st.Closed owner) (isContained : isContainer (st.look owner) = true)
include tree closed isContained

theorem look_passed (w : Value) (keys : List String) :
    (st.write (st.child owner key) keys w).store.look owner = st.look owner := by
  rcases shared_or_container isContained with ⟨k, rfl⟩ | owned
  · have inside : k < st.cells.size := closed.own k List.mem_cons_self
    exact get_write inside fun contained => (tree.shared_child contained key).2
  · rw [look_container _ owned, look_container _ owned]

variable (found : next (st.look owner) key = .ok (st.child owner key))
  (below : isContainer (st.look (st.child owner key)) = true) (passed : st.write owner (key :: rest) v =
    ⟨carried owner key (st.child owner key) (st.write (st.child owner key) rest v).owner,
      (st.write (st.child owner key) rest v).store, none⟩)
include found below passed

/-- A write that goes on below a key leaves its owner as it is, if what stands there is shared, and puts what became of
that in its place otherwise. -/
theorem passed_owner :
    (∃ h, st.child owner key = .shared h) ∧ (st.write owner (key :: rest) v).owner = owner ∨
      isContainer owner = true ∧
        assign owner key (st.write (st.child owner key) rest v).owner =
          .ok (st.write owner (key :: rest) v).owner := by
  rcases shared_or_container below with ⟨h, shared⟩ | owned
  · refine .inl ⟨⟨h, shared⟩, ?_⟩
    rw [passed, shared, carried]
  · have inside : isContainer owner = true := by
      rcases shared_or_container isContained with ⟨k, rfl⟩ | inside
      · rw [(tree.shared_child isContained key).1] at owned
        cases owned
      · exact inside
    rw [st.look_container inside] at found
    obtain ⟨changed, assigned⟩ := assign_present found owned inside (st.write (st.child owner key) rest v).owner
    refine .inr ⟨inside, ?_⟩
    rw [passed, assigned, ← putBack_assigned assigned]
    generalize st.child owner key = stands at owned
    cases stands with
    | shared h => cases owned
    | _ => rfl

theorem passed_here :
    (st.write owner (key :: rest) v).store.child (st.write owner (key :: rest) v).owner key =
      (st.write (st.child owner key) rest v).owner := by
  rcases passed_owner tree closed isContained found below passed with ⟨⟨h, shared⟩, same⟩ | ⟨_, assigned⟩
  · rw [same, passed, shared, write_shared, ← shared]
    exact child_congr isContained (look_passed tree closed isContained v rest) key
  · exact child_assign _ assigned

theorem passed_elsewhere (branch : Branch (st.look owner)) (differ : key ≠ other) (first : IsCanonical key)
    (second : IsCanonical other) :
    (st.write owner (key :: rest) v).store.child (st.write owner (key :: rest) v).owner other = st.child owner other := by
  rcases passed_owner tree closed isContained found below passed with ⟨⟨h, shared⟩, same⟩ | ⟨owned, assigned⟩
  · rw [same, passed]
    exact child_congr isContained (look_passed tree closed isContained v rest) other
  · rw [st.look_container owned] at branch
    rw [child_assign_other _ branch assigned differ first second]
    exact child_congr isContained (by rw [look_container _ owned, look_container _ owned]) other

end Passing

theorem read_write (tree : st.Tree owner) (closed : st.Closed owner) (isContained : isContainer (st.look owner) = true)
    (enters : st.Enters owner v) (placed : (st.write owner path v).fault = none) :
    (st.write owner path v).store.read (st.write owner path v).owner path = v := by
  induction path generalizing owner with
  | nil => cases placed
  | cons key rest ih =>
      rw [read_cons]
      cases write_step placed with
      | lands _ makes done written =>
          rw [written]
          exact (landed_here closed done isContained enters makes).read
      | passes found below done passed =>
          rw [passed_here tree closed isContained found below passed]
          have onward := ih (tree.child isContained key) (closed.child key) below (enters.child key) done
          rwa [passed]

theorem read_of_look_null (nothing : st.look v = .null) (key : String) (rest : List String) :
    st.read v (key :: rest) = .null := by
  have child : st.child v key = .null := by
    simp only [child, nothing, attribute_null nothing]
    rfl
  rw [read_cons, child, read_null]

/-- What one key leads to stays, and keeps its contents, when a write goes to another one. -/
theorem write_elsewhere (tree : st.Tree owner) (closed : st.Closed owner) (branch : Branch (st.look owner))
    (placed : (st.write owner (key :: rest) v).fault = none) (differ : key ≠ other) (first : IsCanonical key)
    (second : IsCanonical other) :
    (st.write owner (key :: rest) v).store.child (st.write owner (key :: rest) v).owner other = st.child owner other ∧
      st.Keeps (st.child owner other) (st.write owner (key :: rest) v).store := by
  cases write_step placed with
  | lands _ _ done written =>
      rw [written]
      refine ⟨landed_elsewhere closed done branch differ first second, fun h reached => get_assignIn reached.inside ?_⟩
      rintro rfl
      exact absurd reached (tree.shared_child branch.contained other).2
  | passes found below _ passed =>
      have apart := tree.apart_child branch.contained differ first second
      refine ⟨passed_elsewhere tree closed branch.contained found below passed branch differ first second, ?_⟩
      rw [passed]
      exact fun h reached => get_write reached.inside fun contained => apart.symm h contained reached

/-- Whether every nonempty beginning of a path leads to a list, to a mapping or to nothing. -/
def Clear (st : Store) (owner : Value) (path : List String) : Prop :=
  ∀ stem, stem ≠ [] → stem <+: path →
    st.look (st.read owner stem) = .null ∨ Branch (st.look (st.read owner stem))

theorem Clear.first (clear : st.Clear owner (key :: path)) :
    st.look (st.child owner key) = .null ∨ Branch (st.look (st.child owner key)) := by
  have here := clear [key] (by simp) (by simp)
  rwa [read_cons, read_nil] at here

theorem Clear.onward (clear : st.Clear owner (key :: path)) : st.Clear (st.child owner key) path := by
  intro stem _ leads
  have onward := clear (key :: stem) (by simp) (List.cons_prefix_cons.mpr ⟨rfl, leads⟩)
  rwa [read_cons] at onward

/-- What lies along a path that parts from the one that is written along stays as it is, if there are mappings, lists
or nothing up to where they part, and the keys that part them are canonical. -/
theorem read_write_other {common : List String} (tree : st.Tree owner) (closed : st.Closed owner)
    (branch : Branch (st.look owner)) (enters : st.Enters owner v)
    (placed : (st.write owner (common ++ key :: rest) v).fault = none) (differ : key ≠ other)
    (first : IsCanonical key) (second : IsCanonical other) (clear : st.Clear owner common) (rest' : List String) :
    (st.write owner (common ++ key :: rest) v).store.read (st.write owner (common ++ key :: rest) v).owner
        (common ++ other :: rest') = st.read owner (common ++ other :: rest') ∧
      st.Keeps (st.read owner (common ++ other :: rest')) (st.write owner (common ++ key :: rest) v).store := by
  induction common generalizing owner with
  | nil =>
      obtain ⟨leads, kept⟩ := write_elsewhere tree closed branch placed differ first second
      simp only [List.nil_append, read_cons, leads]
      exact ⟨read_kept (closed.child other) kept, fun h reached => kept h (reaches_read reached)⟩
  | cons c common ih =>
      rw [List.cons_append] at placed ⊢
      rw [List.cons_append, read_cons, read_cons]
      cases write_step placed with
      | lands free makes done written =>
          -- What stands there is no container, so it is null, and the containers made in its place have only one path.
          have nothing : st.look (st.child owner c) = .null := by
            refine clear.first.resolve_right fun below => ?_
            simp [below.contained] at free
          have before : st.read (st.child owner c) (common ++ other :: rest') = .null := by
            cases common <;> exact read_of_look_null nothing _ _
          have nested := landed_here closed done branch.contained enters makes
          rw [before, written]
          exact ⟨nested.read_other differ first second rest', fun h reached => absurd reached (not_reaches rfl h)⟩
      | passes found below done passed =>
          have branch' : Branch (st.look (st.child owner c)) := by
            refine clear.first.resolve_left fun nothing => ?_
            rw [nothing] at below
            cases below
          rw [passed_here tree closed branch.contained found below passed]
          have onward := ih (tree.child branch.contained c) (closed.child c) branch' (enters.child c) done clear.onward
          rwa [passed]

/-- A write along a path of a tree gives its owner back. Afterwards the path leads to the value, and a path that parts
from it leads to what it led to before, whose contents are the same, if there are mappings, lists or nothing up to where
the paths part, and the keys that part them are canonical. -/
theorem write_places (tree : st.Tree owner) (closed : st.Closed owner) (branch : Branch (st.look owner))
    (enters : st.Enters owner v) (placed : (st.write owner path v).fault = none) :
    (∀ h, owner = .shared h → (st.write owner path v).owner = owner) ∧
      (∀ default, (st.write owner path v).store.readOr (st.write owner path v).owner path default =
        match v with
        | .null => default
        | v => v) ∧
      ∀ common key other rest rest', path = common ++ key :: rest → key ≠ other → IsCanonical key → IsCanonical other →
        st.Clear owner common →
        (∀ default, (st.write owner path v).store.readOr (st.write owner path v).owner (common ++ other :: rest') default =
            st.readOr owner (common ++ other :: rest') default) ∧
          st.Keeps (st.read owner (common ++ other :: rest')) (st.write owner path v).store := by
  refine ⟨?_, fun default => ?_, ?_⟩
  · rintro h rfl
    exact st.write_shared h path v
  · rw [readOr, read_write tree closed branch.contained enters placed]
    cases v <;> rfl
  · rintro common key other rest rest' rfl differ first second clear
    have stays := read_write_other tree closed branch enters placed differ first second clear rest'
    refine ⟨fun default => ?_, stays.2⟩
    rw [readOr, stays.1, readOr]

/-- An order with one item, of which every container is shared. -/
def order : Store where
  cells := #[.map [(.text "name", .text "books"), (.text "items", .shared 1)], .list [.shared 2],
    .map [(.text "id", .int 3)]]

def ownOrder : Value :=
  .map [(.text "name", .text "books"), (.text "items", .list [.map [(.text "id", .int 3)]])]

theorem order_rises {n : Handle} (above : ∀ h ∈ v.handles, n < h) {h : Handle} (reached : order.Reaches v h) : n < h := by
  have deeper : ∀ k, ∀ h ∈ (order.get k).handles, k < h
    | 0 | 1 | 2 => by decide
    | _ + 3 => nofun
  induction reached with
  | direct member _ => exact above _ member
  | onward _ member _ ih => exact Nat.lt_trans ih (deeper _ _ member)

theorem tree_order : order.Tree (.shared 0) := by
  have below : ∀ {n h : Handle}, n < h → isContainer (.shared h) = false ∧ ¬ order.Reaches (.shared h) n :=
    fun less => ⟨rfl, fun reached => Nat.lt_irrefl _ (order_rises (by simpa [Value.handles] using less) reached)⟩
  have item : order.Tree (.shared 2) := by
    refine .node (List.forall_mem_singleton.mpr (.of_handles rfl)) (List.pairwise_singleton ..) ?_
    rintro h ⟨⟩
    exact List.forall_mem_singleton.mpr ⟨rfl, not_reaches rfl 2⟩
  have items : order.Tree (.shared 1) := by
    refine .node (List.forall_mem_singleton.mpr item) (List.pairwise_singleton ..) ?_
    rintro h ⟨⟩
    exact List.forall_mem_singleton.mpr (below (by decide))
  refine .node (List.forall_mem_cons.mpr ⟨.of_handles rfl, List.forall_mem_singleton.mpr items⟩) ?_ ?_
  · refine List.pairwise_pair.mpr fun h _ reached => absurd reached (not_reaches rfl h)
  · rintro h ⟨⟩
    exact List.forall_mem_cons.mpr ⟨⟨rfl, not_reaches rfl 0⟩, List.forall_mem_singleton.mpr (below (by decide))⟩

theorem closed_order : order.Closed (.shared 0) where
  own := by decide
  onward
    | 0 | 1 | 2 => fun _ => by decide
    | _ + 3 => fun _ => nofun

/-- A second item is put into the order, and the first one stays. -/
theorem order_grows :
    (order.Tree (.shared 0) ∧ order.Closed (.shared 0) ∧ Branch (order.look (.shared 0)) ∧
      order.Enters (.shared 0) (.int 4) ∧
      let after := order.write (.shared 0) ["items", "1", "id"] (.int 4)
      after.fault = none ∧ after.owner = .shared 0 ∧
        after.store.readOr after.owner ["items", "1", "id"] .null = .int 4 ∧
        after.store.readOr after.owner ["items", "0", "id"] .null = .int 3) ∧
    (Store.empty.Tree ownOrder ∧ Store.empty.Closed ownOrder ∧ Branch (Store.empty.look ownOrder) ∧
      Store.empty.Enters ownOrder (.map []) ∧
      let after := Store.empty.write ownOrder ["items", "1"] (.map [])
      after.fault = none ∧ after.store.readOr after.owner ["items", "1"] .null = .map [] ∧
        after.store.readOr after.owner ["items", "0", "id"] .null = .int 3) := by
  have only : ∀ stem : List String, stem ≠ [] → stem <+: ["items"] → stem = ["items"] := by
    intro stem some leads
    rcases List.prefix_cons_iff.mp leads with none | ⟨rest, rfl, none⟩
    · exact absurd none some
    · rw [List.prefix_nil.mp none]
  constructor
  · have branch : Branch (order.look (.shared 0)) := .map _
    have enters : order.Enters (.shared 0) (.int 4) := .inl fun _ => rfl
    have placed : (order.write (.shared 0) ["items", "1", "id"] (.int 4)).fault = none := rfl
    have clear : order.Clear (.shared 0) ["items"] := fun stem some leads => only stem some leads ▸ .inr (.list _)
    obtain ⟨back, here, elsewhere⟩ := write_places tree_order closed_order branch enters placed
    have stays := elsewhere ["items"] "1" "0" ["id"] ["id"] rfl (by decide) (.inl ⟨1, rfl⟩) (.inl ⟨0, rfl⟩) clear
    exact ⟨tree_order, closed_order, branch, enters, placed, back 0 rfl, here .null, stays.1 .null⟩
  · have tree : Store.empty.Tree ownOrder := .of_handles rfl
    have closed : Store.empty.Closed ownOrder := .of_handles rfl
    have branch : Branch (Store.empty.look ownOrder) := .map _
    have enters : Store.empty.Enters ownOrder (.map []) := .of_handles rfl
    have placed : (Store.empty.write ownOrder ["items", "1"] (.map [])).fault = none := rfl
    have clear : Store.empty.Clear ownOrder ["items"] := fun stem some leads => only stem some leads ▸ .inr (.list _)
    obtain ⟨_, here, elsewhere⟩ := write_places tree closed branch enters placed
    have stays := elsewhere ["items"] "1" "0" [] ["id"] rfl (by decide) (.inl ⟨1, rfl⟩) (.inl ⟨0, rfl⟩) clear
    exact ⟨tree, closed, branch, enters, placed, here .null, stays.1 .null⟩

end GraphGateway.Store
