import GraphGateway.Path.Read
import GraphGateway.Proofs.Path.Assembly

/-!
# What is in an assembled value

What parts at paths assemble to has each of them at its path and, but for null where a list is filled up, nothing
else. The same parts in another order assemble to the same, up to the order of the entries of mappings.
-/

namespace GraphGateway

open Number GraphGateway.Path

theorem Store.read_assembled (st : Store) {top : Bool} {parts : List (List String × Value)} {whole : Value}
    (assembled : Assembled top parts whole) : ∀ part ∈ parts, st.read whole part.1 = part.2 := by
  induction assembled with
  | value v =>
      intro part member
      obtain rfl := List.mem_singleton.mp member
      cases v <;> rfl
  | @map _ parts entries named fields ih =>
      rintro ⟨path, v⟩ member
      obtain ⟨name, rest, rfl⟩ := List.exists_cons_of_ne_nil (named.inside _ member)
      have there := (named.occupied name).mpr (below_ne_nil_of_mem member)
      obtain ⟨field, found⟩ := Option.isSome_iff_exists.mp there
      have child : st.child (.map entries) name = field := by simp [child, look, Value.entries?, found]
      rw [read, child]
      · exact ih name field found (rest, v) (mem_below.mpr member)
      · intro none
        cases none
  | @list parts items numbered each ih =>
      rintro ⟨path, v⟩ member
      obtain ⟨key, rest, rfl⟩ := List.exists_cons_of_ne_nil (numbered.inside _ member)
      have occupied := below_ne_nil_of_mem member
      obtain ⟨i, _, small, rfl⟩ := numbered.numbered key occupied
      have child : st.child (.list items) (numeral i) = items[i]?.getD .null := by
        simp only [child, look, Value.entries?, item_numeral items small]
      rw [read, child]
      · exact ih i occupied (rest, v) (mem_below.mpr member)
      · intro none
        cases none

namespace Path

/-- Whether a value is made of mappings with names, of lists, and of some values, with null between them in lists. -/
inductive Composed (among : Value → Prop) : Value → Prop
  | value {v : Value} (member : among v) : Composed among v
  | map {entries : List (Value × Value)} (named : ∀ e ∈ entries, ∃ name, e.1 = .text name)
      (fields : ∀ e ∈ entries, Composed among e.2) : Composed among (.map entries)
  | list {items : List Value} (each : ∀ v ∈ items, v ≠ .null → Composed among v) : Composed among (.list items)

/-- Whether two values are equal up to the order of the entries of mappings: they have the same ones of some values at
the same places. -/
inductive Reordered (among : Value → Prop) : Value → Value → Prop
  | value {v : Value} (member : among v) : Reordered among v v
  | map {xs ys : List (Value × Value)} (length : xs.length = ys.length) (distinct : (xs.map (·.1)).Nodup)
      (named : ∀ key ∈ ys.map (·.1), ∃ name, key = .text name)
      (names : ∀ key ∈ xs.map (·.1), ∃ name, key = .text name ∧ (Value.lookup name ys).isSome = true)
      (fields : ∀ name v w, Value.lookup name xs = some v → Value.lookup name ys = some w → Reordered among v w) :
      Reordered among (.map xs) (.map ys)
  | list {xs ys : List Value} (length : xs.length = ys.length)
      (each : ∀ i : Nat, xs[i]?.getD Value.null ≠ .null ∨ ys[i]?.getD Value.null ≠ .null →
        Reordered among (xs[i]?.getD .null) (ys[i]?.getD .null)) :
      Reordered among (.list xs) (.list ys)

section Contents

variable {top : Bool} {parts others : List (List String × Value)} {whole other : Value} {among : Value → Prop}

theorem among_below (values : ∀ part ∈ parts, among part.2) (key : String) : ∀ part ∈ below key parts, among part.2 :=
  fun part member => values (key :: part.1, part.2) (mem_below.mp member)

theorem composed (assembled : Assembled top parts whole) (values : ∀ part ∈ parts, among part.2) :
    Composed among whole := by
  induction assembled with
  | value v => exact .value (values _ List.mem_cons_self)
  | @map _ parts entries named fields ih =>
      refine .map (fun e member => named.named e.1 (List.mem_map_of_mem member)) fun ⟨key, v⟩ member => ?_
      obtain ⟨name, rfl⟩ := named.named key (List.mem_map_of_mem (f := (·.1)) member)
      exact ih name v (Value.lookup_of_mem named.distinct member) (among_below values name)
  | @list parts items numbered each ih =>
      refine .list fun v member some => ?_
      obtain ⟨i, found⟩ := List.mem_iff_getElem?.mp member
      have stands : items[i]?.getD .null = v := by rw [found]; rfl
      have occupied : below (numeral i) parts ≠ [] := fun vacant => some (stands ▸ numbered.gap i vacant)
      exact stands ▸ ih i occupied (among_below values (numeral i))

theorem ne_nil_of_perm {α : Type} {xs ys : List α} (perm : xs.Perm ys) : xs ≠ [] ↔ ys ≠ [] :=
  not_congr ⟨fun none => (none ▸ perm).nil_eq.symm, fun none => (none ▸ perm).eq_nil⟩

theorem Named.length_le {entries entries' : List (Value × Value)} (named : Named top parts entries)
    (again : Named top others entries') (perm : parts.Perm others) : entries.length ≤ entries'.length := by
  have covered : entries.map (·.1) ⊆ entries'.map (·.1) := by
    intro key member
    obtain ⟨name, rfl⟩ := named.named key member
    have occupied := (named.occupied name).mp ((Value.lookup_isSome_iff entries name).mpr member)
    have there := (again.occupied name).mpr ((ne_nil_of_perm (below_perm perm)).mp occupied)
    exact (Value.lookup_isSome_iff entries' name).mp there
  simpa using named.distinct.length_le_of_subset covered

theorem Numbered.length_le {items items' : List Value} (numbered : Numbered parts items)
    (again : Numbered others items') (perm : parts.Perm others) : items.length ≤ items'.length := by
  cases length : items.length with
  | zero => exact Nat.zero_le _
  | succ i =>
      have occupied := (ne_nil_of_perm (below_perm perm)).mp (numbered.last i length)
      obtain ⟨j, short, _, same⟩ := again.numbered (numeral i) occupied
      rw [numeral_injective same]
      exact short

theorem Named.not_numbered {entries : List (Value × Value)} {items : List Value} (named : Named false parts entries)
    (numbered : Numbered others items) (perm : parts.Perm others) (some : parts ≠ []) : False := by
  obtain ⟨key, rest, v, member⟩ := exists_first named.inside some
  have name := named.nondigital rfl key (below_ne_nil_of_mem member)
  obtain ⟨i, _, _, rfl⟩ := numbered.numbered key (below_ne_nil_of_mem (perm.mem_iff.mp member))
  rw [isDigits_numeral] at name
  cases name

theorem reordered (assembled : Assembled top parts whole) (again : Assembled top others other)
    (perm : parts.Perm others) (some : top = true ∨ parts ≠ []) (values : ∀ part ∈ parts, among part.2) :
    Reordered among whole other := by
  induction assembled generalizing others other with
  | value v =>
      obtain rfl := List.singleton_perm.mp perm
      cases again with
      | value => exact .value (values _ List.mem_cons_self)
      | map named => exact absurd rfl (named.inside _ List.mem_cons_self)
      | list numbered => exact absurd rfl (numbered.inside _ List.mem_cons_self)
  | @map top parts entries named fields ih =>
      cases again with
      | value w => exact absurd rfl (named.inside _ (perm.mem_iff.mpr List.mem_cons_self))
      | list numbered => exact (named.not_numbered numbered perm (some.resolve_left nofun)).elim
      | @map _ _ entries' named' fields' =>
          have length := Nat.le_antisymm (named.length_le named' perm) (named'.length_le named perm.symm)
          refine .map length named.distinct named'.named (fun key member => ?_) fun name v w found found' => ?_
          · obtain ⟨name, rfl⟩ := named.named key member
            have occupied := (named.occupied name).mp ((Value.lookup_isSome_iff entries name).mpr member)
            exact ⟨name, rfl, (named'.occupied name).mpr ((ne_nil_of_perm (below_perm perm)).mp occupied)⟩
          · have occupied := (named.occupied name).mp (by simp [found])
            exact ih name v found (fields' name w found') (below_perm perm) (.inr occupied) (among_below values name)
  | @list parts items numbered each ih =>
      cases again with
      | value w => exact absurd rfl (numbered.inside _ (perm.mem_iff.mpr List.mem_cons_self))
      | map named =>
          have some' := (ne_nil_of_perm perm).mp (some.resolve_left nofun)
          exact (named.not_numbered numbered perm.symm some').elim
      | @list _ items' numbered' each' =>
          refine .list (Nat.le_antisymm (numbered.length_le numbered' perm) (numbered'.length_le numbered perm.symm))
            fun i either => ?_
          have occupied : below (numeral i) parts ≠ [] := by
            intro vacant
            have vacant' : below (numeral i) others = [] := (vacant ▸ below_perm perm).nil_eq.symm
            exact either.elim (fun some => some (numbered.gap i vacant)) fun some => some (numbered'.gap i vacant')
          have occupied' := (ne_nil_of_perm (below_perm perm)).mp occupied
          exact ih i occupied (each' i occupied') (below_perm perm) (.inr occupied) (among_below values (numeral i))

end Contents

end Path

section Equality

theorem Value.depth_item {items : List Value} {v : Value} (member : v ∈ items) :
    v.depth < (Value.list items).depth := by
  have bound : v.depth ≤ Value.depthItems items := by
    induction items with
    | nil => cases member
    | cons w rest ih =>
        rw [Value.depthItems]
        rcases List.mem_cons.mp member with rfl | later
        · exact Nat.le_max_left _ _
        · exact Nat.le_trans (ih later) (Nat.le_max_right _ _)
  rw [Value.depth]
  omega

theorem Value.depth_entry {entries : List (Value × Value)} {e : Value × Value} (member : e ∈ entries) :
    e.2.depth < (Value.map entries).depth := by
  have bound : e.2.depth ≤ Value.depthEntries entries := by
    induction entries with
    | nil => cases member
    | cons f rest ih =>
        rw [Value.depthEntries]
        rcases List.mem_cons.mp member with rfl | later
        · exact Nat.le_trans (Nat.le_max_right _ _) (Nat.le_max_left _ _)
        · exact Nat.le_trans (ih later) (Nat.le_max_right _ _)
  rw [Value.depth]
  omega

namespace Store

variable (st : Store)

theorem depth_le (v : Value) : v.depth + 1 ≤ st.depth v := by
  have grows : ∀ (cells : List Value) n, n ≤ cells.foldl (fun n cell => n + cell.depth + 1) n := by
    intro cells
    induction cells with
    | nil => exact Nat.le_refl
    | cons cell rest ih => exact fun n => Nat.le_trans (by omega) (ih (n + cell.depth + 1))
  rw [depth, ← Array.foldl_toList]
  exact grows _ _

/-- Whether a value counts as the same as itself, however deep it is compared. What is held by reference does, and so
does every scalar but a number that is no number. -/
def Reflexive (v : Value) : Prop :=
  ∀ n, (identical v v || st.equalWithin false (n + 2) v v) = true

theorem same_names (a b : String) (n : Nat) :
    (identical (.text a) (.text b) || st.equalWithin true (n + 1) (.text a) (.text b)) = decide (a = b) := by
  simp only [identical, equalWithin, look]
  cases decide (a = b) <;> simp

/-- Among names, a name finds its own entry. -/
theorem find_name {ys : List (Value × Value)} (named : ∀ key ∈ ys.map (·.1), ∃ name, key = .text name) (name : String)
    (n : Nat) :
    (ys.find? fun y => identical y.1 (.text name) || st.equalWithin true (n + 1) y.1 (.text name)) =
      (Value.lookup name ys).map fun v => (.text name, v) := by
  induction ys with
  | nil => rfl
  | cons y rest ih =>
      obtain ⟨key, v⟩ := y
      obtain ⟨other, rfl⟩ := named key List.mem_cons_self
      have onward := ih fun key member => named key (List.mem_cons_of_mem _ member)
      rw [List.find?_cons, same_names, onward, Value.lookup]
      by_cases same : other = name
      · subst same
        simp
      · simp [same]

theorem same_of_reordered {among : Value → Prop} (reflexive : ∀ v, among v → st.Reflexive v) {v w : Value}
    (reordered : Reordered among v w) {n : Nat} (enough : v.depth + 2 ≤ n) :
    (identical v w || st.equalWithin false n v w) = true := by
  induction reordered generalizing n with
  | value member =>
      obtain ⟨k, rfl⟩ := Nat.exists_eq_add_of_le' (Nat.le_trans (Nat.le_add_left 2 _) enough)
      exact reflexive _ member k
  | @map xs ys length distinct named names fields ih =>
      obtain ⟨k, rfl⟩ := Nat.exists_eq_add_of_le' (Nat.le_trans (Nat.le_add_left 2 _) enough)
      rw [Bool.or_eq_true]
      refine .inr (equalWithin_maps length fun x member => ?_)
      obtain ⟨key, field⟩ := x
      obtain ⟨name, rfl, there⟩ := names key (List.mem_map_of_mem (f := (·.1)) member)
      obtain ⟨w, found⟩ := Option.isSome_iff_exists.mp there
      refine ⟨(.text name, w), ?_, ?_⟩
      · rw [st.find_name named, found]
        rfl
      · have shallow := Value.depth_entry member
        exact ih name field w (Value.lookup_of_mem distinct member) found (by simp only at shallow; omega)
  | @list xs ys length each ih =>
      obtain ⟨k, rfl⟩ := Nat.exists_eq_add_of_le' (Nat.le_trans (Nat.le_add_left 2 _) enough)
      rw [Bool.or_eq_true]
      refine .inr (equalWithin_lists length fun i inside => ?_)
      by_cases nulls : xs[i]?.getD .null = .null ∧ ys[i]?.getD .null = .null
      · rw [nulls.1, nulls.2]
        rfl
      · have shallow : (xs[i]?.getD .null).depth < (Value.list xs).depth := by
          rw [List.getElem?_eq_getElem inside]
          exact Value.depth_item (List.getElem_mem inside)
        exact ih i (Classical.not_and_iff_not_or_not.mp nulls) (by omega)

theorem equal_of_reordered {among : Value → Prop} (reflexive : ∀ v, among v → st.Reflexive v)
    {xs ys : List (Value × Value)} (reordered : Reordered among (.map xs) (.map ys)) :
    st.equal (.map xs) (.map ys) = true := by
  have deep := st.depth_le (.map xs)
  have deep' := st.depth_le (.map ys)
  exact st.same_of_reordered reflexive reordered (n := st.depth (.map xs) + st.depth (.map ys)) (by omega)

end Store

end Equality

end GraphGateway
