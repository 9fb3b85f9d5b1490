import Mathlib.Data.List.Nodup

/-!
# Lists without repetition

A list keeps the first of each of its elements, and entries whose keys are distinct are looked up as what they are.
-/

namespace GraphGateway

variable {α : Type u} {β : Type v} [BEq α]

theorem sublist_eraseDups (xs : List α) : xs.eraseDups.Sublist xs := by
  cases xs with
  | nil => exact .slnil
  | cons x rest =>
      rw [List.eraseDups_cons]
      exact ((sublist_eraseDups _).trans List.filter_sublist).cons_cons x
termination_by xs.length
decreasing_by exact Nat.lt_succ_of_le (List.length_filter_le ..)

variable [LawfulBEq α]

theorem nodup_eraseDups (xs : List α) : xs.eraseDups.Nodup := by
  cases xs with
  | nil => exact .nil
  | cons x rest =>
      rw [List.eraseDups_cons]
      refine List.nodup_cons.mpr ⟨fun again => ?_, nodup_eraseDups _⟩
      have other := (List.mem_filter.mp (List.mem_eraseDups.mp again)).2
      simp at other
termination_by xs.length
decreasing_by exact Nat.lt_succ_of_le (List.length_filter_le ..)

theorem lookup_eq_some_iff_mem {entries : List (α × β)} (distinct : (entries.map (·.1)).Nodup) {key : α} {value : β} :
    entries.lookup key = some value ↔ (key, value) ∈ entries := by
  induction entries with
  | nil => simp
  | cons e rest ih =>
      obtain ⟨k, v⟩ := e
      obtain ⟨absent, others⟩ := List.nodup_cons.mp distinct
      rw [List.lookup_cons, List.mem_cons]
      by_cases same : key = k
      · subst same
        have none : (key, value) ∉ rest := fun member => absent (List.mem_map.mpr ⟨_, member, rfl⟩)
        simp [none, eq_comm]
      · have other : (key == k) = false := beq_eq_false_iff_ne.mpr same
        simp [other, same, ih others]

theorem eq_of_mem_of_nodup {entries : List (α × β)} (distinct : (entries.map (·.1)).Nodup) {key : α} {a b : β}
    (first : (key, a) ∈ entries) (second : (key, b) ∈ entries) : a = b := by
  have found := (lookup_eq_some_iff_mem distinct).mpr first
  rw [(lookup_eq_some_iff_mem distinct).mpr second] at found
  exact (Option.some.inj found).symm

theorem lookup_isSome_iff_mem {entries : List (α × β)} {key : α} :
    (entries.lookup key).isSome = true ↔ key ∈ entries.map (·.1) := by
  simp only [List.lookup_isSome_iff, List.mem_map, beq_iff_eq, eq_comm (a := key)]

end GraphGateway
