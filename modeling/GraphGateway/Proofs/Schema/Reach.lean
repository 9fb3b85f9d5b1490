import GraphGateway.TypeSystem.Registry

/-!
# Reaching types

Types refer to each other, and a schema takes in all types that can be reached from those that it is made of, each
once. The way through them is bounded by the number of types, which is far enough: every step down reaches a type that
is not on the way yet.
-/

namespace GraphGateway.Schema

/-- The types that can be reached over references. -/
inductive Reaches (next : TypeId → List TypeId) : TypeId → TypeId → Prop where
  | refl {start : TypeId} : Reaches next start start
  | step {start target last : TypeId} : target ∈ next start → Reaches next target last → Reaches next start last

namespace Reaches

variable {next : TypeId → List TypeId}

theorem mem_of_closed {types : List TypeId} (closed : ∀ id ∈ types, ∀ target ∈ next id, target ∈ types)
    {start last : TypeId} (reaches : Reaches next start last) (member : start ∈ types) : last ∈ types := by
  induction reaches with
  | refl => exact member
  | step refers _ ih => exact ih (closed _ member _ refers)

theorem onward {a b c : TypeId} (reaches : Reaches next a b) (refers : c ∈ next b) : Reaches next a c := by
  induction reaches with
  | refl => exact .step refers .refl
  | step first _ ih => exact .step first (ih refers)

theorem inside {size : Nat} (bounded : ∀ id, ∀ target ∈ next id, target < size) {start last : TypeId}
    (reaches : Reaches next start last) (known : start < size) : last < size := by
  induction reaches with
  | refl => exact known
  | step refers _ ih => exact ih (bounded _ _ refers)

end Reaches

/-- Add one more type and those that can be reached from it, going no deeper than the fuel allows. -/
def collect (next : TypeId → List TypeId) : Nat → List TypeId → TypeId → List TypeId
  | 0, seen, _ => seen
  | fuel + 1, seen, id => if id ∈ seen then seen else (next id).foldl (collect next fuel) (seen ++ [id])

/-- What a way through types comes back with: no type twice, and with each type that it has added all that this one
refers to. -/
structure Explored (next : TypeId → List TypeId) (size : Nat) (seen after : List TypeId) : Prop where
  kept : ∃ added, after = seen ++ added
  nodup : after.Nodup
  inside : ∀ id ∈ after, id < size
  closed : ∀ id ∈ after, id ∉ seen → ∀ target ∈ next id, target ∈ after

namespace Explored

variable {next : TypeId → List TypeId} {size : Nat} {a b c : List TypeId}

theorem refl (nodup : a.Nodup) (inside : ∀ id ∈ a, id < size) : Explored next size a a :=
  ⟨⟨[], by simp⟩, nodup, inside, fun _ member absent => absurd member absent⟩

theorem mem (explored : Explored next size a b) {id : TypeId} (member : id ∈ a) : id ∈ b := by
  obtain ⟨added, rfl⟩ := explored.kept
  exact List.mem_append_left _ member

theorem length_le (explored : Explored next size a b) : a.length ≤ b.length := by
  obtain ⟨added, rfl⟩ := explored.kept
  simp

theorem trans (first : Explored next size a b) (second : Explored next size b c) : Explored next size a c := by
  refine ⟨?_, second.nodup, second.inside, fun id member absent target refers => ?_⟩
  · obtain ⟨added, rfl⟩ := first.kept
    obtain ⟨more, rfl⟩ := second.kept
    exact ⟨added ++ more, by simp⟩
  · by_cases before : id ∈ b
    · exact second.mem (first.closed id before absent target refers)
    · exact second.closed id member before target refers

end Explored

theorem nodup_snoc {entries : List α} (distinct : entries.Nodup) {a : α} (absent : a ∉ entries) :
    (entries ++ [a]).Nodup := by
  refine List.nodup_append.mpr ⟨distinct, by simp, fun b member c single => ?_⟩
  rintro rfl
  exact absent (List.mem_singleton.mp single ▸ member)

theorem length_le_of_inside {size : Nat} {types : List TypeId} (nodup : types.Nodup)
    (inside : ∀ id ∈ types, id < size) : types.length ≤ size := by
  have subset : types ⊆ List.range size := fun id member => List.mem_range.mpr (inside id member)
  simpa using nodup.length_le_of_subset subset

/-- Whether a step adds a type, with all that can be reached from it, where the fuel is enough for all types that are
not seen yet. -/
def Explores (next : TypeId → List TypeId) (size fuel : Nat) (add : List TypeId → TypeId → List TypeId) : Prop :=
  ∀ ⦃seen : List TypeId⦄, seen.Nodup → (∀ id ∈ seen, id < size) → size ≤ fuel + seen.length →
    ∀ id < size, Explored next size seen (add seen id) ∧ id ∈ add seen id

/-- Steps one after the other add what each of them adds. -/
theorem Explores.foldl {next : TypeId → List TypeId} {size fuel : Nat} {add : List TypeId → TypeId → List TypeId}
    (explores : Explores next size fuel add) {ids : List TypeId} (known : ∀ id ∈ ids, id < size)
    {seen : List TypeId} (nodup : seen.Nodup) (inside : ∀ id ∈ seen, id < size)
    (enough : size ≤ fuel + seen.length) :
    Explored next size seen (ids.foldl add seen) ∧ ∀ id ∈ ids, id ∈ ids.foldl add seen := by
  induction ids generalizing seen with
  | nil => exact ⟨.refl nodup inside, nofun⟩
  | cons first rest ih =>
      obtain ⟨knownFirst, knownRest⟩ := List.forall_mem_cons.mp known
      obtain ⟨explored, found⟩ := explores nodup inside enough first knownFirst
      have still : size ≤ fuel + (add seen first).length :=
        Nat.le_trans enough (Nat.add_le_add_left explored.length_le fuel)
      obtain ⟨onward, others⟩ := ih knownRest explored.nodup explored.inside still
      exact ⟨explored.trans onward, List.forall_mem_cons.mpr ⟨onward.mem found, others⟩⟩

section Collect

variable {next : TypeId → List TypeId} {size : Nat}

theorem collect_explores (bounded : ∀ id, ∀ target ∈ next id, target < size) (fuel : Nat) :
    Explores next size fuel (collect next fuel) := by
  induction fuel with
  | zero =>
      intro seen nodup inside enough id known
      -- All types are seen already, so this one is.
      have member : id ∈ seen := by
        refine Classical.byContradiction fun absent => ?_
        have more := length_le_of_inside (List.nodup_cons.mpr ⟨absent, nodup⟩)
          (List.forall_mem_cons.mpr ⟨known, inside⟩)
        simp only [List.length_cons] at more
        omega
      exact ⟨.refl nodup inside, member⟩
  | succ fuel ih =>
      intro seen nodup inside enough id known
      rw [collect]
      split
      · rename_i member
        exact ⟨.refl nodup inside, member⟩
      · rename_i absent
        have insideWith : ∀ other ∈ seen ++ [id], other < size :=
          List.forall_mem_append.mpr ⟨inside, by simpa using known⟩
        have enoughWith : size ≤ fuel + (seen ++ [id]).length := by
          simp only [List.length_append, List.length_singleton]
          omega
        obtain ⟨explored, found⟩ := ih.foldl (bounded id) (nodup_snoc nodup absent) insideWith enoughWith
        refine ⟨⟨?_, explored.nodup, explored.inside, fun other member unseen target refers => ?_⟩,
          explored.mem (by simp)⟩
        · obtain ⟨added, whole⟩ := explored.kept
          exact ⟨id :: added, by rw [whole, List.append_assoc]; rfl⟩
        · by_cases same : other = id
          · exact found target (same ▸ refers)
          · exact explored.closed other member (by simp [unseen, same]) target refers

theorem mem_foldl_collect {fuel : Nat} {ids seen : List TypeId} {id : TypeId}
    (member : id ∈ ids.foldl (collect next fuel) seen) : id ∈ seen ∨ ∃ start ∈ ids, Reaches next start id := by
  induction fuel generalizing ids seen with
  | zero =>
      induction ids generalizing seen with
      | nil => exact .inl member
      | cons first rest more =>
          rcases more member with before | ⟨start, listed, reaches⟩
          · exact .inl before
          · exact .inr ⟨start, List.mem_cons_of_mem _ listed, reaches⟩
  | succ fuel ih =>
      induction ids generalizing seen with
      | nil => exact .inl member
      | cons first rest more =>
          rcases more member with added | ⟨start, listed, reaches⟩
          · rw [collect] at added
            split at added
            · exact .inl added
            · rcases ih added with before | ⟨target, refers, reaches⟩
              · rcases List.mem_append.mp before with seen | new
                · exact .inl seen
                · exact .inr ⟨first, List.mem_cons_self, List.mem_singleton.mp new ▸ .refl⟩
              · exact .inr ⟨first, List.mem_cons_self, .step refers reaches⟩
          · exact .inr ⟨start, List.mem_cons_of_mem _ listed, reaches⟩

end Collect

namespace Registry

/-- The types that the type of a number refers to. -/
def next (r : Registry) (id : TypeId) : List TypeId :=
  r.bases id ++ r.fieldLinks id

/-- Whether all references lead to types that there are. -/
def Bounded (r : Registry) : Prop :=
  ∀ id, ∀ target ∈ r.next id, target < r.size

theorem mem_types_iff {visits : List Visit} {id : TypeId} :
    id ∈ visits.filterMap Visit.type? ↔ .type id ∈ visits := by
  rw [List.mem_filterMap]
  constructor
  · rintro ⟨visit, member, found⟩
    cases visit with
    | type other => exact Option.some.inj found ▸ member
    | fields other => cases found
  · exact fun member => ⟨_, member, rfl⟩

theorem types_visitFrom (r : Registry) (fuel : Nat) (visits : List Visit) (id : TypeId) :
    (r.visitFrom fuel visits id).filterMap Visit.type? =
      collect r.next fuel (visits.filterMap Visit.type?) id := by
  induction fuel generalizing visits id with
  | zero => rfl
  | succ fuel ih =>
      have turns : ∀ (ids : List TypeId) (visits : List Visit),
          (ids.foldl (r.visitFrom fuel) visits).filterMap Visit.type? =
            ids.foldl (collect r.next fuel) (visits.filterMap Visit.type?) :=
        fun ids visits => (List.foldl_hom (List.filterMap Visit.type?) fun v i => (ih v i).symm).symm
      have member : visits.contains (.type id) = decide (id ∈ visits.filterMap Visit.type?) := by
        rw [List.contains_eq_mem, decide_eq_decide]
        exact mem_types_iff.symm
      rw [visitFrom, collect, member]
      by_cases seen : id ∈ visits.filterMap Visit.type?
      · simp [seen]
      · simp only [seen, decide_false, Bool.false_eq_true, if_false, next, List.foldl_append, turns,
          List.filterMap_append, Visit.type?, List.filterMap_cons, List.filterMap_nil, List.append_nil]

theorem types_erase (visits : List Visit) (id : TypeId) :
    (visits.erase (.type id)).filterMap Visit.type? = (visits.filterMap Visit.type?).erase id := by
  induction visits with
  | nil => rfl
  | cons visit rest ih =>
      cases visit with
      | type other =>
          by_cases same : other = id
          · simp [same, Visit.type?]
          · simp [same, Visit.type?, ih]
      | fields other =>
          have other : (Visit.fields other == Visit.type id) = false := rfl
          rw [List.erase_cons, other]
          exact ih

/-- Reach one more of the listed types in its turn. -/
def relist (r : Registry) (seen : List TypeId) (id : TypeId) : List TypeId :=
  collect r.next r.size (seen.erase id) id

theorem reach_eq (r : Registry) (listed others : List TypeId) :
    r.reach listed others = others.foldl (collect r.next r.size) (listed.foldl r.relist listed) := by
  have marked : (listed.map Visit.type).filterMap Visit.type? = listed := by
    simp [List.filterMap_map, Function.comp_def, Visit.type?]
  -- The types among the visits go through each step by themselves; marks of fields do not stop any.
  let turn := fun (visits : List Visit) id => r.visitFrom r.size (visits.erase (.type id)) id
  have turns : ∀ visits : List Visit, listed.foldl r.relist (visits.filterMap Visit.type?) =
      (listed.foldl turn visits).filterMap Visit.type? :=
    fun visits => List.foldl_hom (List.filterMap Visit.type?) fun visits id => by
      rw [relist, types_visitFrom, types_erase]
  have onward : ∀ visits : List Visit, others.foldl (collect r.next r.size) (visits.filterMap Visit.type?) =
      (others.foldl (r.visitFrom r.size) visits).filterMap Visit.type? :=
    fun visits => List.foldl_hom (List.filterMap Visit.type?) fun visits id =>
      (r.types_visitFrom r.size visits id).symm
  have ordered := turns (listed.map .type)
  rw [marked] at ordered
  rw [reach, visits, ← onward, ordered]

/-- After their turns, the listed types and all others that came in have all that they refer to beside them. -/
theorem relisted {r : Registry} (bounded : r.Bounded) {listed seen : List TypeId} (nodup : seen.Nodup)
    (inside : ∀ id ∈ seen, id < r.size)
    (known : ∀ id ∈ listed, id < r.size)
    (closed : ∀ id ∈ seen, id ∈ listed ∨ ∀ target ∈ r.next id, target ∈ seen) :
    let after := listed.foldl r.relist seen
    after.Nodup ∧ (∀ id ∈ after, id < r.size) ∧ (∀ id ∈ seen, id ∈ after) ∧
      ∀ id ∈ after, ∀ target ∈ r.next id, target ∈ after := by
  induction listed generalizing seen with
  | nil => exact ⟨nodup, inside, fun _ member => member, fun id member => (closed id member).resolve_left nofun⟩
  | cons first rest ih =>
      obtain ⟨knownFirst, knownRest⟩ := List.forall_mem_cons.mp known
      obtain ⟨explored, found⟩ := collect_explores bounded r.size (nodup.erase first)
        (fun id member => inside id (List.mem_of_mem_erase member)) (Nat.le_add_right _ _) first knownFirst
      -- What is erased for its turn comes in again, so that nothing is lost.
      have kept : ∀ id ∈ seen, id ∈ r.relist seen first := by
        intro id member
        by_cases same : id = first
        · exact same ▸ found
        · exact explored.mem ((List.mem_erase_of_ne same).mpr member)
      have closed' : ∀ id ∈ r.relist seen first,
          id ∈ rest ∨ ∀ target ∈ r.next id, target ∈ r.relist seen first := by
        intro id member
        by_cases before : id ∈ seen.erase first
        · obtain ⟨other, there⟩ := nodup.mem_erase_iff.mp before
          rcases closed id there with turn | complete
          · exact .inl ((List.mem_cons.mp turn).resolve_left other)
          · exact .inr fun target refers => kept target (complete target refers)
        · exact .inr (explored.closed id member before)
      obtain ⟨nodupAfter, insideAfter, keptAfter, closedAfter⟩ :=
        ih explored.nodup explored.inside knownRest closed'
      exact ⟨nodupAfter, insideAfter, fun id member => keptAfter id (kept id member), closedAfter⟩

theorem mem_relisted {r : Registry} {listed seen : List TypeId} {id : TypeId}
    (member : id ∈ listed.foldl r.relist seen) : id ∈ seen ∨ ∃ start ∈ listed, Reaches r.next start id := by
  induction listed generalizing seen with
  | nil => exact .inl member
  | cons first rest ih =>
      rcases ih member with here | ⟨start, later, reaches⟩
      · have here : id ∈ [first].foldl (collect r.next r.size) (seen.erase first) := here
        rcases mem_foldl_collect here with before | ⟨start, single, reaches⟩
        · exact .inl (List.mem_of_mem_erase before)
        · exact .inr ⟨first, List.mem_cons_self, List.mem_singleton.mp single ▸ reaches⟩
      · exact .inr ⟨start, List.mem_cons_of_mem _ later, reaches⟩

section Reach

variable {r : Registry} (bounded : r.Bounded) {listed others : List TypeId} (distinct : listed.Nodup)
  (known : ∀ id ∈ listed, id < r.size) (knownOthers : ∀ id ∈ others, id < r.size)
include bounded distinct known knownOthers

/-- A schema takes in each type once, those that it is made of among them, and with each type all that it refers to. -/
theorem reach_explored :
    (r.reach listed others).Nodup ∧ (∀ id ∈ r.reach listed others, id < r.size) ∧
      (∀ start ∈ listed ++ others, start ∈ r.reach listed others) ∧
      ∀ id ∈ r.reach listed others, ∀ target ∈ r.next id, target ∈ r.reach listed others := by
  obtain ⟨nodup, inside, kept, closed⟩ := relisted bounded distinct known known fun _ member => .inl member
  obtain ⟨explored, found⟩ :=
    (collect_explores bounded r.size).foldl knownOthers nodup inside (Nat.le_add_right _ _)
  rw [reach_eq]
  refine ⟨explored.nodup, explored.inside,
    List.forall_mem_append.mpr ⟨fun id member => explored.mem (kept id member), found⟩,
    fun id member target refers => ?_⟩
  by_cases before : id ∈ listed.foldl r.relist listed
  · exact explored.mem (closed id before target refers)
  · exact explored.closed id member before target refers

theorem mem_reach_iff {id : TypeId} :
    id ∈ r.reach listed others ↔ ∃ start ∈ listed ++ others, Reaches r.next start id := by
  constructor
  · intro member
    rw [reach_eq] at member
    rcases mem_foldl_collect member with first | ⟨start, other, reaches⟩
    · rcases mem_relisted first with here | ⟨start, there, reaches⟩
      · exact ⟨id, List.mem_append_left _ here, .refl⟩
      · exact ⟨start, List.mem_append_left _ there, reaches⟩
    · exact ⟨start, List.mem_append_right _ other, reaches⟩
  · rintro ⟨start, member, reaches⟩
    obtain ⟨_, _, kept, closed⟩ := reach_explored bounded distinct known knownOthers
    exact reaches.mem_of_closed closed (kept start member)

end Reach

end Registry

end GraphGateway.Schema
