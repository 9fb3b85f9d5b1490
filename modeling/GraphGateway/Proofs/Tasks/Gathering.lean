import GraphGateway.Fault

/-!
# Tasks side by side

Tasks that are awaited together each begin once and end once, in any order and with others in between; one that never
waits ends in the turn after the one in which it begins. Awaiting them gives their results in the order of the tasks,
or fails as the first of them that fails; so the order in which they go on decides at most which failure it is.
-/

namespace GraphGateway.Tasks

/-- How far a task is. -/
inductive Phase (α : Type) where
  | waiting
  | running
  | ended (outcome : Except Fault α)

def Phase.result? : Phase α → Option α
  | .ended (.ok a) => some a
  | _ => none

def failure? : Except Fault α → Option Fault
  | .error fault => some fault
  | .ok _ => none

/-- Tasks that are awaited together. -/
structure Gathering (α : Type) where
  phases : List (Phase α)
  /-- The tasks that have begun, in the order in which they did. -/
  begun : List Nat := []
  /-- The failure of the first task that failed. -/
  failure : Option Fault := none

namespace Gathering

/-- One task goes on: it begins, or ends with its outcome. -/
def goOn (outcomes : List (Except Fault α)) (g : Gathering α) (i : Nat) : Gathering α :=
  match g.phases[i]?, outcomes[i]? with
  | some .waiting, _ => { g with phases := g.phases.set i .running, begun := g.begun ++ [i] }
  | some .running, some outcome =>
    { g with phases := g.phases.set i (.ended outcome), failure := g.failure.or (failure? outcome) }
  | _, _ => g

def run (outcomes : List (Except Fault α)) (schedule : List Nat) : Gathering α :=
  schedule.foldl (goOn outcomes) { phases := List.replicate outcomes.length .waiting }

/-- What awaiting the tasks gives, once it gives something. -/
def answer? (g : Gathering α) : Option (Except Fault (List α)) :=
  match g.failure with
  | some fault => some (.error fault)
  | none => (g.phases.mapM Phase.result?).map .ok

end Gathering

/-- Whether every one of some tasks gets the turns that it needs to begin and to end. -/
def Fair (count : Nat) (schedule : List Nat) : Prop :=
  ∀ i < count, 2 ≤ schedule.count i

instance (count : Nat) (schedule : List Nat) : Decidable (Fair count schedule) :=
  inferInstanceAs (Decidable (∀ i < count, 2 ≤ schedule.count i))

def phaseAfter (outcome : Except Fault α) : Nat → Phase α
  | 0 => .waiting
  | 1 => .running
  | _ => .ended outcome

/-- What holds of tasks after the turns of a schedule. -/
structure Reached (outcomes : List (Except Fault α)) (schedule : List Nat) (g : Gathering α) : Prop where
  size : g.phases.length = outcomes.length
  phase : ∀ i (inside : i < outcomes.length),
    g.phases[i]? = some (phaseAfter outcomes[i] (schedule.count i))
  once : g.begun.Nodup
  begun : ∀ i, i ∈ g.begun ↔ i < outcomes.length ∧ 0 < schedule.count i
  failed : ∀ fault, g.failure = some fault → .error fault ∈ outcomes
  unfailed : g.failure = none → ∀ i (_ : i < outcomes.length), 2 ≤ schedule.count i → ∃ a, outcomes[i] = .ok a

theorem Reached.start (outcomes : List (Except Fault α)) :
    Reached outcomes [] { phases := List.replicate outcomes.length .waiting } where
  size := List.length_replicate
  phase i inside := by simp [inside, phaseAfter]
  once := List.nodup_nil
  begun i := by simp
  failed := nofun
  unfailed _ i _ turns := by simp at turns

theorem count_turn_self (schedule : List Nat) (i : Nat) : (schedule ++ [i]).count i = schedule.count i + 1 := by
  rw [List.count_append, List.count_singleton_self]

theorem count_turn_of_ne (schedule : List Nat) {i j : Nat} (other : i ≠ j) :
    (schedule ++ [i]).count j = schedule.count j := by
  rw [List.count_append, List.count_singleton, if_neg (by simpa using other), Nat.add_zero]

section Turn

variable {outcomes : List (Except Fault α)} {schedule : List Nat} {g : Gathering α}

/-- The phases of tasks after a turn of one of them. -/
theorem Reached.phase_set (reached : Reached outcomes schedule g) {i : Nat} (inside : i < outcomes.length)
    (j : Nat) (there : j < outcomes.length) :
    (g.phases.set i (phaseAfter outcomes[i] (schedule.count i + 1)))[j]? =
      some (phaseAfter outcomes[j] ((schedule ++ [i]).count j)) := by
  by_cases same : i = j
  · subst same
    rw [count_turn_self, List.getElem?_set_self (reached.size ▸ inside)]
  · rw [count_turn_of_ne schedule same, List.getElem?_set_ne same]
    exact reached.phase j there

/-- The first turn of a task, with which it begins. -/
theorem Reached.turn_first (reached : Reached outcomes schedule g) {i : Nat} (inside : i < outcomes.length)
    (fresh : schedule.count i = 0) :
    Reached outcomes (schedule ++ [i])
      { g with phases := g.phases.set i .running, begun := g.begun ++ [i] } where
  size := by rw [List.length_set, reached.size]
  phase j there := by
    have phases := reached.phase_set inside j there
    rwa [fresh] at phases
  once := by
    have absent : i ∉ g.begun := fun member => by simpa [fresh] using (reached.begun i).mp member
    rw [List.nodup_append]
    refine ⟨reached.once, by simp, fun j member k last same => ?_⟩
    rw [List.mem_singleton.mp last] at same
    exact absent (same ▸ member)
  begun j := by
    rw [List.mem_append, List.mem_singleton, reached.begun j]
    by_cases same : i = j
    · subst same
      simp [inside]
    · simp [count_turn_of_ne schedule same, Ne.symm same]
  failed := reached.failed
  unfailed none j there turns := by
    by_cases same : i = j
    · subst same
      rw [count_turn_self] at turns
      omega
    · rw [count_turn_of_ne schedule same] at turns
      exact reached.unfailed none j there turns

/-- The second turn of a task, with which it ends. -/
theorem Reached.turn_second (reached : Reached outcomes schedule g) {i : Nat} (inside : i < outcomes.length)
    (running : schedule.count i = 1) :
    Reached outcomes (schedule ++ [i])
      { g with
        phases := g.phases.set i (.ended outcomes[i])
        failure := g.failure.or (failure? outcomes[i]) } where
  size := by rw [List.length_set, reached.size]
  phase j there := by
    have phases := reached.phase_set inside j there
    rwa [running] at phases
  once := reached.once
  begun j := by
    rw [reached.begun j]
    by_cases same : i = j
    · subst same
      simp [running]
    · rw [count_turn_of_ne schedule same]
  failed fault failure := by
    rcases Option.or_eq_some_iff.mp failure with before | ⟨-, now⟩
    · exact reached.failed fault before
    · have member := List.getElem_mem inside
      cases outcome : outcomes[i] with
      | ok a => simp [outcome, failure?] at now
      | error cause =>
          rw [outcome] at now member
          cases now
          exact member
  unfailed none j there turns := by
    obtain ⟨before, now⟩ := Option.or_eq_none_iff.mp none
    by_cases same : i = j
    · subst same
      cases outcome : outcomes[i] with
      | ok a => exact ⟨a, rfl⟩
      | error cause => simp [outcome, failure?] at now
    · rw [count_turn_of_ne schedule same] at turns
      exact reached.unfailed before j there turns

theorem Reached.turn_idle (reached : Reached outcomes schedule g) {i : Nat}
    (idle : i < outcomes.length → 2 ≤ schedule.count i) : Reached outcomes (schedule ++ [i]) g where
  size := reached.size
  phase j there := by
    have phase := reached.phase j there
    by_cases same : i = j
    · subst same
      obtain ⟨n, turns⟩ := Nat.exists_eq_add_of_le' (idle there)
      rw [turns] at phase
      rw [count_turn_self, turns]
      exact phase
    · rw [count_turn_of_ne schedule same]
      exact phase
  once := reached.once
  begun j := by
    rw [reached.begun j]
    refine and_congr_right fun there => ?_
    by_cases same : i = j
    · subst same
      have turns := idle there
      rw [count_turn_self]
      omega
    · rw [count_turn_of_ne schedule same]
  failed := reached.failed
  unfailed none j there turns := by
    by_cases same : i = j
    · subst same
      exact reached.unfailed none i there (idle there)
    · rw [count_turn_of_ne schedule same] at turns
      exact reached.unfailed none j there turns

theorem Reached.turn (reached : Reached outcomes schedule g) (i : Nat) :
    Reached outcomes (schedule ++ [i]) (g.goOn outcomes i) := by
  by_cases inside : i < outcomes.length
  · have phase := reached.phase i inside
    have outcome : outcomes[i]? = some outcomes[i] := List.getElem?_eq_getElem inside
    unfold Gathering.goOn
    match turns : schedule.count i with
    | 0 =>
        rw [turns] at phase
        simpa [phase, outcome, phaseAfter] using reached.turn_first inside turns
    | 1 =>
        rw [turns] at phase
        simpa [phase, outcome, phaseAfter] using reached.turn_second inside turns
    | n + 2 =>
        rw [turns] at phase
        simpa [phase, outcome, phaseAfter] using reached.turn_idle fun _ => turns ▸ Nat.le_add_left 2 n
  · have nothing : g.phases[i]? = none := by
      rw [List.getElem?_eq_none_iff, reached.size]
      exact Nat.not_lt.mp inside
    simpa [Gathering.goOn, nothing] using reached.turn_idle fun there => absurd there inside

end Turn

theorem Reached.turns {outcomes : List (Except Fault α)} {before : List Nat} {g : Gathering α}
    (reached : Reached outcomes before g) (after : List Nat) :
    Reached outcomes (before ++ after) (after.foldl (Gathering.goOn outcomes) g) := by
  induction after generalizing before g with
  | nil => simpa using reached
  | cons i rest ih => simpa using ih (reached.turn i)

theorem reached_run (outcomes : List (Except Fault α)) (schedule : List Nat) :
    Reached outcomes schedule (Gathering.run outcomes schedule) := by
  exact (Reached.start outcomes).turns schedule

theorem perm_range {xs : List Nat} (once : xs.Nodup) {count : Nat} (all : ∀ i, i ∈ xs ↔ i < count) :
    xs.Perm (List.range count) := by
  rw [List.perm_ext_iff_of_nodup once List.nodup_range]
  simpa using all

section Gathered

variable {outcomes : List (Except Fault α)} {schedule : List Nat}

theorem begun_perm (fair : Fair outcomes.length schedule) :
    (Gathering.run outcomes schedule).begun.Perm (List.range outcomes.length) := by
  have reached := reached_run outcomes schedule
  refine perm_range reached.once fun i => ?_
  rw [reached.begun i]
  exact and_iff_left_of_imp fun inside => Nat.lt_of_lt_of_le Nat.zero_lt_two (fair i inside)

theorem phases_run (fair : Fair outcomes.length schedule) :
    (Gathering.run outcomes schedule).phases = outcomes.map .ended := by
  have reached := reached_run outcomes schedule
  refine List.ext_getElem? fun i => ?_
  by_cases inside : i < outcomes.length
  · obtain ⟨n, turns⟩ := Nat.exists_eq_add_of_le' (fair i inside)
    rw [reached.phase i inside, turns]
    simp [phaseAfter, inside]
  · rw [List.getElem?_eq_none (reached.size ▸ Nat.not_lt.mp inside), List.getElem?_eq_none]
    simpa using inside

theorem exists_results {outcomes : List (Except Fault α)} (unfailed : ∀ outcome ∈ outcomes, ∃ a, outcome = .ok a) :
    ∃ results : List α, outcomes = results.map .ok := by
  induction outcomes with
  | nil => exact ⟨[], rfl⟩
  | cons outcome rest ih =>
      obtain ⟨a, rfl⟩ := unfailed outcome List.mem_cons_self
      obtain ⟨results, rfl⟩ := ih fun later member => unfailed later (List.mem_cons_of_mem _ member)
      exact ⟨a :: results, rfl⟩

theorem sequence_ok (results : List α) : (results.map (Except.ok (ε := Fault))).mapM id = .ok results := by
  induction results with
  | nil => rfl
  | cons a rest ih => simp [ih, bind, Except.bind, pure, Except.pure]

theorem results_ended (results : List α) :
    (results.map (Phase.ended ∘ Except.ok)).mapM Phase.result? = some results := by
  induction results with
  | nil => rfl
  | cons a rest ih => simp [ih, Phase.result?]

theorem answer_of_ok {results : List α} (fair : Fair results.length schedule) :
    (Gathering.run (results.map .ok) schedule).answer? = some (.ok results) := by
  have all : Fair (results.map (Except.ok (ε := Fault))).length schedule := by simpa using fair
  have unfailed : (Gathering.run (results.map .ok) schedule).failure = none := by
    cases failure : (Gathering.run (results.map .ok) schedule).failure with
    | none => rfl
    | some fault => simpa using (reached_run _ schedule).failed fault failure
  simp only [Gathering.answer?, unfailed, phases_run all, List.map_map, results_ended, Option.map_some]

end Gathered

end GraphGateway.Tasks
