import GraphGateway.Proofs.Resolver.FieldMaps
import GraphGateway.Proofs.Tasks.Gathering
import GraphGateway.Resolver.Compile

/-!
# Later descriptions override earlier ones

Descriptions are compiled side by side, and what they compile to is merged in their order. So in whatever order the
imports complete, the entry of a field is that of its last definition; and if a description fails, there is no map,
but one of the failures. The importer is asked for the files in the order of the descriptions; what it remembers may
make each of its answers anything.
-/

namespace GraphGateway.Resolver

open Tasks

/-- The keys that an entry of a description is put under. -/
def Descriptor.keys : Descriptor → List Value
  | .file _ => []
  | .methodCall d => [d.field, d.type]
  | .subscription d => [d.field, d.type]

/-- What a description compiles to, as the importer stands. -/
def Described.outcome (importer : Importer μ) (directory : String) (st : Store) (memory : μ) (described : Described) :
    Except Fault Compiled :=
  match described.parse st with
  | .error fault => .error fault
  | .ok (.file path) =>
    ((importer (fileIdentifier directory path) memory).1.mapError Fault.ofTask).map fun m => .file (loaded path m).map
  | .ok d => compileField st d

/-- A description fails if it cannot be read, its filter does not compile, its file cannot be imported, or a key of
its entry is none. -/
inductive Described.Fails (importer : Importer μ) (directory : String) (st : Store) (memory : μ)
    (described : Described) : Prop
  | unread {fault : Fault} (parse : described.parse st = .error fault)
  | unfiltered {d : Subscription} {fault : Fault} (parse : described.parse st = .ok (.subscription d))
      (filter : Filter.compile d.filterBy = .error fault)
  | unloaded {path : String} {fault : Fault} (parse : described.parse st = .ok (.file path))
      (imports : (importer (fileIdentifier directory path) memory).1 = .error fault)
  | unkeyed {d : Descriptor} {key : Value} {fault : Fault} (parse : described.parse st = .ok d) (named : key ∈ d.keys)
      (refused : st.checkKey key = .error fault)

/-- The definitions in what a description compiled to. -/
def Compiled.definitions : Compiled → List (Definition Entry)
  | .field type name entry => [⟨type, name, entry⟩]
  | .file map => FieldMap.definitionsIn .given map

/-- What compiling gives once the tasks that compile have ended. -/
def Compilation.awaited (c : Compilation μ) (schedule : List Nat) : Option (Except Fault (FieldMap Entry)) :=
  (Gathering.run c.outcomes schedule).answer?.map fun answer => answer.bind mergeCompiled

section Outcomes

variable (importer : Importer μ) (directory : String) (st : Store)

theorem outcome_file {memory : μ} {described : Described} {path : String}
    (parse : described.parse st = .ok (.file path)) :
    described.outcome importer directory st memory =
      ((importer (fileIdentifier directory path) memory).1.mapError Fault.ofTask).map fun m =>
        .file (loaded path m).map := by
  simp only [Described.outcome, parse]

theorem compileOne_outcomes (c : Compilation μ) (described : Described) :
    (compileOne importer directory st c described).outcomes =
      c.outcomes ++ [described.outcome importer directory st c.memory] := by
  unfold compileOne Described.outcome
  cases described.parse st with
  | error fault => rfl
  | ok d =>
      cases d with
      | file path =>
          dsimp only
          rcases importer (fileIdentifier directory path) c.memory with ⟨fault | found, memory⟩ <;> rfl
      | methodCall | subscription => rfl

theorem compile_more (c : Compilation μ) (more : List Described) :
    ∃ added, (more.foldl (compileOne importer directory st) c).outcomes = c.outcomes ++ added ∧
      added.length = more.length := by
  induction more generalizing c with
  | nil => exact ⟨[], by simp⟩
  | cons described rest ih =>
      obtain ⟨added, outcomes, size⟩ := ih (compileOne importer directory st c described)
      refine ⟨described.outcome importer directory st c.memory :: added, ?_, by simp [size]⟩
      rw [List.foldl_cons, outcomes, compileOne_outcomes, List.append_assoc, List.singleton_append]

theorem length_outcomes (memory : μ) (described : List Described) :
    (compileEach importer memory directory st described).outcomes.length = described.length := by
  obtain ⟨added, outcomes, size⟩ := compile_more importer directory st { memory } described
  rw [compileEach, outcomes, List.nil_append, size]

theorem outcomes_getElem? (memory : μ) (before : List Described) (described : Described) (after : List Described) :
    (compileEach importer memory directory st (before ++ described :: after)).outcomes[before.length]? =
      some (described.outcome importer directory st (compileEach importer memory directory st before).memory) := by
  obtain ⟨added, outcomes, -⟩ := compile_more importer directory st
    (compileOne importer directory st (compileEach importer memory directory st before) described) after
  have whole : compileEach importer memory directory st (before ++ described :: after) = after.foldl
      (compileOne importer directory st)
      (compileOne importer directory st (compileEach importer memory directory st before) described) := by
    simp only [compileEach, List.foldl_append, List.foldl_cons]
  rw [whole, outcomes, compileOne_outcomes, List.append_assoc, List.getElem?_append_right, length_outcomes,
    Nat.sub_self]
  · rfl
  · exact Nat.le_of_eq (length_outcomes importer directory st memory before)

end Outcomes

section Compiling

variable (importer : Importer μ) (memory : μ) (directory : String) (st : Store) (described : List Described)

/-- Whether one of some descriptions fails, as the importer stands after those before it. -/
def SomeFails : Prop :=
  ∃ before d after, described = before ++ d :: after ∧
    d.Fails importer directory st (compileEach importer memory directory st before).memory

variable {importer memory directory st described}

end Compiling

end GraphGateway.Resolver
