import GraphGateway.Resolver.File
import GraphGateway.Resolver.Map
import GraphGateway.Resolver.Subscription

/-!
# Compiling resolvers

Descriptions are compiled one by one, and what they give is merged in their order, so that a later
description of a field replaces an earlier one. All are compiled, even if one fails; then the first
failure in their order is reported.
-/

namespace GraphGateway.Resolver

inductive Entry where
  | methodCall (d : MethodCall)
  | subscription (d : Subscription) (filter : Filter)
  /-- What a resolver file gives for the field. -/
  | given (v : Value)

inductive Compiled where
  | field (type name : Value) (entry : Entry)
  | file (map : Value)

/-- What compiling gives: the outcome of each description, in order, the memory of the importer, the
identifiers that it was asked for, and warnings. -/
structure Compilation (μ : Type) where
  outcomes : List (Except Fault Compiled) := []
  memory : μ
  attempts : List String := []
  warnings : List String := []

def fieldOf (st : Store) (type name : Value) (entry : Entry) : Except Fault Compiled := do
  st.checkKey name
  st.checkKey type
  pure (.field type name entry)

def compileField (st : Store) : Descriptor → Except Fault Compiled
  | .methodCall d => fieldOf st d.type d.field (.methodCall d)
  | .subscription d => do
    let filter ← Filter.compile d.filterBy
    fieldOf st d.type d.field (.subscription d filter)
  | .file _ => .ok (.file (.map []))

def compileOne (importer : Importer μ) (directory : String) (st : Store) (c : Compilation μ)
    (described : Described) : Compilation μ :=
  match described.parse st with
  | .error fault => { c with outcomes := c.outcomes ++ [.error fault] }
  | .ok (.file path) =>
    let identifier := fileIdentifier directory path
    let (result, memory) := importer identifier c.memory
    let found := (result.mapError Fault.ofTask).map (loaded path)
    { outcomes := c.outcomes ++ [found.map fun l => .file l.map]
      memory
      attempts := c.attempts ++ [identifier]
      warnings := c.warnings ++ (found.toOption.bind (·.warning)).toList }
  | .ok d => { c with outcomes := c.outcomes ++ [compileField st d] }

def compileEach (importer : Importer μ) (memory : μ) (directory : String) (st : Store)
    (described : List Described) : Compilation μ :=
  described.foldl (compileOne importer directory st) { memory }

/-- Compile what a configuration describes. Nothing, or anything that counts as false, describes no resolvers. -/
def compileAll (importer : Importer μ) (memory : μ) (directory : String) (st : Store)
    (described : Value) : Except Fault (Compilation μ) := do
  let described := st.look described
  let each ← if described.truthy then described.elements else .ok []
  pure (compileEach importer memory directory st (each.map .written))

/-- Put what a description compiled to into a resolver map. -/
def Compiled.putInto (m : FieldMap Entry) : Compiled → Except Fault (FieldMap Entry)
  | .field type name entry => .ok (m.put type [(name, entry)])
  | .file map => m.putValue .given map

/-- The resolver map of what descriptions compiled to. -/
def mergeCompiled (compiled : List Compiled) : Except Fault (FieldMap Entry) :=
  compiled.foldlM (fun m x => x.putInto m) []

/-- The resolver map of a compilation in which nothing failed. -/
def Compilation.merged (c : Compilation μ) : Except Fault (FieldMap Entry) := do
  mergeCompiled (← c.outcomes.mapM id)

end GraphGateway.Resolver
