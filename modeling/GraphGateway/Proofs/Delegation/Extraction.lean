import GraphGateway.Delegation.ReturnData

/-!
# Taking values out of results

Extraction in two steps: what lies at the end of a path, and what becomes of it. Only the first can fail, and only
where the path cannot be read.
-/

namespace GraphGateway

theorem Store.readOr_null (st : Store) (v : Value) (keys : List String) : st.readOr v keys .null = st.read v keys := by
  simp only [Store.readOr]
  split
  · rename_i absent
    exact absent.symm
  · rfl

namespace Delegation

/-- What lies at the end of a path. An error is not looked into, and without a path everything is at its end. -/
def located (source path : Value) : Except Fault Value :=
  if source.isError || !path.truthy then .ok source
  else (Store.empty.pathKeys path).map fun keys => Store.empty.read source keys

/-- What becomes of a value that was found in a result. -/
def extracted (source found : Value) (responseKey : String) : Extraction :=
  match found with
  | .fieldError message underlying extensions =>
    .plain (match underlying with | .null => .fieldError message underlying extensions | e => e)
  | .external data errors subschema fieldSubschemas => .plain (.external data errors subschema fieldSubschemas)
  | found =>
    match source with
    | .external _ errors subschema fieldSubschemas =>
      .inside found errors (subschemaFor subschema fieldSubschemas responseKey)
    | _ => .plain found

theorem extract_eq (source path : Value) (responseKey : String) :
    extract source path responseKey = (located source path).map fun found => extracted source found responseKey := by
  have taken : ∀ found : Value, (.ok (extracted source found responseKey) : Except Fault Extraction) =
      match found with
      | .fieldError message underlying extensions =>
        pure (.plain (match underlying with | .null => .fieldError message underlying extensions | e => e))
      | .external .. => pure (.plain found)
      | found =>
        match source with
        | .external _ errors subschema fieldSubschemas =>
          pure (.inside found errors (subschemaFor subschema fieldSubschemas responseKey))
        | _ => pure (.plain found) := by
    intro found
    cases found with
    | fieldError | external => rfl
    | _ => cases source <;> rfl
  simp only [extract, located, Store.readOr_null]
  split
  · exact (taken source).symm
  · cases Store.empty.pathKeys path with
    | error fault => rfl
    | ok keys => exact (taken (Store.empty.read source keys)).symm

theorem located_succeeds (source : Value) {path : Value} (readable : path = .null ∨ ∃ s, path = .text s) :
    ∃ found, located source path = .ok found := by
  unfold located
  split
  · exact ⟨source, rfl⟩
  · rename_i looked
    rcases readable with rfl | ⟨s, rfl⟩
    · exact absurd (by simp [Value.truthy]) looked
    · exact ⟨_, rfl⟩

end Delegation

end GraphGateway
