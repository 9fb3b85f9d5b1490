import GraphGateway.Proofs.Resolver.FanOut

/-!
# Failures inside of what a call gives

If a method is called once for each element, a call that fails, or gives an error, makes its element null. What a call
gives is not searched for failures: an error at the end of the path, and the error that explains why nothing lies
there, are themselves the entries of the list.
-/

namespace GraphGateway

namespace Delegation

/-- Whether a failure comes out of a source for what was found in it. -/
inductive Failing (source : Value) : Value → Prop
  | error (kind text : String) (name : Option String) : Failing source (.error kind text name)
  /-- An error of a field that stands for no other error. -/
  | fieldError (message : String) (extensions : Value) : Failing source (.fieldError message .null extensions)
  /-- An error of a field gives way to the error that it stands for. -/
  | underlying {e : Value} (error : e.isError = true) (message : String) (extensions : Value) :
      Failing source (.fieldError message e extensions)
  /-- Nothing was found, for which an external object has one error. -/
  | explained {data fieldSubschemas : List (Value × Value)} {subschema e : Value}
      (tagged : source = .external data [e] subschema fieldSubschemas) (error : e.isError = true) :
      Failing source .null
  /-- Nothing was found, and the errors of an external object are summed up. -/
  | summed {data fieldSubschemas : List (Value × Value)} {errors : List Value} {subschema : Value}
      (tagged : source = .external data errors subschema fieldSubschemas) (several : 2 ≤ errors.length) :
      Failing source .null

theorem missing_isError_iff (errors : List Value) :
    (missing errors).isError = true ↔ (∃ e, errors = [e] ∧ e.isError = true) ∨ 2 ≤ errors.length := by
  match errors with
  | [] => simp [missing, Value.isError]
  | [e] => simp [missing]
  | first :: second :: rest => simp [missing, Value.isError]

theorem extracted_isError_iff (source found : Value) (responseKey : String) :
    (extracted source found responseKey).value.isError = true ↔ Failing source found := by
  constructor
  · intro failure
    cases found with
    | error kind text name => exact .error kind text name
    | fieldError message underlying extensions =>
        cases underlying with
        | null => exact .fieldError message extensions
        | error | fieldError => exact .underlying rfl message extensions
        | _ => cases failure
    | null =>
        cases source with
        | external data errors subschema fieldSubschemas =>
            have failure : (missing errors).isError = true := failure
            rcases (missing_isError_iff errors).mp failure with ⟨e, rfl, error⟩ | several
            · exact .explained rfl error
            · exact .summed rfl several
        | _ => cases failure
    -- Anything else stays what it is, or is tagged, which makes no error of it.
    | _ => cases source <;> cases failure
  · intro failing
    cases failing with
    | error => cases source <;> rfl
    | fieldError => rfl
    | @underlying e error =>
        cases e with
        | null => cases error
        | _ => exact error
    | explained tagged error =>
        subst tagged
        exact error
    | summed tagged several =>
        subst tagged
        exact (missing_isError_iff _).mpr (.inr several)

end Delegation

namespace Resolver

open Delegation

namespace MethodCall

/-- Whether a failure lies inside of what a call gives, where the description takes the value of the field from. -/
def Exposes (d : MethodCall) (st : Store) (outcome : Except Fault Value) : Prop :=
  ∃ given found, outcome = .ok given ∧ (st.snapshot given).isError = false ∧
    located (st.snapshot given) d.returnData = .ok found ∧ Failing (st.snapshot given) found

variable {d : MethodCall} {st : Store} {field : FieldInfo} {outcome : Except Fault Value}

theorem returned_value {source path : Value} {responseKey : String} {type : Option TypeRef}
    {part : Value × List Visit} (returns : returned source path responseKey type = .ok part) :
    ∃ found, located source path = .ok found ∧ part.1 = (extracted source found responseKey).value := by
  rw [returned, extract_eq] at returns
  cases there : located source path with
  | error fault =>
      rw [there] at returns
      cases returns
  | ok found =>
      rw [there] at returns
      cases returns
      exact ⟨found, rfl, rfl⟩

theorem Entry.isError_iff {part : Value × List Visit} (entry : d.Entry st field outcome part) :
    part.1.isError = true ↔ d.Exposes st outcome := by
  cases entry with
  | raised fault =>
      refine ⟨nofun, ?_⟩
      rintro ⟨given, found, gave, -⟩
      cases gave
  | failed error =>
      refine ⟨nofun, ?_⟩
      rintro ⟨given, found, gave, sound, -⟩
      cases gave
      rw [error] at sound
      cases sound
  | taken sound returns =>
      obtain ⟨found, there, value⟩ := returned_value returns
      rw [value, extracted_isError_iff]
      constructor
      · exact fun failing => ⟨_, found, rfl, sound, there, failing⟩
      · rintro ⟨given, found', gave, -, there', failing⟩
        cases gave
        obtain rfl : found = found' := Except.ok.inj (there.symm.trans there')
        exact failing

/-- Whether a call fails, or gives an error. -/
def Fails (st : Store) (outcome : Except Fault Value) : Prop :=
  ∀ given, outcome = .ok given → (st.snapshot given).isError = true

theorem Entry.of_fails {part : Value × List Visit} (entry : d.Entry st field outcome part) (fails : Fails st outcome) :
    part.1 = .null := by
  cases entry with
  | raised | failed => rfl
  | taken sound =>
      rw [fails _ rfl] at sound
      cases sound

/-- If the method is called once for each element, an entry of the list that comes out is null if its call fails or
gives an error. It is an error itself exactly if a failure lies inside of what the call gives; so there are no errors
in the list exactly if no call gives something with a failure inside. -/
theorem entries_expose_iff {host : Host} {environment : List (String × String)} {st : Store} {d : MethodCall}
    {request : Request} {elements : List Value} {method : Value}
    (fans : FansOut host environment st d request elements method) (field : FieldInfo) :
    let st' := (buildArguments host environment st request d.args).store
    let outcome : Nat → Value → Except Fault Value := fun i args => host.call st' method
      { arguments := args
        selectedFields := d.resultSelectedFields
        selectionSet := d.resultSelectionSet
        depth := d.resultDepth
        position := i }
    ∃ entries, (d.resolve host environment st request field).result = .ok (.list entries) ∧
      entries.length = elements.length ∧
      (∀ i args, elements[i]? = some args → ∃ v, entries[i]? = some v ∧
        (Fails st' (outcome i args) → v = .null) ∧
        (v.isError = true ↔ d.Exposes st' (outcome i args))) ∧
      ((∀ v ∈ entries, v.isError = false) ↔
        ∀ i args, elements[i]? = some args → ¬ d.Exposes st' (outcome i args)) := by
  intro st' outcome
  obtain ⟨es, all, size, extractions⟩ := exists_extractions host st' field method fans.readable elements
  have resolves := congrArg Resolution.result (resolve_extractions fans all)
  have each : ∀ i args, elements[i]? = some args → ∃ v, (es.map (·.value))[i]? = some v ∧
      (Fails st' (outcome i args) → v = .null) ∧ (v.isError = true ↔ d.Exposes st' (outcome i args)) := by
    intro i args there
    obtain ⟨e, found, entry⟩ := extractions i args there
    exact ⟨e.value, by rw [List.getElem?_map, found, Option.map_some], entry.of_fails, entry.isError_iff⟩
  refine ⟨es.map (·.value), resolves, by rw [List.length_map, size], each, ?_, ?_⟩
  · intro sound i args there exposes
    obtain ⟨v, found, -, error⟩ := each i args there
    have failing := error.mpr exposes
    rw [sound v (List.mem_of_getElem? found)] at failing
    cases failing
  · intro unexposed v member
    obtain ⟨i, found⟩ := List.mem_iff_getElem?.mp member
    have inside : i < elements.length := by
      obtain ⟨inside, -⟩ := List.getElem?_eq_some_iff.mp found
      rwa [List.length_map, size] at inside
    obtain ⟨v', found', -, error⟩ := each i elements[i] (List.getElem?_eq_getElem inside)
    obtain rfl : v = v' := Option.some.inj (found.symm.trans found')
    exact Bool.eq_false_iff.mpr fun failing =>
      unexposed i elements[i] (List.getElem?_eq_getElem inside) (error.mp failing)

end MethodCall

/-- A host whose people have an error for a name, no name with an error to explain it, and an error in their place. -/
def faultyPeople : Host where
  onRequest _ _ _ := .ok (.list [.int 4, .int 5, .int 6])
  onCall _ _ call :=
    match call.arguments with
    | .int 4 => .ok (.map [(.text "name", .error "LookupError" "nobody" none)])
    | .int 5 => .ok (.external [] [.error "TimeoutError" "too late" none] (.text "People") [])
    | _ => .ok (.error "LookupError" "nobody" none)
  onConfig _ v := .ok v

/-- Only the error that is given in place of a person becomes null; the first two names are errors. -/
theorem faultyPeople_exposed :
    MethodCall.FansOut faultyPeople [] .empty namesById askingNames [.int 4, .int 5, .int 6] (.function 1 "byId") ∧
    ∃ entries, (namesById.resolve faultyPeople [] .empty askingNames names).result = .ok (.list entries) ∧
      (∃ v, entries[0]? = some v ∧ v.isError = true) ∧ (∃ v, entries[1]? = some v ∧ v.isError = true) ∧
      entries[2]? = some .null := by
  have fans : MethodCall.FansOut faultyPeople [] .empty namesById askingNames [.int 4, .int 5, .int 6]
      (.function 1 "byId") := ⟨rfl, ⟨_, rfl, rfl⟩, rfl, .inr ⟨"name", rfl⟩⟩
  obtain ⟨entries, resolves, -, each, -⟩ := MethodCall.entries_expose_iff fans names
  obtain ⟨first, atFirst, -, firstExposes⟩ := each 0 (.int 4) rfl
  obtain ⟨second, atSecond, -, secondExposes⟩ := each 1 (.int 5) rfl
  obtain ⟨third, atThird, fails, -⟩ := each 2 (.int 6) rfl
  refine ⟨fans, entries, resolves, ⟨first, atFirst, firstExposes.mpr ?_⟩,
    ⟨second, atSecond, secondExposes.mpr ?_⟩, ?_⟩
  · exact ⟨_, _, rfl, rfl, rfl, .error "LookupError" "nobody" none⟩
  · exact ⟨_, .null, rfl, rfl, rfl, .explained rfl rfl⟩
  · rw [atThird, fails]
    rintro given ⟨⟩
    rfl

end Resolver

end GraphGateway
