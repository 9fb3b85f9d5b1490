import GraphGateway.Proofs.Delegation.Extraction
import GraphGateway.Proofs.Tasks.Gathering
import GraphGateway.Resolver.MethodCall

/-!
# One call for each element

If the arguments of a method call come out as a list, the method is called once for each element, and each call
decides about its own element alone: it is null if the call fails or gives an error, and else what the field takes
out of what the call gives. The calls go on side by side; no order in which they do changes what the field gives.
-/

namespace GraphGateway

namespace Delegation

/-- The value of a field in what a source returned, with the values that tagging comes to if it is expected to have
a type. -/
def returned (source path : Value) (responseKey : String) (type : Option TypeRef) :
    Except Fault (Value × List Visit) :=
  (extract source path responseKey).map fun e => (e.value, e.visits type)

end Delegation

namespace Resolver

open Delegation Tasks

namespace MethodCall

/-- What the outcome of a call makes of its element: a value, and the values that tagging comes to on the way. -/
inductive Entry (d : MethodCall) (st : Store) (field : FieldInfo) : Except Fault Value → Value × List Visit → Prop
  | raised (fault : Fault) : Entry d st field (.error fault) (.null, [])
  | failed {given : Value} (error : (st.snapshot given).isError = true) : Entry d st field (.ok given) (.null, [])
  | taken {given : Value} {part : Value × List Visit} (sound : (st.snapshot given).isError = false)
      (returns : returned (st.snapshot given) d.returnData field.name.responseKey (itemType field.type) = .ok part) :
      Entry d st field (.ok given) part

/-- An entry is decided by the outcome of its call alone. -/
theorem Entry.unique {d : MethodCall} {st : Store} {field : FieldInfo} {outcome : Except Fault Value}
    {one other : Value × List Visit} (left : d.Entry st field outcome one) (right : d.Entry st field outcome other) :
    one = other := by
  cases left with
  | raised fault =>
      cases right
      rfl
  | failed error =>
      cases right with
      | failed => rfl
      | taken sound => exact absurd (error.symm.trans sound) nofun
  | taken sound returns =>
      cases right with
      | failed error => exact absurd (error.symm.trans sound) nofun
      | taken _ returns' => exact Except.ok.inj (returns.symm.trans returns')

/-- A request whose arguments come out as a list, for a method that is there and a field found along a text or
returned whole. -/
structure FansOut (host : Host) (environment : List (String × String)) (st : Store) (d : MethodCall)
    (request : Request) (elements : List Value) (method : Value) : Prop where
  accepted : checkNames st "_method_call_resolver.<locals>.resolve" ["root", "info"] request.args = .ok ()
  several : ∃ args, (buildArguments host environment st request d.args).result = .ok args ∧
    (buildArguments host environment st request d.args).store.look args = .list elements
  offered : d.method (buildArguments host environment st request d.args).store request.context = .ok method
  readable : d.returnData = .null ∨ ∃ s, d.returnData = .text s

/-- What becomes of the elements, each by its own call. -/
def outcomes (host : Host) (st : Store) (d : MethodCall) (field : FieldInfo) (method : Value)
    (elements : List Value) : List (Except Fault Extraction) :=
  elements.mapIdx fun i args => (d.resolveElement host st field method i args).outcome

/-- The calls for some elements after they have gone on in some order. -/
def gathering (host : Host) (st : Store) (d : MethodCall) (field : FieldInfo) (method : Value)
    (elements : List Value) (schedule : List Nat) : Gathering Extraction :=
  Gathering.run (d.outcomes host st field method elements) schedule

/-- What the field gives once the calls have ended. -/
def awaited (g : Gathering Extraction) : Option (Except Fault Value) :=
  g.answer?.map fun answer => answer.map fun es => .list (es.map (·.value))

/-- The calls that have been made, in the order in which they were: a task makes those for its element as it begins. -/
def begunCalls (host : Host) (st : Store) (d : MethodCall) (field : FieldInfo) (method : Value)
    (elements : List Value) (g : Gathering Extraction) : List (Value × Call) :=
  g.begun.flatMap fun i => elements[i]?.elim [] fun args => (d.resolveElement host st field method i args).calls

section Elements

variable (host : Host) (st : Store) {d : MethodCall} (field : FieldInfo) (method : Value)

theorem elementOf_entry (readable : d.returnData = .null ∨ ∃ s, d.returnData = .text s) (outcome : Except Fault Value) :
    ∃ e, d.elementOf st field outcome = .ok e ∧
      d.Entry st field outcome (e.value, e.visits (itemType field.type)) := by
  cases outcome with
  | error fault => exact ⟨.plain .null, rfl, .raised fault⟩
  | ok given =>
      cases error : (st.snapshot given).isError with
      | true => exact ⟨.plain .null, by simp [elementOf, error], .failed error⟩
      | false =>
          obtain ⟨found, located⟩ := located_succeeds (st.snapshot given) readable
          have extracts : d.extract field (st.snapshot given) =
              .ok (extracted (st.snapshot given) found field.name.responseKey) := by
            simp only [extract, extract_eq, located, Except.map]
          refine ⟨_, by simpa [elementOf, error] using extracts, .taken error ?_⟩
          rw [extract] at extracts
          simp only [returned, extracts, Except.map]

theorem length_outcomes (d : MethodCall) (elements : List Value) :
    (d.outcomes host st field method elements).length = elements.length :=
  List.length_mapIdx

/-- What becomes of the elements are extractions in their order, each with the entry of its own call. -/
theorem exists_extractions (readable : d.returnData = .null ∨ ∃ s, d.returnData = .text s) (elements : List Value) :
    ∃ es : List Extraction, d.outcomes host st field method elements = es.map .ok ∧ es.length = elements.length ∧
      ∀ i args, elements[i]? = some args → ∃ e, es[i]? = some e ∧
        d.Entry st field (host.call st method (d.callFor i args)) (e.value, e.visits (itemType field.type)) := by
  have unfailed : ∀ outcome ∈ d.outcomes host st field method elements, ∃ e, outcome = .ok e := by
    intro outcome member
    obtain ⟨i, inside, rfl⟩ := List.mem_mapIdx.mp member
    obtain ⟨e, resolves, -⟩ := elementOf_entry st field readable (host.call st method (d.callFor i elements[i]))
    exact ⟨e, resolves⟩
  obtain ⟨es, all⟩ := exists_results unfailed
  have size := congrArg List.length all
  rw [length_outcomes, List.length_map] at size
  refine ⟨es, all, size.symm, fun i args there => ?_⟩
  obtain ⟨e, resolves, entry⟩ := elementOf_entry st field readable (host.call st method (d.callFor i args))
  have same := congrArg (·[i]?) all
  have taken : (d.resolveElement host st field method i args).outcome = .ok e := resolves
  simp only [outcomes, List.getElem?_mapIdx, there, Option.map_some, taken, List.getElem?_map] at same
  obtain ⟨e', there', equal⟩ := Option.map_eq_some_iff.mp same.symm
  cases equal
  exact ⟨e, there', entry⟩

theorem called_function {id : Nat} {label : String} (function : st.look method = .function id label) (c : Call) :
    host.called st method c = ⟨host.onCall id st c, [(.function id label, c)]⟩ := by
  simp only [Host.called, function]

theorem flatMap_range (elements : List α) (f : Nat → α → List β) :
    (List.range elements.length).flatMap (fun i => elements[i]?.elim [] (f i)) = (elements.mapIdx f).flatten := by
  induction elements generalizing f with
  | nil => rfl
  | cons first rest ih =>
      rw [List.length_cons, List.range_succ_eq_map, List.mapIdx_cons, List.flatten_cons, ← ih, List.flatMap_cons,
        List.flatMap_map]
      rfl

theorem flatten_mapIdx_single (elements : List α) (f : Nat → α → β) :
    (elements.mapIdx fun i a => [f i a]).flatten = elements.mapIdx f := by
  induction elements generalizing f with
  | nil => rfl
  | cons first rest ih =>
      rw [List.mapIdx_cons, List.mapIdx_cons, List.flatten_cons, ih]
      rfl

theorem begunCalls_perm (d : MethodCall) (elements : List Value) {schedule : List Nat}
    (fair : Fair elements.length schedule) :
    let gathering := d.gathering host st field method elements schedule
    gathering.begun.Perm (List.range elements.length) ∧
      (d.begunCalls host st field method elements gathering).Perm
        (elements.mapIdx fun i args => (d.resolveElement host st field method i args).calls).flatten := by
  intro gathering
  have size := length_outcomes host st field method d elements
  have begun := begun_perm (size.symm ▸ fair)
  rw [size] at begun
  refine ⟨begun, (begun.flatMap_right _).trans ?_⟩
  rw [flatMap_range]

end Elements

section Requests

variable {host : Host} {environment : List (String × String)} {st : Store} {d : MethodCall} {request : Request}
  {elements : List Value} {method : Value}

theorem resolve_several (fans : FansOut host environment st d request elements method) (field : FieldInfo) :
    let st' := (buildArguments host environment st request d.args).store
    let outcomes := d.outcomes host st' field method elements
    d.resolve host environment st request field =
      { result := (outcomes.mapM id).map fun es => .list (es.map (·.value))
        store := st'
        concurrent := !elements.isEmpty
        calls := (elements.mapIdx fun i args => (d.resolveElement host st' field method i args).calls).flatten
        visits := outcomes.flatMap (seen (itemType field.type)) } := by
  obtain ⟨args, built, several⟩ := fans.several
  simp only [resolve, fans.accepted, answer, built, fans.offered, Except.bind, Except.map, several, outcomes,
    List.mapIdx_eq_zipIdx_map, List.map_map, List.flatMap_def, Function.comp_def]

theorem resolve_extractions (fans : FansOut host environment st d request elements method) {field : FieldInfo}
    {es : List Extraction}
    (all : d.outcomes host (buildArguments host environment st request d.args).store field method elements =
      es.map .ok) :
    let st' := (buildArguments host environment st request d.args).store
    d.resolve host environment st request field =
      { result := .ok (.list (es.map (·.value)))
        store := st'
        concurrent := !elements.isEmpty
        calls := (elements.mapIdx fun i args => (d.resolveElement host st' field method i args).calls).flatten
        visits := es.flatMap (·.visits (itemType field.type)) } := by
  rw [resolve_several fans field]
  simp only [all, sequence_ok, Except.map, List.flatMap_map, seen]

/-- The method is called once for each element, with what the description selects of the result, and a list of the
same length comes out, in the order of the elements, whose entries are each decided by their own call. The same comes
out in whatever order the calls go on, and the same calls are made. -/
theorem resolve_fansOut (fans : FansOut host environment st d request elements method) (field : FieldInfo) :
    let st' := (buildArguments host environment st request d.args).store
    let resolution := d.resolve host environment st request field
    let call : Nat → Value → Call := fun i args =>
      { arguments := args
        selectedFields := d.resultSelectedFields
        selectionSet := d.resultSelectionSet
        depth := d.resultDepth
        position := i }
    ∃ parts : List (Value × List Visit),
      parts.length = elements.length ∧
      (∀ i args, elements[i]? = some args → ∀ part, parts[i]? = some part ↔
        d.Entry st' field (host.call st' method (call i args)) part) ∧
      resolution.result = .ok (.list (parts.map (·.1))) ∧
      resolution.visits = parts.flatMap (·.2) ∧
      (∀ id label, st'.look method = .function id label →
        (∀ c, host.call st' method c = host.onCall id st' c) ∧
        resolution.calls = elements.mapIdx fun i args => (.function id label, call i args)) ∧
      ∀ schedule, Fair elements.length schedule →
        let gathering := d.gathering host st' field method elements schedule
        awaited gathering = some resolution.result ∧
        gathering.begun.Perm (List.range elements.length) ∧
        (d.begunCalls host st' field method elements gathering).Perm resolution.calls := by
  intro st' resolution call
  obtain ⟨es, all, size, entries⟩ := exists_extractions host st' field method fans.readable elements
  have resolves := resolve_extractions fans all
  refine ⟨es.map fun e => (e.value, e.visits (itemType field.type)), by simpa using size, ?_, ?_, ?_, ?_, ?_⟩
  · intro i args there part
    obtain ⟨e, found, entry⟩ := entries i args there
    rw [List.getElem?_map, found, Option.map_some, Option.some_inj]
    exact ⟨fun same => same ▸ entry, entry.unique⟩
  · simp only [resolution, resolves, List.map_map, Function.comp_def]
  · simp only [resolution, resolves, List.flatMap_map]
  · intro id label function
    have calls := called_function host st' method function
    refine ⟨fun c => congrArg Called.outcome (calls c), ?_⟩
    simp only [resolution, resolves, resolveElement, st', calls]
    exact flatten_mapIdx_single elements fun i args => (Value.function id label, d.callFor i args)
  · intro schedule fair gathering
    obtain ⟨once, made⟩ := begunCalls_perm host st' field method d elements fair
    have answers : gathering.answer? = some (.ok es) := by
      simp only [gathering, MethodCall.gathering, all]
      exact answer_of_ok (size ▸ fair)
    refine ⟨?_, once, ?_⟩
    · simp only [awaited, answers, resolution, resolves, Option.map_some, Except.map]
    · simpa only [resolution, resolves] using made

end Requests

end MethodCall

/-- A description that looks up people one by one and takes their names. -/
def namesById : MethodCall where
  type := .text "Query"
  field := .text "names"
  targetSource := .text "People"
  targetMethod := .text "byId"
  args := .function 0 "ids"
  resultSelectedFields := .null
  resultSelectionSet := .null
  resultDepth := .null
  returnData := .text "name"
  requiredSelectionSet := .null

/-- A host with one person: a second look-up raises an error, and a third gives one. -/
def onePerson : Host where
  onRequest _ _ _ := .ok (.list [.int 4, .int 5, .int 6])
  onCall _ _ call :=
    match call.arguments with
    | .int 4 => .ok (.map [(.text "name", .text "first")])
    | .int 5 => .error (.raised "TimeoutError" "too late" none)
    | _ => .ok (.error "LookupError" "nobody" none)
  onConfig _ v := .ok v

def askingNames : Request where
  root := .null
  args := .map []
  context := .map [(.text "People", .map [(.text "api", .map [(.text "byId", .function 1 "byId")])])]
  info := .null

def names : FieldInfo where
  name := ⟨"names", none⟩
  type := some (.list (.named "String"))

def lookUp (position : Nat) (id : Int) : Call where
  arguments := .int id
  selectedFields := .null
  selectionSet := .null
  depth := .null
  position := position

/-- The last look-up ends before the first, and the only name is still in its place. -/
theorem namesById_ordered :
    MethodCall.FansOut onePerson [] .empty namesById askingNames [.int 4, .int 5, .int 6] (.function 1 "byId") ∧
    (namesById.resolve onePerson [] .empty askingNames names).calls =
      [(.function 1 "byId", lookUp 0 4), (.function 1 "byId", lookUp 1 5), (.function 1 "byId", lookUp 2 6)] ∧
    Fair 3 [2, 0, 2, 1, 1, 0] ∧
    MethodCall.awaited (namesById.gathering onePerson .empty names (.function 1 "byId") [.int 4, .int 5, .int 6]
        [2, 0, 2, 1, 1, 0]) = some (.ok (.list [.text "first", .null, .null])) := by
  have fans : MethodCall.FansOut onePerson [] .empty namesById askingNames [.int 4, .int 5, .int 6]
      (.function 1 "byId") := ⟨rfl, ⟨_, rfl, rfl⟩, rfl, .inr ⟨"name", rfl⟩⟩
  have fair : Fair 3 [2, 0, 2, 1, 1, 0] := by decide
  obtain ⟨parts, -, -, -, -, called, orders⟩ := MethodCall.resolve_fansOut fans names
  exact ⟨fans, (called 1 "byId" rfl).2, fair, (orders [2, 0, 2, 1, 1, 0] fair).1.trans rfl⟩

end Resolver

end GraphGateway
