import GraphGateway.Path.Read

/-!
# Following joined paths

Reading along a path is a walk that asks one value after the other for what a key leads to. Asking a list may fail: the
key writes no index, or one that is out of range. These are the only failures there are, and each of them counts as
nothing being there; so a walk always ends, at a value or at the default. To follow two paths one after the other is to
follow their join.
-/

namespace GraphGateway

namespace Store

def writtenIndex (key : String) : Except Fault Int :=
  match Number.readInt key.toList with
  | .ok i => .ok i
  | .error .malformed => .error (.notANumeral key)
  | .error (.tooLong digits) => .error (.numeralTooLong digits)

def itemAt (sequence : String) (items : List Value) (i : Int) : Except Fault Value :=
  match (position? items.length i).bind (items[·]?) with
  | some v => .ok v
  | none =>
    if i < -Int.pow 2 63 ∨ Int.pow 2 63 ≤ i then .error .indexTooLarge else .error (.outOfRange sequence)

/-- Ask a value for what a key leads to. -/
def ask (st : Store) (v : Value) (key : String) : Except Fault Value :=
  let container := st.look v
  match container.entries? with
  | some entries => .ok ((Value.lookup key entries).getD .null)
  | none =>
    match container with
    | .list items => do itemAt "list" items (← writtenIndex key)
    | .tuple items => do itemAt "tuple" items (← writtenIndex key)
    | _ => .ok ((st.attribute? v key).getD .null)

/-- The kinds of failures that count as nothing being there. -/
def absences : List String :=
  ["ValueError", "IndexError"]

/-- Ask a value for what a key leads to, if there is such a thing. -/
def seek (st : Store) (v : Value) (key : String) : Except Fault Value :=
  match st.ask v key with
  | .ok found => .ok found
  | .error fault => if fault.kind ∈ absences then .ok .null else .error fault

/-- Walk along keys. Nothing lies below null, in the place of which the default is given. -/
def walk (st : Store) (default : Value) : Value → List String → Except Fault Value
  | .null, _ => .ok default
  | v, [] => .ok v
  | v, key :: rest => do st.walk default (← st.seek v key) rest

/-- Follow a path, a text or a list of keys, from a value. -/
def follow (st : Store) (v path default : Value) : Except Fault Value := do
  st.walk default v (← st.pathKeys path)

theorem writtenIndex_fails {key : String} {fault : Fault} (failed : writtenIndex key = .error fault) :
    fault.kind = "ValueError" := by
  unfold writtenIndex at failed
  split at failed <;> cases failed <;> rfl

theorem itemAt_fails {sequence : String} {items : List Value} {i : Int} {fault : Fault}
    (failed : itemAt sequence items i = .error fault) : fault.kind = "IndexError" := by
  unfold itemAt at failed
  split at failed
  · cases failed
  · split at failed <;> cases failed <;> rfl

theorem sequence_fails {sequence : String} {items : List Value} {key : String} {fault : Fault}
    (failed : (do itemAt sequence items (← writtenIndex key)) = Except.error fault) : fault.kind ∈ absences := by
  cases index : writtenIndex key with
  | error cause =>
      rw [index] at failed
      cases failed
      simp [absences, writtenIndex_fails index]
  | ok i =>
      rw [index] at failed
      simp [absences, itemAt_fails failed]

theorem ask_fails {st : Store} {v : Value} {key : String} {fault : Fault} (failed : st.ask v key = .error fault) :
    fault.kind ∈ absences := by
  unfold ask at failed
  dsimp only at failed
  split at failed
  · cases failed
  · split at failed
    · exact sequence_fails failed
    · exact sequence_fails failed
    · cases failed

/-- What an answer comes to, if no answer is null. -/
def answered (answer : Except Fault Value) : Value :=
  answer.toOption.getD .null

theorem answered_sequence (sequence : String) (items : List Value) (key : String) :
    answered (do itemAt sequence items (← writtenIndex key)) = item items key := by
  unfold item writtenIndex
  cases Number.readInt key.toList with
  | error unread => cases unread <;> rfl
  | ok i =>
      simp only [bind, Except.bind, itemAt]
      cases (position? items.length i).bind (items[·]?) with
      | some v => rfl
      | none =>
          dsimp only
          split <;> rfl

theorem answered_ask (st : Store) (v : Value) (key : String) : answered (st.ask v key) = st.child v key := by
  unfold ask child
  generalize st.look v = container
  cases contents : container.entries? with
  | some entries => simp only [contents, answered, Except.toOption, Option.getD_some]
  | none =>
      cases container with
      | list items => exact answered_sequence "list" items key
      | tuple items => exact answered_sequence "tuple" items key
      | map | external | environment => cases contents
      | _ => rfl

/-- Whatever keeps a value from answering is an absence, so that seeking never fails. -/
theorem seek_eq (st : Store) (v : Value) (key : String) : st.seek v key = .ok (st.child v key) := by
  rw [← answered_ask, seek]
  cases asked : st.ask v key with
  | ok found => rfl
  | error fault => exact if_pos (ask_fails asked)

theorem readOr_of_read_null {st : Store} {v : Value} {keys : List String} (absent : st.read v keys = .null)
    (default : Value) : st.readOr v keys default = default := by
  simp only [readOr, absent]

theorem walk_eq (st : Store) (default v : Value) (keys : List String) :
    st.walk default v keys = .ok (st.readOr v keys default) := by
  induction keys generalizing v with
  | nil => cases v <;> rfl
  | cons key rest ih =>
      by_cases absent : v = .null
      · subst absent
        rw [walk, readOr_of_read_null (st.read_null _)]
      · have step : st.walk default v (key :: rest) = st.walk default (st.child v key) rest := by
          rw [walk, seek_eq]
          · rfl
          · exact absent
        have onward : st.read v (key :: rest) = st.read (st.child v key) rest := by
          cases v <;> first | rfl | exact absurd rfl absent
        rw [step, ih, readOr, readOr, onward]

theorem follow_eq (st : Store) (v path default : Value) :
    st.follow v path default = (st.pathKeys path).map fun keys => st.readOr v keys default := by
  unfold follow
  cases st.pathKeys path with
  | error fault => rfl
  | ok keys => exact st.walk_eq default v keys

theorem pathKeys_list (st : Store) (keys : List String) : st.pathKeys (.list (keys.map .text)) = .ok keys := by
  have texts : (keys.map Value.text).map st.text = keys := by
    rw [List.map_map]
    exact List.map_id'' (fun key => rfl) keys
  exact congrArg Except.ok texts

theorem readOr_append (st : Store) (v : Value) (ps qs : List String) (default : Value) :
    st.readOr v (ps ++ qs) default = st.readOr (st.readOr v ps .null) qs default := by
  have halfway : st.readOr v ps .null = st.read v ps := by
    cases found : st.read v ps <;> simp only [readOr, found]
  rw [halfway, readOr, read_append, readOr]

/-- Paths, texts or lists of keys, lead somewhere from every value, and to follow the join of two of them is to follow
the second one from where the first one leads. -/
theorem follow_joined (st : Store) (v default : Value) :
    (∀ path, st.follow v path default = (st.pathKeys path).map fun keys => st.readOr v keys default) ∧
    (∀ p q : String, ∃ halfway found, st.follow v (.text p) .null = .ok halfway ∧
      st.follow halfway (.text q) default = .ok found ∧
      st.follow v (.text (p ++ "." ++ q)) default = .ok found) ∧
    ∀ ps qs : List String, ∃ halfway found, st.follow v (.list (ps.map .text)) .null = .ok halfway ∧
      st.follow halfway (.list (qs.map .text)) default = .ok found ∧
      st.follow v (.list (ps.map .text ++ qs.map .text)) default = .ok found := by
  refine ⟨fun path => st.follow_eq v path default, fun p q => ?_, fun ps qs => ?_⟩
  · refine ⟨_, _, st.follow_eq v (.text p) .null, st.follow_eq _ (.text q) default, ?_⟩
    rw [follow_eq]
    have joined : st.pathKeys (.text (p ++ "." ++ q)) = .ok (Path.keys p ++ Path.keys q) :=
      congrArg Except.ok (Path.keys_append p q)
    rw [joined]
    exact congrArg Except.ok (st.readOr_append v (Path.keys p) (Path.keys q) default)
  · have along : ∀ v keys default, st.follow v (.list (keys.map .text)) default = .ok (st.readOr v keys default) := by
      intro v keys default
      rw [follow_eq, pathKeys_list]
      rfl
    refine ⟨_, _, along v ps .null, along _ qs default, ?_⟩
    rw [← List.map_append, along, readOr_append]

end Store

end GraphGateway
