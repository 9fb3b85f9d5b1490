import GraphGateway.Path.Read

/-!
# Writing along a path

A value is put in at the end of a path, and the containers on the way that are missing, or are no
containers, are made: a list before a key of digits, a mapping before any other key. Writing into a
shared container changes it for every value that refers to it. A failing write leaves behind what it
made before it failed.
-/

namespace GraphGateway

/-- What a write leaves behind: the value that was written into, the shared containers, and why it
failed if it did. -/
structure Written where
  owner : Value
  store : Store
  fault : Option Fault

namespace Path

open Number Text

/-- The index that a key writes for a list. -/
def index (key : String) : Except Fault Nat :=
  if !isDigits key.toList then .error (.notAnIndex key)
  else
    match readInt key.toList with
    | .ok i => .ok i.toNat
    | .error .malformed => .error (.notANumeral key)
    | .error (.tooLong n) => .error (.numeralTooLong n)

def isContainer : Value → Bool
  | .list _ | .map _ | .environment _ => true
  | _ => false

/-- The empty container that is made before a key. -/
def containerFor (key : String) : Value :=
  if isDigits key.toList then .list [] else .map []

/-- What stands under a key of a container that a write passes through. -/
def next (container : Value) (key : String) : Except Fault Value :=
  match container with
  | .list items => (index key).map fun i => items[i]?.getD Value.null
  | v =>
    match v.entries? with
    | some entries => .ok ((Value.lookup key entries).getD .null)
    | none => .error (.missingAttribute v.owner "get")

/-- How many items a list may be filled up with at once. -/
def maxFill : Nat := Nat.pow 2 33

/-- Put an item into a list, which is filled up with null as far as needed. -/
def setItem (items : List Value) (i : Nat) (v : Value) : Except Fault (List Value) :=
  let missing := i + 1 - items.length
  if Nat.pow 2 63 ≤ missing then .error .lengthTooLarge
  else if maxFill < missing then .error .outOfMemory
  else .ok ((items ++ List.replicate missing Value.null).set i v)

/-- Set a variable of the process, in its place or at the end. -/
def setVariable (vars : List (String × String)) (name s : String) :
    Except Fault (List (String × String)) :=
  if name.toList.contains '\x00' || s.toList.contains '\x00' then .error .embeddedNull
  else if name.toList.contains '=' then .error .badVariableName
  else if (vars.lookup name).isSome then
    .ok (vars.map fun v => if v.1 = name then (name, s) else v)
  else .ok (vars ++ [(name, s)])

/-- Put a value under the last key of a path. -/
def assign (container : Value) (key : String) (v : Value) : Except Fault Value :=
  match container with
  | .list items => do pure (.list (← setItem items (← index key) v))
  | .map entries => .ok (.map (Value.insert entries (.text key) v))
  | .environment vars =>
    match v with
    | .text s => (setVariable vars key s).map .environment
    | v => .error (.misuse (.notVariable v.shortKind))
  | v => .error (.misuse (.notAssignable v.kind))

/-- Put a changed container back where it stood. -/
def putBack (container : Value) (key : String) (v : Value) : Value :=
  match container with
  | .external data errors subschema fieldSubschemas =>
    .external (Value.insert data (.text key) v) errors subschema fieldSubschemas
  | container => (assign container key v).toOption.getD container

end Path

namespace Store

open GraphGateway.Path

/-- Put a value under a key of a container. What goes into a shared container becomes shared. -/
def assignIn (st : Store) (owner : Value) (key : String) (v : Value) : Written :=
  match owner with
  | .shared h =>
    let (v, loaded) := st.load v
    match assign (st.get h) key v with
    | .ok container => ⟨owner, loaded.set h container, none⟩
    | .error fault => ⟨owner, st, some fault⟩
  | container =>
    match assign container key v with
    | .ok container => ⟨container, st, none⟩
    | .error fault => ⟨container, st, some fault⟩

def write (st : Store) (owner : Value) (keys : List String) (v : Value) : Written :=
  match keys with
  | [] => ⟨owner, st, some .emptyPath⟩
  | [key] => st.assignIn owner key v
  | key :: key' :: rest =>
    match next (st.look owner) key with
    | .error fault => ⟨owner, st, some fault⟩
    | .ok below =>
      if isContainer (st.look below) then
        let inner := st.write below (key' :: rest) v
        match below with
        | .shared _ => { inner with owner := owner }
        | _ => { inner with owner := putBack owner key inner.owner }
      else
        match assign (st.look owner) key .null with
        | .error fault => ⟨owner, st, some fault⟩
        | .ok _ =>
          let inner := st.write (containerFor key') (key' :: rest) v
          { inner.store.assignIn owner key inner.owner with fault := inner.fault }

end Store

end GraphGateway
