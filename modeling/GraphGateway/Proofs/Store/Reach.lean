import GraphGateway.Store

/-!
# Reaching shared containers

A value reaches the containers that it refers to, and those that they refer to in turn. A store keeps a
value of another one if every container that it reaches there has the same contents.
-/

namespace GraphGateway

namespace Value

mutual

/-- The references that stand in a value. -/
def handles : Value → List Handle
  | .list items | .tuple items => handlesItems items
  | .map entries => handlesEntries entries
  | .record fields => handlesFields fields
  | .external data errors subschema fieldSubschemas =>
    handlesEntries data ++ handlesItems errors ++ handles subschema ++ handlesEntries fieldSubschemas
  | .fieldError _ underlying extensions => handles underlying ++ handles extensions
  | .made _ v | .method v _ => handles v
  | .shared h | .part h _ => [h]
  | _ => []

def handlesItems : List Value → List Handle
  | [] => []
  | v :: rest => handles v ++ handlesItems rest

def handlesEntries : List (Value × Value) → List Handle
  | [] => []
  | (k, v) :: rest => handles k ++ handles v ++ handlesEntries rest

def handlesFields : List (String × Value) → List Handle
  | [] => []
  | (_, v) :: rest => handles v ++ handlesFields rest

end

end Value

namespace Store

/-- The containers of a store that a value leads to. -/
inductive Reaches (st : Store) (v : Value) : Handle → Prop where
  | direct {h : Handle} : h ∈ v.handles → h < st.cells.size → Reaches st v h
  | onward {h k : Handle} : Reaches st v h → k ∈ (st.get h).handles → k < st.cells.size → Reaches st v k

theorem Reaches.inside {st : Store} {v : Value} {h : Handle} (reached : st.Reaches v h) : h < st.cells.size := by
  cases reached with
  | direct _ inside => exact inside
  | onward _ _ inside => exact inside

/-- Whether every container that a value leads to is the same in a later store. -/
def Keeps (st : Store) (v : Value) (after : Store) : Prop :=
  ∀ h, st.Reaches v h → after.get h = st.get h

end Store

end GraphGateway
