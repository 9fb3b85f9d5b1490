import GraphGateway.Value.Equal

/-!
# Entries of mappings

A mapping is a list of entries in the order in which their keys were first put in. A key that holds a
container cannot be looked up or put in.
-/

namespace GraphGateway

namespace Store

/-- Refuse a value that cannot be a key. -/
def checkKey (st : Store) (key : Value) : Except Fault Unit :=
  match (st.snapshot key).unhashable? with
  | some kind => .error (.misuse (.unhashable kind))
  | none => .ok ()

/-- The entries of a shared container; there are none in one that is no mapping. -/
def entriesAt (st : Store) (h : Handle) : List (Value × Value) :=
  (st.get h).entries?.getD []

def find? {α : Type} (st : Store) (entries : List (Value × α)) (key : Value) : Option α :=
  (entries.find? fun e => st.sameKey e.1 key).map (·.2)

/-- The value under a key that may be refused. -/
def findKey {α : Type} (st : Store) (entries : List (Value × α)) (key : Value) :
    Except Fault (Option α) := do
  st.checkKey key
  pure (st.find? entries key)

end Store

namespace Value

/-- Put a value under a key: in the place of the old value, or at the end. -/
def insert {α : Type} (entries : List (Value × α)) (key : Value) (value : α) : List (Value × α) :=
  match entries with
  | [] => [(key, value)]
  | e :: rest =>
    if Store.empty.sameKey e.1 key then (e.1, value) :: rest else e :: insert rest key value

/-- Put entries into a mapping, one after the other. -/
def update {α : Type} (entries added : List (Value × α)) : List (Value × α) :=
  added.foldl (fun entries e => insert entries e.1 e.2) entries

/-- A mapping built from entries of which later ones replace earlier ones. -/
def ofEntries (entries : List (Value × Value)) : Value :=
  .map (update [] entries)

/-- The elements that a value runs through: characters, bytes, items or keys. -/
def elements? : Value → Option (List Value)
  | .text s => some (s.toList.map fun c => .text (String.singleton c))
  | .illFormed codes => some (codes.map fun c => ofCodes [c])
  | .bytes bs => some (bs.map fun b => .int b.toNat)
  | .list items | .tuple items => some items
  | v => v.entries?.map (·.map (·.1))

def elements (v : Value) : Except Fault (List Value) :=
  match v.elements? with
  | some items => .ok items
  | none => .error (.misuse (.notIterable v.kind))

end Value

end GraphGateway
