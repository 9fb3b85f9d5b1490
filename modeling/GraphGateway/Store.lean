import GraphGateway.Value.Basic

/-!
# Shared containers

A store holds the containers that several values may refer to: whoever changes one of them changes it
for all. `Store.load` moves every container of a value into the store, and `Store.snapshot` reads a
value back as a tree.
-/

namespace GraphGateway

/-- The shared containers, by their handles. No cell is itself a reference. -/
structure Store where
  cells : Array Value := #[]
  deriving Inhabited

namespace Store

def empty : Store := {}

def get (st : Store) (h : Handle) : Value :=
  st.cells[h]?.getD .null

/-- A value with the reference at its top resolved. -/
def look (st : Store) : Value → Value
  | .shared h => st.get h
  | .part h .message => (st.get h).errorPart .message
  | .part h .arguments => .tuple [.part h .message]
  | v => v

def alloc (st : Store) (v : Value) : Handle × Store :=
  (st.cells.size, { cells := st.cells.push v })

def set (st : Store) (h : Handle) (v : Value) : Store :=
  { cells := st.cells.setIfInBounds h v }

/-- Add a container and refer to it. -/
def place (v : Value) (st : Store) : Value × Store :=
  let (h, st) := st.alloc v
  (.shared h, st)

mutual

/-- Move the containers of a value into the store, with everything else that is told apart by identity
and not by its contents: errors, objects of which no more than the kind, the class or the method is known, and
numbers that are not equal to themselves. Keys stay as they are. -/
def load (st : Store) : Value → Value × Store
  | .list items => let r := loadItems st items; place (.list r.1) r.2
  | .tuple items => let r := loadItems st items; place (.tuple r.1) r.2
  | .map entries => let r := loadEntries st entries; place (.map r.1) r.2
  | .record fields => let r := loadFields st fields; place (.record r.1) r.2
  | .external data errors subschema fieldSubschemas =>
    let d := loadEntries st data
    let e := loadItems d.2 errors
    let s := load e.2 subschema
    let f := loadEntries s.2 fieldSubschemas
    place (.external d.1 e.1 s.1 f.1) f.2
  | .fieldError message underlying extensions =>
    let o := load st underlying
    let x := load o.2 extensions
    place (.fieldError message o.1 x.1) x.2
  | .made className configuration => let r := load st configuration; place (.made className r.1) r.2
  | .method object name => let r := load st object; place (.method r.1 name) r.2
  | .error kind text name => place (.error kind text name) st
  | .other kind => place (.other kind) st
  | .real .nan => place (.real .nan) st
  | v => (v, st)

def loadItems (st : Store) : List Value → List Value × Store
  | [] => ([], st)
  | v :: rest =>
    let r := load st v
    let s := loadItems r.2 rest
    (r.1 :: s.1, s.2)

def loadEntries (st : Store) : List (Value × Value) → List (Value × Value) × Store
  | [] => ([], st)
  | (k, v) :: rest =>
    let r := load st v
    let s := loadEntries r.2 rest
    ((k, r.1) :: s.1, s.2)

def loadFields (st : Store) : List (String × Value) → List (String × Value) × Store
  | [] => ([], st)
  | (k, v) :: rest =>
    let r := load st v
    let s := loadFields r.2 rest
    ((k, r.1) :: s.1, s.2)

end

/-- Read a value back, cutting what is being read already. An error is not cut itself, but inside it. -/
def snapshotWithin (st : Store) : Nat → List Handle → Value → Value
  | 0, _, v => v.mapShared fun h => .cut (st.get h).emptied
  | fuel + 1, reading, v =>
    v.mapShared fun h =>
      let found := st.get h
      if found.isError then snapshotWithin st fuel reading found
      else if reading.contains h then .cut found.emptied
      else snapshotWithin st fuel (h :: reading) found

/-- A value as a tree, with a mark where a container holds itself. On the way down each container is
entered once, and no chain of errors between two of them is longer than the store. -/
def snapshot (st : Store) (v : Value) : Value :=
  st.snapshotWithin ((st.cells.size + 1) * (st.cells.size + 1)) [] v

def single (v : Value) : StateM Store Value :=
  if v.isSingular then place v else pure v

/-- A container with references in the place of its singular scalars. -/
def individuateIn : Value → StateM Store Value
  | .list items => return .list (← items.mapM single)
  | .tuple items => return .tuple (← items.mapM single)
  | .map entries => return .map (← entries.mapM fun e => return (e.1, ← single e.2))
  | .record fields => return .record (← fields.mapM fun f => return (f.1, ← single f.2))
  | .external data errors subschema fieldSubschemas => do
    let data ← data.mapM fun e => return (e.1, ← single e.2)
    let errors ← errors.mapM single
    return .external data errors (← single subschema) fieldSubschemas
  | .fieldError message underlying extensions =>
    return .fieldError message (← single underlying) (← single extensions)
  | v => pure v

/-- Tell apart the scalars in the containers of a store, and some values beside them, by identity: each that
is not one of its kind has a handle of its own afterwards. -/
def individuate (st : Store) (beside : List (String × Value)) : List (String × Value) × Store :=
  let inside := (List.range st.cells.size).foldl (fun (st : Store) h =>
    let (cell, st) := (individuateIn (st.get h)).run st
    st.set h cell) st
  (beside.mapM fun (f : String × Value) => return (f.1, ← single f.2) : StateM Store _).run inside

def depth (st : Store) (v : Value) : Nat :=
  st.cells.foldl (fun n cell => n + cell.depth + 1) (v.depth + 1)

end Store

end GraphGateway
