import GraphGateway.Number.Numeric
import GraphGateway.Value.Entries

/-!
# Stores of entries that expire

A cache leaves it to a store to keep its entries. What is taken for granted of the store is all in this module, and
nothing here knows how the time of an entry is told:

* An entry is alive before the time at which it expires (`Item.alive`). Entries whose time is over are dropped when
  the store is written to or counted (`Lru.write`, `Lru.count`); until then they are there, but not found.
* A read of a living entry and every write put the entry behind all others (`Lru.read`, `Lru.insert`).
* A full store drops the entries that are first (`Lru.makeRoom`).
* A value whose time would be over at once is not kept, and the entry under its key is gone.
* The size may be any number: a negative one makes no store, and in one with no room for an entry nothing is written.
-/

namespace GraphGateway

open Number

def Value.numeric? : Value → Option Numeric
  | .bool b => some (.int (if b then 1 else 0))
  | .int n => some (.int n)
  | .real x => some (.real x)
  | _ => none

namespace Cache

structure Item where
  key : Value
  value : Value
  expires : Numeric

def Item.alive (now : Numeric) (i : Item) : Bool :=
  now.lt i.expires

/-- A store: its size, which may be any number, and its entries, the one used last at the end. -/
structure Lru where
  maxSize : Value
  capacity : Numeric
  items : List Item := []

def without (key : Value) (items : List Item) : List Item :=
  items.filter fun i => !Store.empty.sameKey i.key key

namespace Lru

def ofSize (maxSize : Value) : Except Fault Lru :=
  match maxSize.numeric? with
  | none => .error (.misuse (.notOrdered "<" maxSize.kind "int"))
  | some capacity =>
    if capacity.lt (.int 0) then .error .negativeSize else .ok { maxSize, capacity }

def find? (c : Lru) (now : Numeric) (key : Value) : Option Item :=
  (c.items.find? fun i => Store.empty.sameKey i.key key).filter (·.alive now)

def expire (c : Lru) (now : Numeric) : Lru :=
  { c with items := c.items.filter (·.alive now) }

def exceeded (c : Lru) (n : Nat) : Bool :=
  c.capacity.lt (.int n)

/-- Drop the entries that have not been used for longest, until one more has room. -/
def makeRoom (c : Lru) : List Item → List Item
  | [] => []
  | i :: rest => if c.exceeded (rest.length + 2) then c.makeRoom rest else i :: rest

/-- Put an entry last, in the place of that of its key or else where room is made for it. -/
def insert (c : Lru) (i : Item) : Lru :=
  if c.items.any fun j => Store.empty.sameKey j.key i.key then
    { c with items := without i.key c.items ++ [i] }
  else { c with items := c.makeRoom c.items ++ [i] }

/-- Write an entry. One whose time would be over at once only removes the old one. -/
def write (c : Lru) (now : Numeric) (i : Item) : Option Fault × Lru :=
  let c := c.expire now
  if now.lt i.expires then
    if c.exceeded 1 then (some .entryTooLarge, c)
    else
      match Store.empty.checkKey i.key with
      | .error fault => (some fault, c)
      | .ok () => (none, c.insert i)
  else
    match Store.empty.checkKey i.key with
    | .error fault => (some fault, c)
    | .ok () => (none, { c with items := without i.key c.items })

/-- Read a living entry, which counts as a use. -/
def read (c : Lru) (now : Numeric) (key : Value) : Except Fault (Option Item) × Lru :=
  match Store.empty.checkKey key with
  | .error fault => (.error fault, c)
  | .ok () =>
    match c.find? now key with
    | some i => (.ok (some i), { c with items := without key c.items ++ [i] })
    | none => (.ok none, c)

def remove (c : Lru) (now : Numeric) (key : Value) : Option Fault × Lru :=
  match Store.empty.checkKey key with
  | .error fault => (some fault, c)
  | .ok () =>
    if (c.find? now key).isSome then (none, { c with items := without key c.items }) else (none, c)

/-- The number of living entries; the others are dropped. -/
def count (c : Lru) (now : Numeric) : Nat × Lru :=
  let c := c.expire now
  (c.items.length, c)

end Lru

end Cache

end GraphGateway
