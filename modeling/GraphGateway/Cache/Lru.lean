import GraphGateway.Cache.Timed

/-!
# Caches of recently used entries

A cache keeps at most a given number of entries. Each is given a time to live, or none; the cache tells its store when
the entry expires.
-/

namespace GraphGateway.Cache

open Number

/-- When an entry expires: never, unless it is given a time to live that is not negative or zero. -/
def expiry (now : Numeric) (ttl : Value) : Except Fault Numeric :=
  match ttl with
  | .null => .ok .infinity
  | ttl =>
    match ttl.numeric? with
    | none => .error (.misuse (.notOrdered "<=" ttl.kind "int"))
    | some time =>
      if time.le (.int 0) then .ok .infinity
      else
        match now.add? time with
        | some expires => .ok expires
        | none => .error .integerTooLarge

namespace Lru

/-- A cache as a configuration describes it, or else of a default size. -/
def ofConfig (config default : Value) : Except Fault Lru :=
  match config.entries? with
  | some entries =>
    let size := (Value.lookup "max" entries).getD .null
    ofSize (if size.truthy then size else default)
  | none => if config.truthy then .error (.missingAttribute config.owner "get") else ofSize default

def set (c : Lru) (now : Numeric) (key value ttl : Value) : Option Fault × Lru :=
  match expiry now ttl with
  | .error fault => (some fault, c)
  | .ok expires => c.write now { key, value, expires }

def get (c : Lru) (now : Numeric) (key : Value) : Except Fault Value × Lru :=
  let (found, c) := c.read now key
  (found.map fun i => i.elim .null (·.value), c)

def delete (c : Lru) (now : Numeric) (key : Value) : Option Fault × Lru :=
  c.remove now key

def length (c : Lru) (now : Numeric) : Nat × Lru :=
  c.count now

end Lru

end GraphGateway.Cache
