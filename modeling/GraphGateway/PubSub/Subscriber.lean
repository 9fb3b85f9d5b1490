import GraphGateway.Store
import GraphGateway.Fault

/-!
# Subscribers

A subscriber keeps the payloads of its topic until they are read, passes over those that its filter
rejects, and ends when it was closed and everything was read. Reads that find nothing wait in line: each
payload that arrives lets the first of them look again.
-/

namespace GraphGateway.PubSub

/-- What a subscriber keeps: a payload, or the mark that it was closed. -/
inductive Item where
  | payload (v : Value)
  | closing

/-- What a read gives. -/
inductive Reading where
  | payload (v : Value)
  | done
  | failed (fault : Fault)
  | pending

/-- What a read gives at which the filter fails: the failure, or the end if that is what it means. -/
def Reading.ofFault (fault : Fault) : Reading :=
  if fault.endsReading then .done else .failed fault.ofTask

/-- A subscriber of a topic, with the readers that wait for it and the answers of those that waited. -/
structure Subscriber where
  topic : Value
  accepts : Store → Value → Except Fault Bool := fun _ _ => .ok true
  listening : Bool := true
  buffer : List Item := []
  waiting : List Nat := []
  /-- How many of the waiting readers are about to look again. -/
  awake : Nat := 0
  answers : List (Nat × Reading) := []

namespace Subscriber

/-- A subscriber that was closed already, with everything that it will ever give. -/
def ofList (accepts : Store → Value → Except Fault Bool) (items : List Value) : Subscriber where
  topic := .null
  accepts := accepts
  listening := false
  buffer := items.map .payload

/-- Keep an item, and let the first reader that waits look again. -/
def put (s : Subscriber) (item : Item) : Subscriber :=
  { s with
    buffer := s.buffer ++ [item]
    awake := min (s.awake + 1) s.waiting.length }

/-- What is read from a buffer, and what is left of it. A payload at which the filter fails is gone. -/
def readFrom (s : Subscriber) (st : Store) : List Item → Reading × List Item
  | [] => (if s.listening then .pending else .done, [])
  | .closing :: rest => (.done, rest)
  | .payload v :: rest =>
    match s.accepts st v with
    | .ok true => (.payload v, rest)
    | .ok false => s.readFrom st rest
    | .error fault => (.ofFault fault, rest)

def read (s : Subscriber) (st : Store) : Reading × Subscriber :=
  let (reading, rest) := s.readFrom st s.buffer
  (reading, { s with buffer := rest })

/-- Read on behalf of a reader, who waits where there is nothing. -/
def start (s : Subscriber) (st : Store) (reader : Nat) : Reading × Subscriber :=
  match s.read st with
  | (.pending, s) => (.pending, { s with waiting := s.waiting ++ [reader] })
  | (reading, s) => (reading, { s with answers := s.answers ++ [(reader, reading)] })

/-- What a reader who waited has got. -/
def poll (s : Subscriber) (reader : Nat) : Reading :=
  (s.answers.lookup reader).getD .pending

/-- Let the first reader look again that is about to. Where somebody else took what it was woken for it
waits again, behind the others, also if nothing more can come. -/
def rouse (s : Subscriber) (st : Store) : Subscriber :=
  match s.awake, s.waiting with
  | awake + 1, reader :: rest =>
    if s.buffer.isEmpty then { s with awake, waiting := rest ++ [reader] }
    else ({ s with awake, waiting := rest }.start st reader).2
  | _, _ => { s with awake := 0 }

/-- Let a number of readers look again. -/
def wake (st : Store) : Nat → Subscriber → Subscriber
  | 0, s => s
  | n + 1, s => wake st n (s.rouse st)

/-- Let every reader look again that is about to. -/
def settle (s : Subscriber) (st : Store) : Subscriber :=
  wake st s.awake s

/-- Everything that is read from a buffer up to the first read that gives no payload, that read, and
what is left. -/
def drainFrom (s : Subscriber) (st : Store) : List Item → List Value × Reading × List Item
  | [] => ([], if s.listening then .pending else .done, [])
  | .closing :: rest => ([], .done, rest)
  | .payload v :: rest =>
    match s.accepts st v with
    | .ok true => let r := s.drainFrom st rest; (v :: r.1, r.2)
    | .ok false => s.drainFrom st rest
    | .error fault => ([], .ofFault fault, rest)

/-- Read until a read gives no payload. -/
def drain (s : Subscriber) (st : Store) : List Value × Reading × Subscriber :=
  let (read, last, rest) := s.drainFrom st s.buffer
  (read, last, { s with buffer := rest })

/-- Stop listening, with a mark behind what was kept. -/
def close (s : Subscriber) : Subscriber :=
  { s with listening := false }.put .closing

end Subscriber

end GraphGateway.PubSub
