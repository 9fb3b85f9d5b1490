import GraphGateway.Fault
import GraphGateway.Value.Entries

/-!
# Emitters

A broker leaves it to an emitter to keep who listens to which topic, and to tell the listeners. What is taken for
granted of the emitter is all in this module, and nothing here knows of brokers:

* The listeners of a topic are told in the order in which they came, and a listener that comes again keeps its place
  (`addListener`).
* A topic that its last listener leaves is gone (`removeListener`). To leave a topic that is gone is no mistake, but
  to leave one that others listen to is (`takenOff?`).
* A listener that fails keeps nobody else from being told. Its failure is told to the listeners of `errorTopic`
  before the next one is told (`Emitter.deliver`), and so are their failures, without end if need be
  (`Emitter.emitWithin`).
* Before a listener is added, it is announced to those of `newListenerTopic`.
-/

namespace GraphGateway.PubSub

/-- What is passed to listeners: a payload, or the news of a listener. -/
inductive Message where
  | payload (v : Value)
  | newListener

def errorTopic : Value := .text "error"

def newListenerTopic : Value := .text "new_listener"

section Topics

variable [DecidableEq ι]

def addListener (topic : Value) (l : ι) : List (Value × List ι) → List (Value × List ι)
  | [] => [(topic, [l])]
  | t :: rest =>
    if Store.empty.sameKey t.1 topic then
      (t.1, if t.2.contains l then t.2 else t.2 ++ [l]) :: rest
    else t :: addListener topic l rest

def removeListener (topic : Value) (l : ι) : List (Value × List ι) → List (Value × List ι)
  | [] => []
  | t :: rest =>
    if Store.empty.sameKey t.1 topic then
      match t.2.erase l with
      | [] => rest
      | left => (t.1, left) :: rest
    else t :: removeListener topic l rest

def listenersOf? (topic : Value) (topics : List (Value × List ι)) : Option (List ι) :=
  (topics.find? fun t => Store.empty.sameKey t.1 topic).map (·.2)

/-- The topics after a listener has left one, unless it is none of those who listen to it. -/
def takenOff? (topic : Value) (l : ι) (topics : List (Value × List ι)) : Option (List (Value × List ι)) :=
  match listenersOf? topic topics with
  | none => some topics
  | some listening => if listening.contains l then some (removeListener topic l topics) else none

end Topics

/-- What an emitter works with: who listens to a topic, and what becomes of a message to one of them, who may fail. -/
structure Emitter (ι σ : Type) where
  listeners : σ → Value → List ι
  receive : σ → ι → Message → Option Fault × σ

namespace Emitter

/-- Pass a message to listeners in order, reporting every failure before going on. -/
def deliver (e : Emitter ι σ) (report : Fault → σ → Option Fault × σ) (m : Message) : List ι → σ → Option Fault × σ
  | [], s => (none, s)
  | l :: rest, s =>
    match e.receive s l m with
    | (none, s) => e.deliver report m rest s
    | (some fault, s) =>
      match report fault s with
      | (none, s) => e.deliver report m rest s
      | (some fault, s) => (some fault, s)

/-- Pass a message to the listeners of a topic, with a bound on reports of failures of reports. -/
def emitWithin (e : Emitter ι σ) : Nat → Value → Message → σ → Option Fault × σ
  | 0, _, _, s => (some .nestedTooDeep, s)
  | n + 1, topic, m, s =>
    e.deliver (fun fault s => e.emitWithin n errorTopic (.payload fault.toValue) s) m (e.listeners s topic) s

end Emitter

/-- How many reports may be under way at once. -/
def maxReports : Nat := 300

end GraphGateway.PubSub
