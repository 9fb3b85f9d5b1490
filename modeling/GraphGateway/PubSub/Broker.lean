import GraphGateway.PubSub.Emitter
import GraphGateway.PubSub.Subscriber
import GraphGateway.Value.Entries

/-!
# Brokers

A broker publishes payloads by an emitter, whose listeners are its handlers and subscribers. The broker itself is
the first to listen to the failures of listeners, and writes them to the log. The number of subscriptions may be
limited.
-/

namespace GraphGateway.PubSub

inductive Listener where
  /-- The broker, which writes failures to the log. -/
  | reporter
  | handler (name : String)
  | subscriber (id : Nat)
  deriving Repr, DecidableEq

/-- What a handler does with a payload: it takes it at once or later, and may fail then. -/
structure Handler where
  failure : Option Fault := none
  deferred : Bool := false

/-- What is left to do once everybody has listened. -/
inductive Task where
  | handle (name : String) (payload : Value)
  | report (fault : Fault)

/-- A broker, with what its handlers took and what it wrote to the log. -/
structure Broker where
  /-- The number of subscriptions that is too much, or null. -/
  limit : Value := .null
  handlers : String → Handler := fun _ => {}
  count : Int := 0
  topics : List (Value × List Listener) := [(errorTopic, [.reporter])]
  subscribers : List Subscriber := []
  tasks : List Task := []
  delivered : List (String × Value) := []
  log : List String := []

namespace Broker

def listeners? (b : Broker) (topic : Value) : Option (List Listener) :=
  listenersOf? topic b.topics

def listeners (b : Broker) (topic : Value) : List Listener :=
  (b.listeners? topic).getD []

def modify (b : Broker) (id : Nat) (f : Subscriber → Subscriber) : Broker :=
  { b with subscribers := b.subscribers.modify id f }

/-- Pass a message to a listener, which may fail. Nobody but a listener of topics takes news of
listeners, and there is none. -/
def receive (b : Broker) (l : Listener) (m : Message) : Option Fault × Broker :=
  match m with
  | .newListener => (some (.misuse .twoPayloads), b)
  | .payload v =>
    match l with
    | .reporter => (none, { b with log := b.log ++ ["Pub/sub listener failed: " ++ v.toText] })
    | .subscriber id => (none, b.modify id (·.put (.payload v)))
    | .handler name =>
      let h := b.handlers name
      if h.deferred then (none, { b with tasks := b.tasks ++ [.handle name v] })
      else (h.failure, { b with delivered := b.delivered ++ [(name, v)] })

def emitter : Emitter Listener Broker where
  listeners := listeners
  receive := receive

def emit (b : Broker) (topic : Value) (m : Message) : Option Fault × Broker :=
  emitter.emitWithin maxReports topic m b

/-- Have the emitter add a listener to a topic. It is announced before the topic is looked at. -/
def enlist (b : Broker) (topic : Value) (l : Listener) : Option Fault × Broker :=
  match b.emit newListenerTopic .newListener with
  | (some fault, b) => (some fault, b)
  | (none, b) =>
    match Store.empty.checkKey topic with
    | .error fault => (some fault, b)
    | .ok () => (none, { b with topics := addListener topic l b.topics })

/-- Publish a payload. The answer is whether anybody listened. -/
def publish (b : Broker) (topic payload : Value) : Except Fault Bool × Broker :=
  match Store.empty.checkKey topic with
  | .error fault => (.error fault, b)
  | .ok () =>
    match b.emit topic (.payload payload) with
    | (none, after) => (.ok !(b.listeners topic).isEmpty, after)
    | (some fault, after) => (.error fault, after)

def full (b : Broker) : Except Fault Bool :=
  match b.limit with
  | .null => .ok false
  | limit => Store.empty.ordered .ge (.int b.count) limit

def subscribe (b : Broker) (topic : Value) (l : Listener) : Option Fault × Broker :=
  match b.full with
  | .error fault => (some fault, b)
  | .ok true => (some (.capacity b.limit.toText topic.toText), b)
  | .ok false =>
    match b.enlist topic l with
    | (some fault, b) => (some fault, b)
    | (none, b) => (none, { b with count := b.count + 1 })

/-- Let a listener no longer listen to a topic. Nothing changes if it does not, except that a topic which
nobody listens to counts as left. -/
def unsubscribe (b : Broker) (topic : Value) (l : Listener) : Option Fault × Broker :=
  match Store.empty.checkKey topic with
  | .error fault => (some fault, b)
  | .ok () =>
    match takenOff? topic l b.topics with
    | none => (none, b)
    | some topics => (none, { b with topics, count := b.count - 1 })

/-- Add a subscriber that listens to its topic. The answer is its number. -/
def join (b : Broker) (s : Subscriber) : Except Fault Nat × Broker :=
  let id := b.subscribers.length
  match b.subscribe s.topic (.subscriber id) with
  | (some fault, b) => (.error fault, b)
  | (none, b) => (.ok id, { b with subscribers := b.subscribers ++ [s] })

/-- Add a subscriber that listens to nothing. -/
def adopt (b : Broker) (s : Subscriber) : Nat × Broker :=
  (b.subscribers.length, { b with subscribers := b.subscribers ++ [s] })

/-- Close a subscriber, once. -/
def close (b : Broker) (id : Nat) : Broker :=
  match b.subscribers[id]? with
  | none => b
  | some s =>
    if s.listening then (b.unsubscribe s.topic (.subscriber id)).2.modify id (·.close) else b

/-- Do what was left to do. -/
def perform (b : Broker) : Task → Broker
  | .report fault => (b.emit errorTopic (.payload fault.toValue)).2
  | .handle name v =>
    let b := { b with delivered := b.delivered ++ [(name, v)] }
    match (b.handlers name).failure with
    | some fault => { b with tasks := b.tasks ++ [.report fault.ofTask] }
    | none => b

/-- Let readers look again and do what was left to do, in rounds. -/
def settleWithin (st : Store) : Nat → Broker → Broker
  | 0, b => b
  | n + 1, b =>
    let b := { b with subscribers := b.subscribers.map fun s => Subscriber.settle s st }
    match b.tasks with
    | [] => b
    | tasks => settleWithin st n (tasks.foldl perform { b with tasks := [] })

/-- Let everything happen that can happen without a new payload. -/
def settle (b : Broker) (st : Store) : Broker :=
  settleWithin st maxReports b

end Broker

end GraphGateway.PubSub
