import GraphGateway.Filter.Predicate
import GraphGateway.PubSub.Broker
import GraphGateway.Resolver.MethodCall

/-!
# Resolving by events

A subscription field gives the events of a topic that its filter accepts. The topic is filled from the
request; the filter sees the event in the place of the parent object.
-/

namespace GraphGateway.Resolver

def acceptsEvent (host : Host) (filter : Filter) (request : Request) (st : Store) (event : Value) :
    Except Fault Bool := do
  let (root, st) := st.load event
  let answer ← filter.test host st { request with root }
  pure (st.look answer).truthy

namespace Subscription

def topicFor (environment : List (String × String)) (st : Store) (d : Subscription)
    (request : Request) : Except Fault String := do
  pure (st.text (← st.interpolate environment (.request request) d.topic))

/-- Refuse arguments that are named like what a subscription is asked with. -/
def checkSubscribing (st : Store) (args : Value) : Except Fault Unit :=
  checkNames st "with_filter.<locals>.subscribe" ["root", "info"] args

def subscriber (host : Host) (environment : List (String × String)) (st : Store) (d : Subscription)
    (filter : Filter) (request : Request) : Except Fault PubSub.Subscriber := do
  checkSubscribing st request.args
  let topic ← d.topicFor environment st request
  let accepts := fun later event => do
    checkNames st "_subscription_resolver.<locals>.filter_fn" ["payload"] request.args
    acceptsEvent host filter request later event
  pure { topic := .text topic, accepts }

def subscribe (host : Host) (environment : List (String × String)) (st : Store) (d : Subscription)
    (filter : Filter) (request : Request) (broker : PubSub.Broker) :
    Except Fault Nat × PubSub.Broker :=
  match d.subscriber host environment st filter request with
  | .ok s => broker.join s
  | .error fault => (.error fault, broker)

/-- The value of the field for an event, with the arguments of the field. -/
def resolve (d : Subscription) (st : Store) (event args : Value) (name : Delegation.FieldName) :
    Except Fault Delegation.Extraction := do
  checkNames st "_subscription_resolver.<locals>.resolve" ["payload", "info"] args
  Delegation.extract event d.returnData name.responseKey

end Subscription

end GraphGateway.Resolver
