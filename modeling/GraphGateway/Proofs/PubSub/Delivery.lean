import GraphGateway.Proofs.PubSub.Reading
import GraphGateway.Proofs.PubSub.Wiring
import GraphGateway.Resolver.Subscription

/-!
# What subscribers read

A run is any order of steps in which requests subscribe, payloads are published, reads begin, woken readers
look again, and subscribers are closed. In every run, what a subscriber reads are the payloads published on
its topic while it was open, as far as its filter accepts them, in the order in which they were published.
-/

namespace GraphGateway.PubSub

open Resolver

/-- What the filter of a request says of an event: it is tested with the event, in containers of its own, in the
place of the parent object, and with the arguments that the request came with. -/
def verdict (host : Host) (filter : Filter) (request : Request) (st : Store) (event : Value) : Except Fault Bool := do
  checkNames st "_subscription_resolver.<locals>.filter_fn" ["payload"] request.args
  let loaded := st.load event
  let answer ← filter.test host loaded.2
    { root := loaded.1, args := request.args, context := request.context, info := request.info }
  return (loaded.2.look answer).truthy

/-- Whether a text is the topic of a request: what the template of the description is filled with. -/
def IsTopic (environment : List (String × String)) (st : Store) (d : Subscription) (request : Request)
    (topic : String) : Prop :=
  ∃ filled, st.interpolate environment (.request request) d.topic = .ok filled ∧ topic = st.text filled

theorem isTopic_iff {environment : List (String × String)} {st : Store} {d : Subscription} {request : Request}
    {topic : String} :
    IsTopic environment st d request topic ↔ d.topicFor environment st request = .ok topic := by
  unfold IsTopic Subscription.topicFor
  cases st.interpolate environment (.request request) d.topic with
  | error fault =>
      constructor
      · rintro ⟨_, filled, -⟩
        cases filled
      · exact nofun
  | ok v =>
      constructor
      · rintro ⟨_, ⟨⟩, rfl⟩
        rfl
      · rintro ⟨⟩
        exact ⟨v, rfl, rfl⟩

inductive Step where
  | subscribe (d : Subscription) (filter : Filter) (request : Request)
  | publish (topic : String) (payload : Value)
  /-- A read of a subscriber begins. -/
  | read (id reader : Nat)
  | close (id : Nat)
  /-- The readers of one subscriber that were woken look again. -/
  | wake (id : Nat)
  /-- Everybody who was woken looks again. -/
  | turn

section Runs

variable (host : Host) (environment : List (String × String)) (st : Store)

def Broker.step (b : Broker) : Step → Broker
  | .subscribe d filter request => (d.subscribe host environment st filter request b).2
  | .publish topic payload => (b.publish (.text topic) payload).2
  | .read id reader => b.modify id fun s => (s.start st reader).2
  | .close id => b.close id
  | .wake id => b.modify id fun s => s.settle st
  | .turn => b.settle st

/-- Whether a step may be made: nobody subscribes to a topic of the broker's own, and no subscriber is
read while a read of it is pending. -/
def Broker.Allows (b : Broker) : Step → Prop
  | .subscribe d _ request => ∀ topic, IsTopic environment st d request topic →
    topic ≠ "error" ∧ topic ≠ "new_listener"
  | .read id _ => ∀ s, b.subscribers[id]? = some s → s.waiting = []
  | _ => True

inductive Run : Broker → List Step → Broker → Prop where
  | nil (b : Broker) : Run b [] b
  | cons {b after : Broker} {x : Step} {rest : List Step} :
    b.Allows environment st x → Run (b.step host environment st x) rest after → Run b (x :: rest) after

end Runs

/-- The payloads that are published on a topic before a subscriber is closed. -/
def heardBy (id : Nat) (topic : String) : List Step → List Value
  | [] => []
  | .publish name payload :: rest =>
    if name = topic then payload :: heardBy id topic rest else heardBy id topic rest
  | .close closed :: rest => if closed = id then [] else heardBy id topic rest
  | _ :: rest => heardBy id topic rest

def closes (id : Nat) : List Step → Bool
  | [] => false
  | .close closed :: rest => closed = id || closes id rest
  | _ :: rest => closes id rest

def readsOf (id : Nat) : List Step → Nat
  | [] => 0
  | .read read _ :: rest => (if read = id then 1 else 0) + readsOf id rest
  | _ :: rest => readsOf id rest

theorem heardBy_cons (id : Nat) (topic : String) (x : Step) (rest : List Step) :
    heardBy id topic (x :: rest) =
      heardBy id topic [x] ++ if closes id [x] then [] else heardBy id topic rest := by
  cases x with
  | publish name payload => by_cases same : name = topic <;> simp [heardBy, closes, same]
  | close closed => by_cases here : closed = id <;> simp [heardBy, closes, here]
  | subscribe | read | wake | turn => simp [heardBy, closes]

theorem closes_cons (id : Nat) (x : Step) (rest : List Step) :
    closes id (x :: rest) = (closes id [x] || closes id rest) := by
  cases x <;> simp [closes]

theorem readsOf_cons (id : Nat) (x : Step) (rest : List Step) :
    readsOf id (x :: rest) = readsOf id [x] + readsOf id rest := by
  cases x <;> simp [readsOf]

section Steps

variable {host : Host} {environment : List (String × String)} {st : Store}

/-- A request becomes a subscriber of its own topic, with the filter for its own arguments. -/
theorem subscriber_of_ok {d : Subscription} {filter : Filter} {request : Request} {s : Subscriber}
    (h : d.subscriber host environment st filter request = .ok s) :
    ∃ topic accepts, IsTopic environment st d request topic ∧
      s = { topic := .text topic, accepts } ∧ accepts st = verdict host filter request st := by
  simp only [Subscription.subscriber, bind, Except.bind] at h
  split at h
  · cases h
  · split at h
    · cases h
    · rename_i topic found
      cases h
      exact ⟨topic, _, isTopic_iff.mpr found, rfl, rfl⟩

theorem Broker.settle_of_idle {b : Broker} (idle : b.tasks = []) :
    b.settle st = { b with subscribers := b.subscribers.map (·.settle st) } := by
  show Broker.settleWithin st (299 + 1) b = _
  simp only [Broker.settleWithin, idle]

variable (host environment st) in
/-- A subscription is refused, or adds a subscriber that listens to the topic of its request. -/
theorem Broker.Wired.subscribe {b : Broker} (wired : b.Wired) (d : Subscription) (filter : Filter)
    (request : Request) :
    (∃ fault, d.subscribe host environment st filter request b = (.error fault, b)) ∨
    ∃ topic accepts, IsTopic environment st d request topic ∧
      accepts st = verdict host filter request st ∧
      d.subscribe host environment st filter request b = b.join { topic := .text topic, accepts } ∧
      (d.subscribe host environment st filter request b).1 = .ok b.subscribers.length ∧
      (d.subscribe host environment st filter request b).2.subscribers =
        b.subscribers ++ [{ topic := .text topic, accepts }] := by
  cases h : d.subscriber host environment st filter request with
  | error fault => exact .inl ⟨fault, by simp only [Subscription.subscribe, h]⟩
  | ok s =>
      obtain ⟨topic, accepts, filled, rfl, filters⟩ := subscriber_of_ok h
      have joins : d.subscribe host environment st filter request b =
          b.join { topic := .text topic, accepts } := by simp only [Subscription.subscribe, h]
      rcases wired.join (s := { topic := .text topic, accepts }) rfl with ⟨fault, refused⟩ | joined
      · exact .inl ⟨fault, joins.trans refused⟩
      · exact .inr ⟨topic, accepts, filled, filters, joins, by rw [joins, joined], by rw [joins, joined]⟩

theorem Broker.Wired.after_step {b : Broker} (wired : b.Wired) {x : Step}
    (allowed : b.Allows environment st x) : (b.step host environment st x).Wired := by
  cases x with
  | subscribe d filter request =>
      rcases wired.subscribe host environment st d filter request with
        ⟨fault, refused⟩ | ⟨topic, accepts, filled, _, joins, _⟩
      · rw [Broker.step, refused]
        exact wired
      · rw [Broker.step, joins]
        exact wired.after_join rfl rfl (allowed topic filled).2
  | publish topic payload => exact wired.after_publish topic payload
  | read id reader => exact wired.after_modify id fun s => Broker.face_of_guise (s.guise_start st reader)
  | wake id => exact wired.after_modify id fun s => Broker.face_of_guise (s.guise_settle st)
  | turn =>
      rw [Broker.step, Broker.settle_of_idle wired.idle]
      refine wired.of_faces rfl wired.idle ?_
      simp [Broker.face_of_guise (Subscriber.guise_settle st _)]
  | close id =>
      cases found : b.subscribers[id]? with
      | none => simpa [Broker.step, Broker.close, found] using wired
      | some s =>
          obtain ⟨name, topic⟩ := wired.named s (List.mem_of_getElem? found)
          exact wired.after_close found topic

/-- What a step makes of one subscriber: it hears what is published on its topic, its reads are counted,
and nothing else changes of it. -/
theorem Broker.Wired.step_account {b : Broker} (wired : b.Wired) {x : Step}
    (allowed : b.Allows environment st x) {id reads : Nat} {s : Subscriber} {topic : String}
    {heard : List Value} (found : b.subscribers[id]? = some s) (named : s.topic = .text topic)
    (account : s.Accounts st heard reads) :
    ∃ t, (b.step host environment st x).subscribers[id]? = some t ∧ t.topic = s.topic ∧
      t.accepts = s.accepts ∧ t.listening = (s.listening && !closes id [x]) ∧
      t.Accounts st (heard ++ if s.listening then heardBy id topic [x] else [])
        (reads + readsOf id [x]) := by
  cases x with
  | subscribe d filter request =>
      refine ⟨s, ?_, rfl, rfl, by simp [closes], by simpa [heardBy, readsOf] using account⟩
      rcases wired.subscribe host environment st d filter request with
        ⟨fault, refused⟩ | ⟨_, _, _, _, _, _, added⟩
      · rw [Broker.step, refused]
        exact found
      · rw [Broker.step, added, List.getElem?_append_left (List.getElem?_eq_some_iff.1 found).1]
        exact found
  | publish name payload =>
      obtain ⟨log, subscribers, after, puts⟩ := wired.publish name payload
      have listens : .subscriber id ∈ listenersIn b.topics name ↔ topic = name ∧ s.listening := by
        simp [wired.listens, found, Broker.face, named]
      rw [Broker.step, after]
      simp only [puts, found, listens]
      by_cases hears : topic = name ∧ s.listening
      · obtain ⟨rfl, listening⟩ := hears
        refine ⟨s.put (.payload payload), by simp [listening], rfl, rfl, by simp [closes]; rfl, ?_⟩
        simpa [heardBy, readsOf, listening] using account.put listening payload
      · refine ⟨s, by simp [hears], rfl, rfl, by simp [closes], ?_⟩
        have unheard : (if s.listening then heardBy id topic [.publish name payload] else []) = [] := by
          by_cases same : name = topic <;> simp_all [heardBy]
        simpa [unheard, readsOf] using account
  | read other reader =>
      simp only [Broker.step, Broker.modify, List.getElem?_modify, found]
      by_cases here : other = id
      · subst here
        have guise := s.guise_start st reader
        refine ⟨(s.start st reader).2, by simp, congrArg (·.1) guise, congrArg (·.2.1) guise,
          by simpa [closes, Subscriber.guise] using congrArg (·.2.2) guise, ?_⟩
        simpa [heardBy, readsOf] using account.start (allowed s found) reader
      · refine ⟨s, by simp [here], rfl, rfl, by simp [closes], ?_⟩
        simpa [heardBy, readsOf, here] using account
  | close closed =>
      by_cases here : closed = id
      · subst here
        cases listening : s.listening with
        | false =>
            refine ⟨s, by simp [Broker.step, Broker.close, found, listening], rfl, rfl,
              by simp [listening], by simpa [readsOf] using account⟩
        | true =>
            refine ⟨s.close, ?_, rfl, rfl, by simp [closes]; rfl,
              by simpa [heardBy, readsOf] using account.close listening⟩
            rw [Broker.step, wired.close found named listening]
            simp [found]
      · refine ⟨s, ?_, rfl, rfl, by simp [closes, here], by simpa [heardBy, readsOf, here] using account⟩
        rw [Broker.step, wired.close_other (Ne.symm here)]
        exact found
  | wake woken =>
      simp only [Broker.step, Broker.modify, List.getElem?_modify, found]
      by_cases here : woken = id
      · subst here
        have guise := s.guise_settle st
        refine ⟨s.settle st, by simp, congrArg (·.1) guise, congrArg (·.2.1) guise,
          by simpa [closes, Subscriber.guise] using congrArg (·.2.2) guise, ?_⟩
        simpa [heardBy, readsOf] using account.settle
      · refine ⟨s, by simp [here], rfl, rfl, by simp [closes], by simpa [heardBy, readsOf] using account⟩
  | turn =>
      have guise := s.guise_settle st
      refine ⟨s.settle st, ?_, congrArg (·.1) guise, congrArg (·.2.1) guise,
        by simpa [closes, Subscriber.guise] using congrArg (·.2.2) guise, by simpa [heardBy, readsOf] using account.settle⟩
      rw [Broker.step, Broker.settle_of_idle wired.idle]
      simp [found]

theorem Run.wired {b after : Broker} {steps : List Step} (run : Run host environment st b steps after)
    (wired : b.Wired) : after.Wired := by
  induction run with
  | nil => exact wired
  | cons allowed _ ih => exact ih (wired.after_step allowed)

theorem Run.account {b after : Broker} {steps : List Step} (run : Run host environment st b steps after)
    (wired : b.Wired) {id reads : Nat} {s : Subscriber} {topic : String} {heard : List Value}
    (found : b.subscribers[id]? = some s) (named : s.topic = .text topic)
    (account : s.Accounts st heard reads) :
    ∃ t, after.subscribers[id]? = some t ∧ t.accepts = s.accepts ∧
      t.listening = (s.listening && !closes id steps) ∧
      t.Accounts st (heard ++ if s.listening then heardBy id topic steps else [])
        (reads + readsOf id steps) := by
  induction run generalizing s heard reads with
  | nil => exact ⟨s, found, rfl, by simp [closes], by simpa [heardBy, readsOf] using account⟩
  | @cons _ _ x rest allowed _ ih =>
      obtain ⟨s', found', named', accepts', listening', account'⟩ :=
        wired.step_account allowed found named account
      obtain ⟨t, there, accepts, listening, account⟩ :=
        ih (wired.after_step allowed) found' (named'.trans named) account'
      refine ⟨t, there, accepts.trans accepts', ?_, ?_⟩
      · rw [listening, listening', closes_cons id x rest]
        cases s.listening <;> cases closes id [x] <;> rfl
      · have same : (heard ++ if s.listening then heardBy id topic [x] else []) ++
              (if s'.listening then heardBy id topic rest else []) =
            heard ++ if s.listening then heardBy id topic (x :: rest) else [] := by
          rw [listening', heardBy_cons id topic x rest]
          cases s.listening <;> cases closes id [x] <;> simp
        rw [← same, readsOf_cons id x rest, ← Nat.add_assoc]
        exact account

/-- In every run, the payloads that a subscriber reads begin those that were published on its topic while
it was open and that its filter accepts. Its answers begin the answers to everything published on its topic
while it was open, followed by ends of reading if it was closed; at most the last read is still pending. Once
everybody who was woken has looked again, every read has its answer if there is one. -/
theorem Run.reads_published {limit : Value} {before after : List Step} {earlier b : Broker}
    {d : Subscription} {filter : Filter} {request : Request} {id : Nat}
    (start : Run host environment st { limit } before earlier)
    (ordinary : earlier.Allows environment st (.subscribe d filter request))
    (joined : (d.subscribe host environment st filter request earlier).1 = .ok id)
    (run : Run host environment st (d.subscribe host environment st filter request earlier).2 after b) :
    ∃ topic s t, IsTopic environment st d request topic ∧ b.subscribers[id]? = some s ∧
      (b.settle st).subscribers[id]? = some t ∧
      let heard := heardBy id topic after
      let reads := readsOf id after
      let answers := heard.filterMap (outcome (verdict host filter request st)) ++
        List.replicate (if closes id after then reads else 0) .done
      s.readings.filterMap Reading.payload? <+: heard.filter (accepted (verdict host filter request st)) ∧
      s.readings <+: answers ∧ reads ≤ s.readings.length + 1 ∧
      t.readings = answers.take reads := by
  have wired : earlier.Wired := start.wired (.fresh limit)
  have wiredAfter : (d.subscribe host environment st filter request earlier).2.Wired := wired.after_step ordinary
  rcases wired.subscribe host environment st d filter request with
    ⟨fault, refused⟩ | ⟨topic, accepts, filled, filters, _, number, added⟩
  · rw [refused] at joined
    cases joined
  · have last : id = earlier.subscribers.length := Except.ok.inj (joined.symm.trans number)
    have there : (d.subscribe host environment st filter request earlier).2.subscribers[id]? =
        some { topic := .text topic, accepts } := by
      rw [added, last]
      simp
    obtain ⟨s, found, same, listening, account⟩ :=
      run.account wiredAfter there rfl (.fresh st (.text topic) accepts)
    simp only [Bool.true_and, List.nil_append, if_true, Nat.zero_add] at listening account same
    have ends : (if s.listening then 0 else readsOf id after) =
        if closes id after then readsOf id after else 0 := by
      rw [listening]
      cases closes id after <;> rfl
    have given := account.readings_prefix
    have settled := account.readings_settle
    rw [ends, same, filters] at given settled
    refine ⟨topic, s, s.settle st, filled, found, ?_, ?_, given, ?_, settled⟩
    · simp [Broker.settle_of_idle (run.wired wiredAfter).idle, found]
    · have payloads := given.filterMap Reading.payload?
      rwa [List.filterMap_append, payloads_of_outcomes, List.filterMap_replicate_of_none rfl,
        List.append_nil] at payloads
    · have counted := account.reads
      have single := account.single
      omega

end Steps

/-- Events of orders by their number, as far as they are urgent. -/
def urgentOrders : Subscription where
  type := .text "Subscription"
  field := .text "orderUpdated"
  topic := .text "orders/\x7bargs.id\x7d"
  filterBy := .text "root.urgent"
  returnData := .null

def orderEvent (n : Int) (urgent : Bool) : Value :=
  .map [(.text "n", .int n), (.text "urgent", .bool urgent)]

def seventhOrder : Request :=
  ⟨.null, .map [(.text "id", .int 7)], .null, .null⟩

def urgent : Filter :=
  .expression "'root.urgent'" (.attribute (.name "root") "urgent")

theorem allows_read {environment : List (String × String)} {st : Store} {b : Broker} {id reader : Nat}
    (free : b.subscribers[id]?.map Subscriber.waiting = some []) :
    b.Allows environment st (.read id reader) := by
  intro s found
  simpa [found] using free

/-- The two urgent events of the order are read; the one of another order and the one that is not urgent are not. -/
theorem urgentOrders_reads :
    let first := urgentOrders.subscribe Host.empty [] .empty urgent seventhOrder {}
    let after : List Step := [.publish "orders/7" (orderEvent 1 true),
      .publish "orders/8" (orderEvent 2 true), .publish "orders/7" (orderEvent 3 false), .read 0 0,
      .read 0 1, .publish "orders/7" (orderEvent 4 true), .close 0, .turn]
    Broker.Allows [] .empty {} (.subscribe urgentOrders urgent seventhOrder) ∧ first.1 = .ok 0 ∧
    ∃ b, Run Host.empty [] .empty first.2 after b ∧
    ∃ t, (b.settle .empty).subscribers[0]? = some t ∧
      t.readings = [.payload (orderEvent 1 true), .payload (orderEvent 4 true)] := by
  intro first after
  have filled : urgentOrders.topicFor [] .empty seventhOrder = .ok "orders/7" := by rfl
  have only : ∀ topic, IsTopic [] .empty urgentOrders seventhOrder topic → "orders/7" = topic := fun topic named =>
    Except.ok.inj (filled.symm.trans (isTopic_iff.mp named))
  have ordinary : Broker.Allows [] .empty {} (.subscribe urgentOrders urgent seventhOrder) := by
    intro topic named
    obtain rfl := only topic named
    decide
  have joined : first.1 = .ok 0 := by rfl
  have run : ∃ b, Run Host.empty [] .empty first.2 after b :=
    ⟨_, .cons trivial (.cons trivial (.cons trivial (.cons (allows_read (by decide +kernel))
      (.cons (allows_read (by decide +kernel)) (.cons trivial (.cons trivial (.cons trivial (.nil _))))))))⟩
  obtain ⟨b, run⟩ := run
  obtain ⟨topic, s, t, named, -, there, -, -, -, read⟩ := Run.reads_published (.nil _) ordinary joined run
  obtain rfl := only topic named
  exact ⟨ordinary, joined, b, run, t, there, read.trans rfl⟩

end GraphGateway.PubSub
