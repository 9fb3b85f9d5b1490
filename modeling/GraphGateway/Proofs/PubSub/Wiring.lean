import GraphGateway.Proofs.PubSub.Emission
import GraphGateway.Proofs.PubSub.Reading
import GraphGateway.PubSub.Broker

/-!
# Who listens to which topic

`Broker.Wired` ties the topics of a broker to its subscribers: a subscriber is among the listeners of a topic exactly
while it listens to that topic. Every operation on subscribers keeps it.
-/

namespace GraphGateway.PubSub

namespace Broker

theorem deliver_cons (report : Fault → Broker → Option Fault × Broker) (m : Message) (l : Listener)
    (rest : List Listener) (b : Broker) :
    emitter.deliver report m (l :: rest) b =
      match b.receive l m with
      | (none, b) => emitter.deliver report m rest b
      | (some fault, b) =>
        match report fault b with
        | (none, b) => emitter.deliver report m rest b
        | (some fault, b) => (some fault, b) := by
  have received : emitter.receive b l m = b.receive l m := rfl
  rw [Emitter.deliver_cons, received]
  obtain ⟨failed, after⟩ := b.receive l m
  cases failed with
  | none => rfl
  | some fault =>
      simp only
      obtain ⟨failed, after⟩ := report fault after
      cases failed <;> rfl

/-- Passing a payload to listeners puts it once into each subscriber among them. -/
theorem deliver_payload (report : Fault → Broker → Option Fault × Broker) (v : Value)
    {listening : List Listener} (distinct : listening.Nodup)
    (noHandler : ∀ handler, .handler handler ∉ listening) (b : Broker) :
    ∃ (log : List String) (subscribers : List Subscriber),
      emitter.deliver report (.payload v) listening b = (none, { b with log, subscribers }) ∧
      ∀ id, subscribers[id]? =
        if .subscriber id ∈ listening then b.subscribers[id]?.map (·.put (.payload v))
        else b.subscribers[id]? := by
  induction listening generalizing b with
  | nil => exact ⟨b.log, b.subscribers, rfl, by simp⟩
  | cons l rest ih =>
      have notAgain : l ∉ rest := (List.nodup_cons.1 distinct).1
      have deliverRest := ih (List.nodup_cons.1 distinct).2
        fun handler member => noHandler handler (List.mem_cons_of_mem l member)
      cases l with
      | handler name => exact absurd List.mem_cons_self (noHandler name)
      | reporter =>
          obtain ⟨log, subscribers, delivered, puts⟩ :=
            deliverRest { b with log := b.log ++ ["Pub/sub listener failed: " ++ v.toText] }
          exact ⟨log, subscribers, delivered, by simpa using puts⟩
      | subscriber receiver =>
          obtain ⟨log, subscribers, delivered, puts⟩ :=
            deliverRest (b.modify receiver (·.put (.payload v)))
          refine ⟨log, subscribers, delivered, ?_⟩
          intro id
          rw [puts id]
          by_cases same : receiver = id
          · subst same
            simp [notAgain, modify]
          · simp [modify, same, Ne.symm same]

/-- What the topics of a broker depend on of a subscriber. -/
def face (s : Subscriber) : Value × Bool :=
  (s.topic, s.listening)

theorem face_of_guise {s t : Subscriber} (same : s.guise = t.guise) : face s = face t :=
  congrArg (fun g => (g.1, g.2.2)) same

/-- Listeners and subscribers agree. -/
structure Wired (b : Broker) : Prop where
  table : Table b.topics
  listens : ∀ name (id : Nat), .subscriber id ∈ listenersIn b.topics name ↔
    b.subscribers[id]?.map face = some (.text name, true)
  named : ∀ s ∈ b.subscribers, ∃ name, s.topic = .text name
  noHandler : ∀ name handler, .handler handler ∉ listenersIn b.topics name
  distinct : ∀ name, (listenersIn b.topics name).Nodup
  /-- Nobody listens to the news of listeners. -/
  quiet : listenersIn b.topics "new_listener" = []
  idle : b.tasks = []

theorem Wired.fresh (limit : Value) : Wired { limit } := by
  have only : ∀ name, listenersIn [(errorTopic, [Listener.reporter])] name =
      if "error" = name then [.reporter] else [] := fun name => listenersIn_cons "error" name _ _
  exact {
    table := .cons (by simp) .nil
    listens name id := by rw [only]; split <;> simp
    named := by simp
    noHandler name handler := by rw [only]; split <;> simp
    distinct name := by rw [only]; split <;> simp
    quiet := by rw [only]; rfl
    idle := rfl }

section Operations

variable {b : Broker} (wired : b.Wired)
include wired

theorem Wired.of_faces {after : Broker} (topics : after.topics = b.topics) (idle : after.tasks = [])
    (faces : after.subscribers.map face = b.subscribers.map face) : after.Wired where
  table := topics ▸ wired.table
  listens name id := by rw [topics, ← List.getElem?_map, faces, List.getElem?_map]; exact wired.listens name id
  named s member := by
    have shown : face s ∈ b.subscribers.map face := faces ▸ List.mem_map_of_mem member
    obtain ⟨before, member, same⟩ := List.mem_map.1 shown
    obtain ⟨name, topic⟩ := wired.named before member
    exact ⟨name, (congrArg Prod.fst same).symm.trans topic⟩
  noHandler := topics ▸ wired.noHandler
  distinct := topics ▸ wired.distinct
  quiet := topics ▸ wired.quiet
  idle := idle

/-- A published payload is put once into each subscriber that listens to its topic, and nobody else
notices. -/
theorem Wired.publish (name : String) (v : Value) :
    ∃ (log : List String) (subscribers : List Subscriber),
      (b.publish (.text name) v).2 = { b with log, subscribers } ∧
      ∀ id, subscribers[id]? =
        if .subscriber id ∈ listenersIn b.topics name then
          b.subscribers[id]?.map (·.put (.payload v))
        else b.subscribers[id]? := by
  obtain ⟨log, subscribers, delivered, puts⟩ :=
    deliver_payload (fun fault b => emitter.emitWithin 299 errorTopic (.payload fault.toValue) b) v
      (wired.distinct name) (wired.noHandler name) b
  refine ⟨log, subscribers, ?_, puts⟩
  have emitted : b.emit (.text name) (.payload v) = (none, { b with log, subscribers }) := delivered
  have hashable : Store.empty.checkKey (.text name) = .ok () := rfl
  simp only [Broker.publish, hashable, emitted]

theorem Wired.after_publish (name : String) (v : Value) : (b.publish (.text name) v).2.Wired := by
  obtain ⟨log, subscribers, after, puts⟩ := wired.publish name v
  rw [after]
  refine wired.of_faces rfl wired.idle (List.ext_getElem? fun id => ?_)
  rw [List.getElem?_map, List.getElem?_map, puts]
  split
  · rw [Option.map_map]
    rfl
  · rfl

theorem Wired.after_modify (id : Nat) {f : Subscriber → Subscriber} (same : ∀ s, face (f s) = face s) :
    (b.modify id f).Wired := by
  refine wired.of_faces rfl wired.idle (List.ext_getElem? fun i => ?_)
  simp only [Broker.modify, List.getElem?_map, List.getElem?_modify]
  cases b.subscribers[i]? with
  | none => rfl
  | some s =>
      by_cases here : id = i
      · simp [here, same]
      · simp [here]

/-- A subscriber that joins is refused, or stands behind the others, and is the last to listen to its
topic. -/
theorem Wired.join {s : Subscriber} {name : String} (topic : s.topic = .text name) :
    (∃ fault, b.join s = (.error fault, b)) ∨
    b.join s = (.ok b.subscribers.length, { b with
      topics := addListener (.text name) (.subscriber b.subscribers.length) b.topics
      count := b.count + 1
      subscribers := b.subscribers ++ [s] }) := by
  have announced : b.emit newListenerTopic .newListener = (none, b) := by
    have nobody : b.listeners newListenerTopic = [] := wired.quiet
    show emitter.deliver _ .newListener (b.listeners newListenerTopic) b = (none, b)
    rw [nobody]
    rfl
  have hashable : Store.empty.checkKey (.text name) = .ok () := rfl
  cases full : b.full with
  | error fault => exact .inl ⟨fault, by simp [Broker.join, Broker.subscribe, full]⟩
  | ok reached =>
      cases reached with
      | true =>
          exact .inl ⟨.capacity b.limit.toText s.topic.toText,
            by simp only [Broker.join, Broker.subscribe, full]⟩
      | false =>
          exact .inr (by simp only [Broker.join, Broker.subscribe, Broker.enlist, full, announced, topic, hashable])

theorem Wired.after_join {s : Subscriber} {name : String} (topic : s.topic = .text name)
    (listening : s.listening) (ordinary : name ≠ "new_listener") : (b.join s).2.Wired := by
  rcases wired.join topic with ⟨fault, refused⟩ | joined
  · rw [refused]
    exact wired
  · rw [joined]
    have absent : ∀ other, .subscriber b.subscribers.length ∉ listenersIn b.topics other := by
      intro other
      simp [wired.listens]
    have listeners := fun other =>
      listenersIn_addListener name (.subscriber b.subscribers.length) wired.table other
    simp only [absent name, if_false] at listeners
    exact {
      table := wired.table.addListener name _
      listens other id := by
        simp only [listeners]
        have before := wired.listens other id
        rcases Nat.lt_trichotomy id b.subscribers.length with less | rfl | greater
        · have differs : id ≠ b.subscribers.length := Nat.ne_of_lt less
          rw [List.getElem?_append_left less, ← before]
          split <;> simp_all
        · by_cases same : name = other <;> simp [same, absent, face, topic, listening]
        · have beyond : (b.subscribers ++ [s]).length ≤ id := by simpa using Nat.succ_le_of_lt greater
          have differs : id ≠ b.subscribers.length := Nat.ne_of_gt greater
          rw [List.getElem?_eq_none (Nat.le_of_lt greater)] at before
          rw [List.getElem?_eq_none beyond, ← before]
          split <;> simp_all
      named u member := by
        rcases List.mem_append.1 member with before | added
        · exact wired.named u before
        · exact ⟨name, List.mem_singleton.1 added ▸ topic⟩
      noHandler other handler := by
        simp only [listeners]
        split
        · simp [wired.noHandler name handler]
        · exact wired.noHandler other handler
      distinct other := by
        simp only [listeners]
        split
        · refine List.nodup_append.2 ⟨wired.distinct name, by simp, ?_⟩
          intro l member k added same
          rw [List.mem_singleton.1 added] at same
          exact absent name (same ▸ member)
        · exact wired.distinct other
      quiet := by
        simp only [listeners, if_neg ordinary]
        exact wired.quiet
      idle := wired.idle }

/-- Closing a subscriber that listens takes it off its topic and leaves a mark in its buffer. -/
theorem Wired.close {id : Nat} {s : Subscriber} {name : String} (found : b.subscribers[id]? = some s)
    (topic : s.topic = .text name) (listening : s.listening) :
    b.close id = { b with
      topics := removeListener (.text name) (.subscriber id) b.topics
      count := b.count - 1
      subscribers := b.subscribers.modify id (·.close) } := by
  have listener : .subscriber id ∈ listenersIn b.topics name := by
    simp [wired.listens, found, face, topic, listening]
  have hashable : Store.empty.checkKey (.text name) = .ok () := rfl
  have removed := takenOff?_of_mem name _ listener
  simp only [Broker.close, found, listening, if_true, Broker.unsubscribe, topic, hashable, removed, Broker.modify]

theorem Wired.close_other {id other : Nat} (differs : other ≠ id) :
    (b.close id).subscribers[other]? = b.subscribers[other]? := by
  cases found : b.subscribers[id]? with
  | none => simp [Broker.close, found]
  | some s =>
      cases listening : s.listening with
      | false => simp [Broker.close, found, listening]
      | true =>
          obtain ⟨name, topic⟩ := wired.named s (List.mem_of_getElem? found)
          rw [wired.close found topic listening]
          simp [Ne.symm differs]

theorem Wired.after_close {id : Nat} {s : Subscriber} {name : String}
    (found : b.subscribers[id]? = some s) (topic : s.topic = .text name) : (b.close id).Wired := by
  cases listening : s.listening with
  | false =>
      have still : b.close id = b := by simp [Broker.close, found, listening]
      rw [still]
      exact wired
  | true =>
      rw [wired.close found topic listening]
      have listeners := fun other =>
        listenersIn_removeListener name (.subscriber id) wired.table other
      exact {
        table := wired.table.removeListener name _
        listens other i := by
          have before := wired.listens other i
          simp only [listeners, List.getElem?_modify]
          by_cases here : id = i
          · subst here
            have only : .subscriber id ∈ listenersIn b.topics other → name = other := by
              intro member
              simpa [found, face, topic, listening] using before.1 member
            have gone : .subscriber id ∉ (listenersIn b.topics name).erase (.subscriber id) :=
              fun member => ((wired.distinct name).mem_erase_iff.1 member).1 rfl
            by_cases same : name = other
            · simp [same ▸ gone, same, found, face, Subscriber.close, Subscriber.put]
            · have elsewhere : .subscriber id ∉ listenersIn b.topics other := fun member => same (only member)
              simp [same, elsewhere, found, face, Subscriber.close, Subscriber.put]
          · have differs : Listener.subscriber i ≠ .subscriber id := by simpa using Ne.symm here
            simp only [here, if_false, id_map', ← before]
            split
            · rename_i same
              rw [List.mem_erase_of_ne differs, same]
            · exact Iff.rfl
        named u member := by
          obtain ⟨i, here⟩ := List.mem_iff_getElem?.1 member
          rw [List.getElem?_modify] at here
          obtain ⟨before, there, rfl⟩ := Option.map_eq_some_iff.1 here
          obtain ⟨name, topic⟩ := wired.named before (List.mem_of_getElem? there)
          refine ⟨name, ?_⟩
          split
          · exact topic
          · exact topic
        noHandler other handler member := by
          simp only [listeners] at member
          split at member
          · exact wired.noHandler name handler (List.mem_of_mem_erase member)
          · exact wired.noHandler other handler member
        distinct other := by
          simp only [listeners]
          split
          · exact (wired.distinct name).erase _
          · exact wired.distinct other
        quiet := by
          simp only [listeners]
          split
          · rename_i same
            rw [same, wired.quiet]
            rfl
          · exact wired.quiet
        idle := wired.idle }

end Operations

end Broker

end GraphGateway.PubSub
