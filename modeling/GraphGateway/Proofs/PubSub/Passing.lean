import GraphGateway.Proofs.PubSub.Wiring

/-!
# Passing messages to listeners

A message changes what listeners keep and what is written down, and never who listens to what. A payload goes to
each listener of its topic in order. A listener that fails at once is followed by those who are told of failures, and
goes on where none of them fails in turn; otherwise the reports of failures of reports never end.
-/

namespace GraphGateway.PubSub

/-- How a listener fails at once when it is passed a payload, if it does. -/
def Listener.failure? (handlers : String → Handler) : Listener → Option Fault
  | .handler name => if (handlers name).deferred then none else (handlers name).failure
  | .reporter | .subscriber _ => none

namespace Broker

/-- Whether a broker differs from another one only in what messages may change. -/
structure Steady (b after : Broker) : Prop where
  limit : after.limit = b.limit
  handlers : after.handlers = b.handlers
  count : after.count = b.count
  topics : after.topics = b.topics
  faces : after.subscribers.map face = b.subscribers.map face

theorem Steady.refl (b : Broker) : Steady b b :=
  ⟨rfl, rfl, rfl, rfl, rfl⟩

theorem Steady.trans {b middle after : Broker} (first : Steady b middle) (second : Steady middle after) :
    Steady b after where
  limit := second.limit.trans first.limit
  handlers := second.handlers.trans first.handlers
  count := second.count.trans first.count
  topics := second.topics.trans first.topics
  faces := second.faces.trans first.faces

theorem Steady.length {b after : Broker} (steady : Steady b after) :
    after.subscribers.length = b.subscribers.length := by
  simpa using congrArg List.length steady.faces

theorem Steady.listeners {b after : Broker} (steady : Steady b after) (topic : Value) :
    after.listeners topic = b.listeners topic := by
  simp only [Broker.listeners, Broker.listeners?, steady.topics]

theorem steady_modify (b : Broker) (id : Nat) {f : Subscriber → Subscriber} (same : ∀ s, face (f s) = face s) :
    Steady b (b.modify id f) := by
  refine ⟨rfl, rfl, rfl, rfl, List.ext_getElem? fun i => ?_⟩
  simp only [Broker.modify, List.getElem?_map, List.getElem?_modify]
  cases b.subscribers[i]? with
  | none => rfl
  | some s =>
      by_cases here : id = i
      · simp [here, same]
      · simp [here]

theorem steady_receive (b : Broker) (l : Listener) (m : Message) : Steady b (b.receive l m).2 := by
  cases m with
  | newListener => exact .refl b
  | payload v =>
      cases l with
      | reporter => exact ⟨rfl, rfl, rfl, rfl, rfl⟩
      | subscriber id => exact steady_modify b id fun s => rfl
      | handler name =>
          simp only [receive]
          split
          · exact ⟨rfl, rfl, rfl, rfl, rfl⟩
          · exact ⟨rfl, rfl, rfl, rfl, rfl⟩

section Delivering

variable {report : Fault → Broker → Option Fault × Broker}

theorem steady_deliver (reports : ∀ fault b, Steady b (report fault b).2) (m : Message) (listening : List Listener)
    (b : Broker) : Steady b (emitter.deliver report m listening b).2 := by
  induction listening generalizing b with
  | nil => exact .refl b
  | cons l rest ih =>
      have first := steady_receive b l m
      rw [deliver_cons]
      cases received : b.receive l m with
      | mk failed passed =>
          rw [received] at first
          cases failed with
          | none => exact first.trans (ih passed)
          | some fault =>
              have told := first.trans (reports fault passed)
              simp only
              split
              · rename_i after reported
                rw [reported] at told
                exact told.trans (ih after)
              · rename_i reported
                rwa [reported] at told

end Delivering

theorem steady_emitWithin (n : Nat) (topic : Value) (m : Message) (b : Broker) :
    Steady b (emitter.emitWithin n topic m b).2 := by
  induction n generalizing topic m b with
  | zero => exact .refl b
  | succ n ih => exact steady_deliver (fun fault b => ih errorTopic (.payload fault.toValue) b) m _ b

theorem steady_emit (b : Broker) (topic : Value) (m : Message) : Steady b (b.emit topic m).2 :=
  steady_emitWithin maxReports topic m b

/-- Pass a payload to one listener. -/
def pass (b : Broker) (p : Listener × Value) : Broker :=
  (b.receive p.1 (.payload p.2)).2

theorem steady_passes (ps : List (Listener × Value)) (b : Broker) : Steady b (ps.foldl pass b) := by
  induction ps generalizing b with
  | nil => exact .refl b
  | cons p rest ih => exact (steady_receive b p.1 (.payload p.2)).trans (ih (b.pass p))

theorem receive_payload (b : Broker) (l : Listener) (v : Value) :
    b.receive l (.payload v) = (l.failure? b.handlers, b.pass (l, v)) := by
  cases l with
  | reporter | subscriber => rfl
  | handler name =>
      simp only [pass, receive, Listener.failure?]
      split <;> rfl

end Broker

/-- What a payload for a listener leads to: the listener gets it, and if it fails the others are told. -/
def passesFor (handlers : String → Handler) (told : List Listener) (v : Value) (l : Listener) :
    List (Listener × Value) :=
  (l, v) :: match l.failure? handlers with
    | none => []
    | some fault => told.map fun other => (other, fault.toValue)

/-- The listeners up to the first that fails. -/
def reached (handlers : String → Handler) : List Listener → List Listener
  | [] => []
  | l :: rest => l :: if (l.failure? handlers).isSome then [] else reached handlers rest

theorem mem_of_mem_reached {handlers : String → Handler} {listening : List Listener} {l : Listener}
    (among : l ∈ reached handlers listening) : l ∈ listening := by
  induction listening with
  | nil => cases among
  | cons k rest ih =>
      rcases List.mem_cons.mp among with rfl | later
      · exact List.mem_cons_self
      · split at later
        · cases later
        · exact List.mem_cons_of_mem k (ih later)

namespace Broker

variable {report : Fault → Broker → Option Fault × Broker}

/-- Where every failure is told to others, a payload reaches every listener. -/
theorem deliver_passes {told : List Listener} {listening : List Listener} {b : Broker} (v : Value)
    (reports : ∀ l ∈ listening, ∀ fault, l.failure? b.handlers = some fault → ∀ after, Steady b after →
      report fault after = (none, (told.map fun other => (other, fault.toValue)).foldl pass after)) :
    emitter.deliver report (.payload v) listening b =
      (none, (listening.flatMap (passesFor b.handlers told v)).foldl pass b) := by
  induction listening generalizing b with
  | nil => rfl
  | cons l rest ih =>
      have first : Steady b (b.pass (l, v)) := steady_receive b l (.payload v)
      have onward : ∀ after, Steady b after → emitter.deliver report (.payload v) rest after =
          (none, (rest.flatMap (passesFor b.handlers told v)).foldl pass after) := by
        intro after steady
        rw [← steady.handlers]
        refine ih fun k member fault fails later steady' => ?_
        rw [steady.handlers] at fails
        exact reports k (List.mem_cons_of_mem l member) fault fails later (steady.trans steady')
      simp only [deliver_cons, receive_payload, List.flatMap_cons, List.foldl_append, passesFor, List.foldl_cons]
      cases fails : l.failure? b.handlers with
      | none => exact onward _ first
      | some fault =>
          have reported := reports l List.mem_cons_self fault fails _ first
          have told' := steady_passes (told.map fun other => (other, fault.toValue)) (b.pass (l, v))
          simp only [reported]
          exact onward _ (first.trans told')

/-- Whether one of some listeners fails at once. -/
def SomeFails (b : Broker) (listening : List Listener) : Prop :=
  ∃ l ∈ listening, (l.failure? b.handlers).isSome

theorem Steady.someFails {b after : Broker} (steady : Steady b after) (listening : List Listener) :
    after.SomeFails listening ↔ b.SomeFails listening := by
  rw [SomeFails, SomeFails, steady.handlers]

/-- Where no report ends, a payload gets as far as the first listener that fails, and then to no listener more. -/
theorem deliver_reached (told : List Listener) {listening : List Listener} {b : Broker} (v : Value)
    (fails : b.SomeFails listening)
    (reports : ∀ fault after, Steady b after → (report fault after).1 = some .nestedTooDeep ∧
      ∃ ps : List (Listener × Value), (∀ p ∈ ps, p.1 ∈ told) ∧ (report fault after).2 = ps.foldl pass after) :
    (emitter.deliver report (.payload v) listening b).1 = some .nestedTooDeep ∧
      ∃ ps : List (Listener × Value), (∀ p ∈ ps, p.1 ∈ told) ∧ (emitter.deliver report (.payload v) listening b).2 =
        (((reached b.handlers listening).map fun l => (l, v)) ++ ps).foldl pass b := by
  induction listening generalizing b with
  | nil =>
      obtain ⟨l, member, _⟩ := fails
      cases member
  | cons l rest ih =>
      have first : Steady b (b.pass (l, v)) := steady_receive b l (.payload v)
      simp only [deliver_cons, receive_payload, reached]
      cases own : l.failure? b.handlers with
      | none =>
          have later : b.SomeFails rest := by
            obtain ⟨k, member, failed⟩ := fails
            rcases List.mem_cons.mp member with rfl | later
            · rw [own] at failed
              cases failed
            · exact ⟨k, later, failed⟩
          have onward := ih ((first.someFails rest).mpr later) fun fault after steady =>
            reports fault after (first.trans steady)
          rw [first.handlers] at onward
          exact onward
      | some fault =>
          obtain ⟨endless, ps, passed, after⟩ := reports fault _ first
          cases reported : report fault (b.pass (l, v)) with
          | mk failed final =>
              rw [reported] at endless after
              obtain rfl : failed = some .nestedTooDeep := endless
              exact ⟨by simp only [reported], ps, passed, by simp only [reported]; exact after⟩

/-- Reports of failures do not end if one who is told of failures fails. -/
theorem emitWithin_disturbed (n : Nat) {b : Broker} (fails : b.SomeFails (b.listeners errorTopic)) (v : Value) :
    (emitter.emitWithin n errorTopic (.payload v) b).1 = some .nestedTooDeep ∧
      ∃ ps : List (Listener × Value), (∀ p ∈ ps, p.1 ∈ b.listeners errorTopic) ∧
        (emitter.emitWithin n errorTopic (.payload v) b).2 = ps.foldl pass b := by
  induction n generalizing b v with
  | zero => exact ⟨rfl, [], by simp, rfl⟩
  | succ n ih =>
      obtain ⟨endless, ps, passed, after⟩ := deliver_reached (b.listeners errorTopic) v fails
        fun fault after steady => by
          rw [← steady.listeners]
          refine ih ?_ fault.toValue
          rwa [steady.listeners, steady.someFails]
      refine ⟨endless, _, fun p member => ?_, after⟩
      rcases List.mem_append.mp member with direct | later
      · obtain ⟨l, among, rfl⟩ := List.mem_map.mp direct
        exact mem_of_mem_reached among
      · exact passed p later

theorem passesFor_calm {handlers : String → Handler} {listening : List Listener} (told : List Listener) (v : Value)
    (calm : ∀ l ∈ listening, l.failure? handlers = none) :
    listening.flatMap (passesFor handlers told v) = listening.map fun l => (l, v) := by
  induction listening with
  | nil => rfl
  | cons l rest ih =>
      have own := calm l List.mem_cons_self
      rw [List.flatMap_cons, ih fun k member => calm k (List.mem_cons_of_mem l member)]
      simp [passesFor, own]

theorem calm_of_not_someFails {b : Broker} {listening : List Listener} (none : ¬ b.SomeFails listening) :
    ∀ l ∈ listening, l.failure? b.handlers = .none := by
  intro l member
  refine Option.eq_none_iff_forall_ne_some.mpr fun fault failed => none ⟨l, member, ?_⟩
  rw [failed]
  rfl

theorem emitWithin_calm (n : Nat) {b : Broker} (calm : ¬ b.SomeFails (b.listeners errorTopic)) (v : Value) :
    emitter.emitWithin (n + 1) errorTopic (.payload v) b =
      (none, ((b.listeners errorTopic).map fun l => (l, v)).foldl pass b) := by
  have silent := calm_of_not_someFails calm
  rw [← passesFor_calm (b.listeners errorTopic) v silent]
  refine deliver_passes v fun l member fault failed => ?_
  rw [silent l member] at failed
  cases failed

section Publishing

variable {b : Broker} (topic : String) (v : Value)

/-- Publishing fails if a listener fails and one who is told of failures fails, too. The payload has then reached
nobody behind the first listener that fails. -/
theorem publish_disturbed (fails : b.SomeFails (b.listeners (.text topic)))
    (telling : b.SomeFails (b.listeners errorTopic)) :
    (b.publish (.text topic) v).1 = .error .nestedTooDeep ∧
      ∃ ps : List (Listener × Value), (∀ p ∈ ps, p.1 ∈ b.listeners errorTopic) ∧
        (b.publish (.text topic) v).2 =
          (((reached b.handlers (b.listeners (.text topic))).map fun l => (l, v)) ++ ps).foldl pass b := by
  obtain ⟨endless, ps, passed, after⟩ := deliver_reached (b.listeners errorTopic) v fails
    fun fault after steady => by
      rw [← steady.listeners]
      refine emitWithin_disturbed 299 ?_ fault.toValue
      rwa [steady.listeners, steady.someFails]
  have hashable : Store.empty.checkKey (.text topic) = .ok () := rfl
  have emitted : b.emit (.text topic) (.payload v) = (some .nestedTooDeep,
      (((reached b.handlers (b.listeners (.text topic))).map fun l => (l, v)) ++ ps).foldl pass b) :=
    Prod.ext endless after
  simp only [publish, hashable, emitted]
  exact ⟨trivial, ps, passed, rfl⟩

theorem publish_passes (calm : ¬ (b.SomeFails (b.listeners (.text topic)) ∧ b.SomeFails (b.listeners errorTopic))) :
    b.publish (.text topic) v = (.ok !(b.listeners (.text topic)).isEmpty,
      ((b.listeners (.text topic)).flatMap (passesFor b.handlers (b.listeners errorTopic) v)).foldl pass b) := by
  have emitted : b.emit (.text topic) (.payload v) = (none,
      ((b.listeners (.text topic)).flatMap (passesFor b.handlers (b.listeners errorTopic) v)).foldl pass b) := by
    refine deliver_passes v fun l member fault failed after steady => ?_
    have fails : b.SomeFails (b.listeners (.text topic)) := ⟨l, member, by simp [failed]⟩
    have silent : ¬ after.SomeFails (after.listeners errorTopic) := by
      rw [steady.listeners, steady.someFails]
      exact fun telling => calm ⟨fails, telling⟩
    rw [← steady.listeners]
    exact emitWithin_calm 298 silent fault.toValue
  have hashable : Store.empty.checkKey (.text topic) = .ok () := rfl
  simp only [publish, hashable, emitted]

end Publishing

end Broker

end GraphGateway.PubSub
