import GraphGateway.Proofs.PubSub.Enrollment

/-!
# Whom a payload reaches

A topic of any name may be the one on which failures are told. Its subscribers are told of the failures on every
topic, the broker itself is always among its listeners, and if one of them fails then no report ends.
-/

namespace GraphGateway.PubSub

namespace Enrolled

variable {limit : Option Int} {handlers : String → Handler} {b : Broker} {present : List (String × Listener)}
  (enrolled : Enrolled limit handlers b present)
include enrolled

theorem listeners_eq (topic : String) :
    b.listeners (.text topic) = ownListeners topic ++ listenersTo present topic :=
  enrolled.listening topic

theorem someFails_iff (topic : String) :
    b.SomeFails (b.listeners (.text topic)) ↔ ∃ l ∈ listenersTo present topic, (l.failure? handlers).isSome := by
  rw [enrolled.listeners_eq, Broker.SomeFails, enrolled.handled]
  constructor
  · rintro ⟨l, member, failed⟩
    rcases List.mem_append.mp member with own | subscribed
    · unfold ownListeners at own
      split at own
      · rw [List.mem_singleton.mp own] at failed
        cases failed
      · cases own
    · exact ⟨l, subscribed, failed⟩
  · rintro ⟨l, member, failed⟩
    exact ⟨l, List.mem_append_right _ member, failed⟩

end Enrolled

/-- After any operations, a payload that is published on a topic reaches everybody who is subscribed to it, each once
and in the order of subscription, and every failure is told at once to the broker and to the subscribers of the topic
of failures. The answer is whether anybody is subscribed, or the topic is that of failures. But if a subscriber of the
topic fails and a subscriber of the topic of failures does, publishing fails, and nobody behind the first who fails
gets the payload. -/
theorem publish_reaches (limit : Option Int) (handlers : String → Handler) (operations : List Operation)
    (topic : String) (payload : Value) :
    let b := (Broker.fresh limit handlers).run operations
    let present := (Broker.fresh limit handlers).enrolled [] operations
    let subscribed := listenersTo present topic
    let told := listenersTo present "error"
    let endless := (∃ l ∈ subscribed, (l.failure? handlers).isSome) ∧ ∃ l ∈ told, (l.failure? handlers).isSome
    let published := b.publish (.text topic) payload
    subscribed.Nodup ∧
    (¬ endless →
      published.1 = .ok (decide (topic = "error") || !subscribed.isEmpty) ∧
      published.2 = ((ownListeners topic ++ subscribed).flatMap
        (passesFor handlers (.reporter :: told) payload)).foldl Broker.pass b) ∧
    (endless →
      published.1 = .error .nestedTooDeep ∧
      ∃ reports : List (Listener × Value), (∀ p ∈ reports, p.1 ∈ .reporter :: told) ∧
        published.2 = (((reached handlers (ownListeners topic ++ subscribed)).map fun l => (l, payload)) ++
          reports).foldl Broker.pass b) := by
  intro b present subscribed told endless published
  have enrolled : Enrolled limit handlers b present := (Enrolled.fresh limit handlers).run operations
  have listening := enrolled.listeners_eq topic
  have telling : b.listeners errorTopic = .reporter :: told := enrolled.listeners_eq "error"
  have disturbed : endless ↔ b.SomeFails (b.listeners (.text topic)) ∧ b.SomeFails (b.listeners errorTopic) :=
    and_congr (enrolled.someFails_iff topic).symm (enrolled.someFails_iff "error").symm
  refine ⟨distinct_listenersTo enrolled.distinct topic, fun calm => ?_, fun failing => ?_⟩
  · have passed := b.publish_passes topic payload (mt disturbed.mpr calm)
    rw [listening, telling, enrolled.handled] at passed
    refine ⟨?_, congrArg Prod.snd passed⟩
    rw [show published = _ from passed]
    by_cases failures : topic = "error" <;> simp [failures, ownListeners, subscribed]
  · obtain ⟨fails, tells⟩ := disturbed.mp failing
    obtain ⟨failed, reports, among, after⟩ := b.publish_disturbed topic payload fails tells
    rw [listening, enrolled.handled] at after
    rw [telling] at among
    exact ⟨failed, reports, among, after⟩

def fragile : String → Handler
  | "bad" => { failure := some (.raised "ValueError" "exploded" none) }
  | _ => {}

/-- A failure on one topic reaches a handler that is subscribed to another. -/
theorem fragile_told :
    let operations := [.subscribe "t" "bad", .subscribe "error" "h", .subscribe "t" "g"]
    let b := (Broker.fresh none fragile).run operations
    let published := b.publish (.text "t") (.int 1)
    published.1 = .ok true ∧
      published.2 = [(.handler "bad", .int 1), (.reporter, .error "ValueError" "exploded" none),
        (.handler "h", .error "ValueError" "exploded" none), (.handler "g", .int 1)].foldl Broker.pass b := by
  intro operations b published
  have present : (Broker.fresh none fragile).enrolled [] operations =
      [("t", .handler "bad"), ("error", .handler "h"), ("t", .handler "g")] := by rfl
  have calm : ¬ ∃ l ∈ listenersTo [("t", .handler "bad"), ("error", .handler "h"), ("t", .handler "g")] "error",
      (l.failure? fragile).isSome = true := by
    rintro ⟨l, member, failed⟩
    obtain rfl : l = .handler "h" := List.mem_singleton.mp member
    cases failed
  have reaches := publish_reaches none fragile operations "t" (.int 1)
  rw [present] at reaches
  exact reaches.2.1 fun endless => calm endless.2

end GraphGateway.PubSub
