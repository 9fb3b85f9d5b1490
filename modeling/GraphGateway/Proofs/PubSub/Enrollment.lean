import GraphGateway.Proofs.PubSub.Passing

/-!
# Who is enrolled with a broker

Handlers subscribe and unsubscribe, iterators are opened and closed, payloads are published and what was left to do is
done, in any order. `Broker.enrolled` follows from the operations alone, and from which of them were refused, who is
subscribed to what since when; `Enrolled` says that the topics of the broker hold exactly these, each topic in the
order in which they came.
-/

namespace GraphGateway.PubSub

open Number

/-- What is done with a broker. -/
inductive Operation where
  | subscribe (topic handler : String)
  | unsubscribe (topic handler : String)
  /-- An iterator over the payloads of a topic is opened. -/
  | iterate (topic : String)
  /-- An iterator is closed. -/
  | close (id : Nat)
  | publish (topic : String) (payload : Value)
  /-- What was left to do is done. -/
  | turn

namespace Broker

/-- A broker to which nobody has subscribed yet, with a limit of subscriptions if there is one. -/
def fresh (limit : Option Int) (handlers : String → Handler) : Broker :=
  { limit := limit.elim .null .int, handlers }

def operate (b : Broker) : Operation → Broker
  | .subscribe topic handler => (b.subscribe (.text topic) (.handler handler)).2
  | .unsubscribe topic handler => (b.unsubscribe (.text topic) (.handler handler)).2
  | .iterate topic => (b.join { topic := .text topic }).2
  | .close id => b.close id
  | .publish topic payload => (b.publish (.text topic) payload).2
  | .turn => b.settle .empty

def run (b : Broker) (operations : List Operation) : Broker :=
  operations.foldl operate b

/-- Who is subscribed to what after an operation. An operation that is refused enrolls nobody, and nobody is enrolled
twice for one topic. -/
def enroll (b : Broker) (present : List (String × Listener)) : Operation → List (String × Listener)
  | .subscribe topic handler =>
    match (b.subscribe (.text topic) (.handler handler)).1 with
    | some _ => present
    | none => if (topic, .handler handler) ∈ present then present else present ++ [(topic, .handler handler)]
  | .unsubscribe topic handler => present.erase (topic, .handler handler)
  | .iterate topic =>
    match (b.join { topic := .text topic }).1 with
    | .error _ => present
    | .ok id => present ++ [(topic, .subscriber id)]
  | .close id => present.filter fun e => e.2 ≠ .subscriber id
  | .publish .. | .turn => present

/-- Who is subscribed to what after some operations, in the order in which they came. -/
def enrolled (b : Broker) (present : List (String × Listener)) : List Operation → List (String × Listener)
  | [] => present
  | x :: rest => (b.operate x).enrolled (b.enroll present x) rest

/-- Whether as many subscriptions are made as a limit allows. -/
def Reached (b : Broker) (limit : Option Int) : Prop :=
  ∃ m, limit = some m ∧ m ≤ b.count

theorem ordered_int (a b : Int) : Store.empty.ordered .ge (.int a) (.int b) = .ok (decide (b ≤ a)) := by
  have depth : Store.empty.depth (.int a) + Store.empty.depth (.int b) = 1 + 1 := rfl
  have compared : compare a b ≠ .lt ↔ b ≤ a := by
    show compareOfLessAndEq a b ≠ .lt ↔ b ≤ a
    unfold compareOfLessAndEq
    split
    · simp; omega
    · split
      · simp; omega
      · simp; omega
  simp only [Store.ordered, depth, Store.orderedWithin, Store.look, Value.isNumber, Value.number?,
    Binary64.Exact.compare, Order.holds, Bool.and_self, if_true, Int.natCast_one, Int.mul_one]
  simp only [compared]

theorem full_iff {b : Broker} {limit : Option Int} (limited : b.limit = limit.elim .null .int) :
    (b.full = .ok true ∧ b.Reached limit) ∨ (b.full = .ok false ∧ ¬ b.Reached limit) := by
  cases limit with
  | none => exact .inr ⟨by simp only [full, limited, Option.elim_none], by simp [Reached]⟩
  | some m =>
      have compared : b.full = .ok (decide (m ≤ b.count)) := by
        simp only [full, limited, Option.elim_some, ordered_int]
      by_cases reached : m ≤ b.count
      · exact .inl ⟨by simp [compared, reached], m, rfl, reached⟩
      · refine .inr ⟨by simp [compared, reached], ?_⟩
        rintro ⟨m', same, reached'⟩
        cases same
        exact reached reached'

/-- A subscription is refused without a change where the limit is reached. Otherwise its announcement may fail, or
the listener is put to its topic. -/
theorem subscribe_cases {b : Broker} {limit : Option Int} (limited : b.limit = limit.elim .null .int)
    (topic : String) (l : Listener) :
    (b.Reached limit ∧ b.subscribe (.text topic) l = (some (.capacity b.limit.toText topic), b)) ∨
    (¬ b.Reached limit ∧ ∃ after, Steady b after ∧
      (b.subscribe (.text topic) l = (some .nestedTooDeep, after) ∨
        b.subscribe (.text topic) l = (none, { after with
          topics := addListener (.text topic) l after.topics
          count := after.count + 1 }))) := by
  rcases full_iff limited with ⟨full, reached⟩ | ⟨full, free⟩
  · exact .inl ⟨reached, by simp only [subscribe, full]; rfl⟩
  · have steady := steady_emit b newListenerTopic .newListener
    have hashable : Store.empty.checkKey (.text topic) = .ok () := rfl
    refine .inr ⟨free, (b.emit newListenerTopic .newListener).2, steady, ?_⟩
    cases announced : b.emit newListenerTopic .newListener with
    | mk failed after =>
        cases failed with
        | none => exact .inr (by simp only [subscribe, enlist, full, announced, hashable])
        | some fault =>
            have endless : fault = .nestedTooDeep := Emitter.fault_emitWithin (congrArg Prod.fst announced)
            exact .inl (by simp only [subscribe, enlist, full, announced, endless])

theorem unsubscribe_cases (b : Broker) (topic : String) (l : Listener) :
    (b.listeners? (.text topic) = none ∧ l ∉ listenersIn b.topics topic ∧
      b.unsubscribe (.text topic) l = (none, { b with count := b.count - 1 })) ∨
    (b.listeners? (.text topic) ≠ none ∧ l ∈ listenersIn b.topics topic ∧
      b.unsubscribe (.text topic) l = (none, { b with
        topics := removeListener (.text topic) l b.topics
        count := b.count - 1 })) ∨
    (b.listeners? (.text topic) ≠ none ∧ l ∉ listenersIn b.topics topic ∧
      b.unsubscribe (.text topic) l = (none, b)) := by
  have hashable : Store.empty.checkKey (.text topic) = .ok () := rfl
  rcases takenOff?_cases topic l b.topics with ⟨gone, absent, same⟩ | ⟨there, member, removed⟩ | ⟨there, absent, unknown⟩
  · exact .inl ⟨gone, absent, by simp only [unsubscribe, hashable, same]⟩
  · exact .inr (.inl ⟨there, member, by simp only [unsubscribe, hashable, removed]⟩)
  · exact .inr (.inr ⟨there, absent, by simp only [unsubscribe, hashable, unknown]⟩)

theorem join_eq (b : Broker) (topic : String) :
    b.join { topic := .text topic } = match b.subscribe (.text topic) (.subscriber b.subscribers.length) with
      | (some fault, after) => (.error fault, after)
      | (none, after) => (.ok b.subscribers.length,
          { after with subscribers := after.subscribers ++ [{ topic := .text topic }] }) :=
  rfl

theorem steady_publish (b : Broker) (topic : String) (v : Value) : Steady b (b.publish (.text topic) v).2 := by
  have emitted := steady_emit b (.text topic) (.payload v)
  have hashable : Store.empty.checkKey (.text topic) = .ok () := rfl
  simp only [publish, hashable]
  split
  · rename_i given
    rwa [given] at emitted
  · rename_i given
    rwa [given] at emitted

section Settling

theorem steady_perform (b : Broker) (task : Task) : Steady b (b.perform task) := by
  cases task with
  | report fault => exact steady_emit b errorTopic (.payload fault.toValue)
  | handle name v =>
      simp only [perform]
      split
      · exact ⟨rfl, rfl, rfl, rfl, rfl⟩
      · exact ⟨rfl, rfl, rfl, rfl, rfl⟩

theorem steady_performs (tasks : List Task) (b : Broker) : Steady b (tasks.foldl perform b) := by
  induction tasks generalizing b with
  | nil => exact .refl b
  | cons task rest ih => exact (steady_perform b task).trans (ih (b.perform task))

theorem steady_look (b : Broker) (st : Store) :
    Steady b { b with subscribers := b.subscribers.map fun s => Subscriber.settle s st, tasks := [] } := by
  refine ⟨rfl, rfl, rfl, rfl, ?_⟩
  rw [List.map_map]
  exact List.map_congr_left fun s _ => face_of_guise (s.guise_settle st)

theorem steady_settle (b : Broker) (st : Store) : Steady b (b.settle st) := by
  suffices rounds : ∀ n, Steady b (settleWithin st n b) from rounds maxReports
  intro n
  induction n generalizing b with
  | zero => exact .refl b
  | succ n ih =>
      have looked := b.steady_look st
      simp only [settleWithin]
      split
      · exact ⟨looked.limit, looked.handlers, looked.count, looked.topics, looked.faces⟩
      · exact (looked.trans (steady_performs b.tasks _)).trans (ih _)

end Settling

end Broker

/-- Who is subscribed to a topic, in the order in which they came. -/
def listenersTo (present : List (String × Listener)) (topic : String) : List Listener :=
  (present.filter fun e => e.1 = topic).map (·.2)

theorem mem_listenersTo {present : List (String × Listener)} {topic : String} {l : Listener} :
    l ∈ listenersTo present topic ↔ (topic, l) ∈ present := by
  simp [listenersTo]

theorem listenersTo_append (present : List (String × Listener)) (topic other : String) (l : Listener) :
    listenersTo (present ++ [(topic, l)]) other =
      if topic = other then listenersTo present other ++ [l] else listenersTo present other := by
  by_cases same : topic = other <;> simp [listenersTo, same]

theorem listenersTo_erase {present : List (String × Listener)} (topic other : String) (l : Listener) :
    listenersTo (present.erase (topic, l)) other =
      if topic = other then (listenersTo present other).erase l else listenersTo present other := by
  induction present with
  | nil => simp [listenersTo]
  | cons e rest ih =>
      obtain ⟨name, k⟩ := e
      by_cases here : (name, k) = (topic, l)
      · obtain ⟨rfl, rfl⟩ := Prod.mk.inj here
        by_cases same : name = other <;> simp [listenersTo, same]
      · have differs : ((name, k) == (topic, l)) = false := by simpa using here
        rw [List.erase_cons_tail (by simpa using here)]
        by_cases named : name = other
        · subst named
          have cons : ∀ others, listenersTo ((name, k) :: others) name = k :: listenersTo others name := by
            simp [listenersTo]
          rw [cons, cons, ih]
          split
          · rename_i same
            have apart : k ≠ l := fun equal => here (by rw [same, equal])
            rw [List.erase_cons_tail (by simpa using apart)]
          · rfl
        · have cons : ∀ others, listenersTo ((name, k) :: others) other = listenersTo others other := by
            simp [listenersTo, named]
          rw [cons, cons, ih]

theorem distinct_listenersTo {present : List (String × Listener)} (distinct : present.Nodup) (topic : String) :
    (listenersTo present topic).Nodup := by
  refine List.pairwise_map.mpr ((distinct.filter _).imp_of_mem fun first second apart same => ?_)
  have named := (List.mem_filter.mp first).2
  have named' := (List.mem_filter.mp second).2
  simp only [decide_eq_true_eq] at named named'
  exact apart (Prod.ext (named.trans named'.symm) same)

/-- The listeners of a topic that come with a broker. -/
def ownListeners (topic : String) : List Listener :=
  if topic = "error" then [.reporter] else []

/-- Whether a broker with a limit and handlers has exactly the subscriptions of a list, in their order. -/
structure Enrolled (limit : Option Int) (handlers : String → Handler) (b : Broker)
    (present : List (String × Listener)) : Prop where
  limited : b.limit = limit.elim .null .int
  handled : b.handlers = handlers
  table : Table b.topics
  listening : ∀ topic, listenersIn b.topics topic = ownListeners topic ++ listenersTo present topic
  distinct : present.Nodup
  others : ∀ e ∈ present, e.2 ≠ .reporter
  opened : ∀ topic id,
    (topic, .subscriber id) ∈ present ↔ b.subscribers[id]?.map Broker.face = some (.text topic, true)
  named : ∀ s ∈ b.subscribers, ∃ topic, s.topic = .text topic

namespace Enrolled

theorem fresh (limit : Option Int) (handlers : String → Handler) :
    Enrolled limit handlers (.fresh limit handlers) [] where
  limited := rfl
  handled := rfl
  table := .cons (by simp) .nil
  listening topic := by
    refine (listenersIn_cons "error" topic [Listener.reporter] []).trans ?_
    simp [ownListeners, eq_comm, listenersIn, listenersOf?, listenersTo]
  distinct := .nil
  others := by simp
  opened := by simp [Broker.fresh]
  named := by simp [Broker.fresh]

variable {limit : Option Int} {handlers : String → Handler} {b : Broker} {present : List (String × Listener)}
  (enrolled : Enrolled limit handlers b present)
include enrolled

theorem steady {after : Broker} (steady : b.Steady after) : Enrolled limit handlers after present where
  limited := steady.limit.trans enrolled.limited
  handled := steady.handlers.trans enrolled.handled
  table := steady.topics ▸ enrolled.table
  listening := steady.topics ▸ enrolled.listening
  distinct := enrolled.distinct
  others := enrolled.others
  opened topic id := by rw [← List.getElem?_map, steady.faces, List.getElem?_map]; exact enrolled.opened topic id
  named s member := by
    have shown : Broker.face s ∈ b.subscribers.map Broker.face := steady.faces ▸ List.mem_map_of_mem member
    obtain ⟨before, member, same⟩ := List.mem_map.mp shown
    obtain ⟨topic, named⟩ := enrolled.named before member
    exact ⟨topic, (congrArg Prod.fst same).symm.trans named⟩

theorem mem_iff {topic : String} {l : Listener} (other : l ≠ .reporter) :
    l ∈ listenersIn b.topics topic ↔ (topic, l) ∈ present := by
  rw [enrolled.listening, List.mem_append, mem_listenersTo]
  refine ⟨fun either => either.resolve_left fun own => other ?_, .inr⟩
  unfold ownListeners at own
  split at own
  · exact List.mem_singleton.mp own
  · cases own

theorem unopened (topic : String) : (topic, .subscriber b.subscribers.length) ∉ present := by
  rw [enrolled.opened]
  simp

theorem distinct_append {e : String × Listener} (absent : e ∉ present) : (present ++ [e]).Nodup := by
  refine List.nodup_append.mpr ⟨enrolled.distinct, by simp, fun first member last added same => absent ?_⟩
  rwa [← List.mem_singleton.mp added, ← same]

theorem others_append {topic : String} {l : Listener} (other : l ≠ .reporter) :
    ∀ e ∈ present ++ [(topic, l)], e.2 ≠ .reporter := by
  intro e member
  rcases List.mem_append.mp member with before | added
  · exact enrolled.others e before
  · rwa [List.mem_singleton.mp added]

theorem listening_added (topic : String) {l : Listener} (other : l ≠ .reporter) (name : String) :
    listenersIn (addListener (.text topic) l b.topics) name =
      ownListeners name ++
        listenersTo (if (topic, l) ∈ present then present else present ++ [(topic, l)]) name := by
  simp only [listenersIn_addListener topic l enrolled.table, enrolled.mem_iff other]
  by_cases there : (topic, l) ∈ present
  · simp only [if_pos there]
    split
    · rename_i same
      rw [← same, enrolled.listening]
    · exact enrolled.listening name
  · simp only [if_neg there, listenersTo_append]
    split
    · rename_i same
      rw [← same, enrolled.listening, List.append_assoc]
    · exact enrolled.listening name

theorem listening_removed {topic : String} {l : Listener} (other : l ≠ .reporter) (name : String) :
    listenersIn (removeListener (.text topic) l b.topics) name =
      ownListeners name ++ listenersTo (present.erase (topic, l)) name := by
  rw [listenersIn_removeListener topic l enrolled.table, listenersTo_erase]
  split
  · rename_i same
    rw [← same, enrolled.listening]
    unfold ownListeners
    split
    · rw [List.cons_append, List.erase_cons_tail (by simpa using other.symm)]
      rfl
    · rfl
  · exact enrolled.listening name

theorem add_handler (topic handler : String) (count : Int) :
    Enrolled limit handlers { b with topics := addListener (.text topic) (.handler handler) b.topics, count }
      (if (topic, .handler handler) ∈ present then present else present ++ [(topic, .handler handler)]) where
  limited := enrolled.limited
  handled := enrolled.handled
  table := enrolled.table.addListener topic _
  listening := enrolled.listening_added topic nofun
  distinct := by
    split
    · exact enrolled.distinct
    · rename_i absent
      exact enrolled.distinct_append absent
  others := by
    split
    · exact enrolled.others
    · exact enrolled.others_append nofun
  opened name id := by
    rw [← enrolled.opened]
    split
    · rfl
    · simp
  named := enrolled.named

theorem remove_handler (topic handler : String) (count : Int) :
    Enrolled limit handlers { b with topics := removeListener (.text topic) (.handler handler) b.topics, count }
      (present.erase (topic, .handler handler)) where
  limited := enrolled.limited
  handled := enrolled.handled
  table := enrolled.table.removeListener topic _
  listening := enrolled.listening_removed nofun
  distinct := enrolled.distinct.erase _
  others e member := enrolled.others e (List.mem_of_mem_erase member)
  opened name id := by
    rw [← enrolled.opened]
    exact List.mem_erase_of_ne nofun
  named := enrolled.named

theorem add_iterator (topic : String) (count : Int) :
    Enrolled limit handlers { b with
        topics := addListener (.text topic) (.subscriber b.subscribers.length) b.topics
        count
        subscribers := b.subscribers ++ [{ topic := .text topic }] }
      (present ++ [(topic, .subscriber b.subscribers.length)]) where
  limited := enrolled.limited
  handled := enrolled.handled
  table := enrolled.table.addListener topic _
  listening name := by
    have added := enrolled.listening_added topic (l := .subscriber b.subscribers.length) nofun name
    rwa [if_neg (enrolled.unopened topic)] at added
  distinct := enrolled.distinct_append (enrolled.unopened topic)
  others := enrolled.others_append nofun
  opened name id := by
    rw [List.mem_append, enrolled.opened]
    rcases Nat.lt_trichotomy id b.subscribers.length with less | rfl | greater
    · rw [List.getElem?_append_left less]
      simp [Nat.ne_of_lt less]
    · simp [Broker.face, eq_comm]
    · have beyond : (b.subscribers ++ [({ topic := .text topic } : Subscriber)]).length ≤ id := by
        simpa using Nat.succ_le_of_lt greater
      rw [List.getElem?_eq_none beyond, List.getElem?_eq_none (Nat.le_of_lt greater)]
      simp [Nat.ne_of_gt greater]
  named s member := by
    rcases List.mem_append.mp member with before | added
    · exact enrolled.named s before
    · exact ⟨topic, by rw [List.mem_singleton.mp added]⟩

theorem remove_iterator {id : Nat} {topic : String} (there : (topic, .subscriber id) ∈ present) (count : Int) :
    Enrolled limit handlers
      (Broker.modify { b with topics := removeListener (.text topic) (.subscriber id) b.topics, count } id (·.close))
      (present.erase (topic, .subscriber id)) where
  limited := enrolled.limited
  handled := enrolled.handled
  table := enrolled.table.removeListener topic _
  listening := enrolled.listening_removed nofun
  distinct := enrolled.distinct.erase _
  others e member := enrolled.others e (List.mem_of_mem_erase member)
  opened name i := by
    have before := enrolled.opened name i
    simp only [Broker.modify, List.getElem?_modify]
    by_cases here : id = i
    · subst here
      have gone : (name, .subscriber id) ∉ present.erase (topic, .subscriber id) := by
        intro still
        have same : Option.some (Value.text name, true) = some (.text topic, true) :=
          (before.mp (List.mem_of_mem_erase still)).symm.trans ((enrolled.opened topic id).mp there)
        cases same
        exact (enrolled.distinct.mem_erase_iff.mp still).1 rfl
      cases b.subscribers[id]? with
      | none => simp [gone]
      | some s => simp [gone, Broker.face, Subscriber.close, Subscriber.put]
    · have differs : (name, Listener.subscriber i) ≠ (topic, .subscriber id) := by simp [Ne.symm here]
      rw [List.mem_erase_of_ne differs, before]
      simp [here]
  named s member := by
    obtain ⟨i, here⟩ := List.mem_iff_getElem?.mp member
    simp only [Broker.modify, List.getElem?_modify] at here
    obtain ⟨before, there, rfl⟩ := Option.map_eq_some_iff.mp here
    obtain ⟨topic, named⟩ := enrolled.named before (List.mem_of_getElem? there)
    refine ⟨topic, ?_⟩
    split <;> exact named

theorem filter_closed {id : Nat} {topic : String} (there : (topic, .subscriber id) ∈ present) :
    present.filter (fun e => e.2 ≠ .subscriber id) = present.erase (topic, .subscriber id) := by
  rw [enrolled.distinct.erase_eq_filter]
  refine List.filter_congr fun e member => ?_
  obtain ⟨name, l⟩ := e
  by_cases here : l = .subscriber id
  · subst here
    have same : Option.some (Value.text name, true) = some (.text topic, true) :=
      ((enrolled.opened name id).mp member).symm.trans ((enrolled.opened topic id).mp there)
    cases same
    simp
  · simp [here]

/-- Closing an iterator that is open takes it off its topic; closing it again does nothing. -/
theorem close_cases (id : Nat) :
    (b.close id = b ∧ present.filter (fun e => e.2 ≠ .subscriber id) = present) ∨
    ∃ topic, (topic, .subscriber id) ∈ present ∧
      present.filter (fun e => e.2 ≠ .subscriber id) = present.erase (topic, .subscriber id) ∧
      b.close id = Broker.modify { b with
        topics := removeListener (.text topic) (.subscriber id) b.topics
        count := b.count - 1 } id (·.close) := by
  by_cases opened : ∃ topic, (topic, .subscriber id) ∈ present
  · obtain ⟨topic, there⟩ := opened
    refine .inr ⟨topic, there, enrolled.filter_closed there, ?_⟩
    have face := (enrolled.opened topic id).mp there
    obtain ⟨s, found, same⟩ := Option.map_eq_some_iff.mp face
    obtain ⟨named, listening⟩ := Prod.mk.inj same
    have listens : .subscriber id ∈ listenersIn b.topics topic :=
      (enrolled.mem_iff (l := .subscriber id) nofun).mpr there
    rcases b.unsubscribe_cases topic (.subscriber id) with ⟨_, absent, _⟩ | ⟨_, _, removed⟩ | ⟨_, absent, _⟩
    · exact absurd listens absent
    · simp only [Broker.close, found, listening, if_true, named, removed]
    · exact absurd listens absent
  · refine .inl ⟨?_, List.filter_eq_self.mpr fun e member => ?_⟩
    · unfold Broker.close
      split
      · rfl
      · rename_i s found
        split
        · rename_i listening
          obtain ⟨topic, named⟩ := enrolled.named s (List.mem_of_getElem? found)
          have there := (enrolled.opened topic id).mpr (by simp [found, Broker.face, named, listening])
          exact absurd ⟨topic, there⟩ opened
        · rfl
    · obtain ⟨topic, l⟩ := e
      simp only [ne_eq, decide_eq_true_eq]
      rintro rfl
      exact opened ⟨topic, member⟩

/-- Every operation keeps the list of subscriptions in step with the broker. -/
theorem operate (x : Operation) : Enrolled limit handlers (b.operate x) (b.enroll present x) := by
  cases x with
  | subscribe topic handler =>
      simp only [Broker.operate, Broker.enroll]
      rcases Broker.subscribe_cases enrolled.limited topic (.handler handler) with
        ⟨_, refused⟩ | ⟨_, after, steady, refused | accepted⟩
      · rw [refused]
        exact enrolled
      · rw [refused]
        exact enrolled.steady steady
      · rw [accepted]
        exact (enrolled.steady steady).add_handler topic handler _
  | unsubscribe topic handler =>
      simp only [Broker.operate, Broker.enroll]
      have member : .handler handler ∈ listenersIn b.topics topic ↔ (topic, .handler handler) ∈ present :=
        enrolled.mem_iff nofun
      rcases b.unsubscribe_cases topic (.handler handler) with
        ⟨_, absent, left⟩ | ⟨_, _, left⟩ | ⟨_, absent, left⟩
      · rw [left, List.erase_of_not_mem (fun there => absent (member.mpr there))]
        exact { enrolled with }
      · rw [left]
        exact enrolled.remove_handler topic handler _
      · rw [left, List.erase_of_not_mem (fun there => absent (member.mpr there))]
        exact enrolled
  | iterate topic =>
      simp only [Broker.operate, Broker.enroll, Broker.join_eq]
      rcases Broker.subscribe_cases enrolled.limited topic (.subscriber b.subscribers.length) with
        ⟨_, refused⟩ | ⟨_, after, steady, refused | accepted⟩
      · rw [refused]
        exact enrolled
      · rw [refused]
        exact enrolled.steady steady
      · rw [accepted, ← steady.length]
        exact (enrolled.steady steady).add_iterator topic _
  | close id =>
      simp only [Broker.operate, Broker.enroll]
      rcases enrolled.close_cases id with ⟨still, same⟩ | ⟨topic, there, left, closed⟩
      · rw [still, same]
        exact enrolled
      · rw [closed, left]
        exact enrolled.remove_iterator there _
  | publish topic payload => exact enrolled.steady (Broker.steady_publish b topic payload)
  | turn => exact enrolled.steady (Broker.steady_settle b .empty)

theorem run (operations : List Operation) :
    Enrolled limit handlers (b.run operations) (b.enrolled present operations) := by
  induction operations generalizing b present with
  | nil => exact enrolled
  | cons x rest ih => exact ih (enrolled.operate x)

end Enrolled

end GraphGateway.PubSub
