import GraphGateway.Proofs.PubSub.Enrollment

/-!
# What the number of subscriptions counts

A broker counts subscriptions up and down on its own account, beside the topics that hold them. The two are in step
except for handlers that subscribe again to what they are subscribed to, which are counted again, and for handlers
that unsubscribe from a topic which nobody listens to, which are counted off.
-/

namespace GraphGateway.PubSub

/-- How many subscriptions topics hold. What the broker itself listens to is none of them. -/
def registrations : List (Value × List Listener) → Nat
  | [] => 0
  | (_, listening) :: rest => listening.countP (· ≠ .reporter) + registrations rest

section Registrations

variable {topics : List (Value × List Listener)} (table : Table topics) (name : String) {l : Listener}
  (other : l ≠ .reporter)
include table other

theorem registrations_add :
    registrations (addListener (.text name) l topics) =
      registrations topics + if l ∈ listenersIn topics name then 0 else 1 := by
  induction table with
  | nil => simp [addListener, registrations, listenersIn, listenersOf?, other]
  | @cons first listening rest _ _ ih =>
      by_cases found : first = name
      · subst found
        by_cases member : l ∈ listening
        · simp [addListener, registrations, listenersIn_cons, member]
        · simp [addListener, registrations, listenersIn_cons, member, other]
          omega
      · have added : addListener (.text name) l ((.text first, listening) :: rest) =
            (.text first, listening) :: addListener (.text name) l rest := by
          simp [addListener, found]
        simp only [added, registrations, ih, listenersIn_cons, if_neg found]
        omega

theorem registrations_remove :
    registrations (removeListener (.text name) l topics) + (if l ∈ listenersIn topics name then 1 else 0) =
      registrations topics := by
  induction table with
  | nil => simp [removeListener, registrations, listenersIn, listenersOf?]
  | @cons first listening rest _ _ ih =>
      by_cases found : first = name
      · subst found
        have left : registrations (removeListener (.text first) l ((.text first, listening) :: rest)) =
            (listening.erase l).countP (· ≠ .reporter) + registrations rest := by
          simp only [removeListener, sameKey_text, decide_true, if_true]
          cases listening.erase l <;> simp [registrations]
        rw [left, registrations, listenersIn_cons, if_pos rfl]
        by_cases member : l ∈ listening
        · rw [if_pos member, (List.perm_cons_erase member).countP_eq]
          simp [other]
          omega
        · rw [if_neg member, List.erase_of_not_mem member, Nat.add_zero]
      · have removed : removeListener (.text name) l ((.text first, listening) :: rest) =
            (.text first, listening) :: removeListener (.text name) l rest := by
          simp [removeListener, found]
        simp only [removed, registrations, ← ih, listenersIn_cons, if_neg found]
        omega

end Registrations

namespace Broker

/-- Whether an operation subscribes a handler to a topic that it is subscribed to, as a number. -/
def repeats (b : Broker) : Operation → Nat
  | .subscribe topic handler =>
    match (b.subscribe (.text topic) (.handler handler)).1 with
    | some _ => 0
    | none => if .handler handler ∈ listenersIn b.topics topic then 1 else 0
  | _ => 0

/-- Whether an operation unsubscribes a handler from a topic that nobody listens to, as a number. -/
def strays (b : Broker) : Operation → Nat
  | .unsubscribe topic _ => if (b.listeners? (.text topic)).isNone then 1 else 0
  | _ => 0

/-- The sum of what the operations of a run count. -/
def tally (counted : Broker → Operation → Nat) (b : Broker) : List Operation → Nat
  | [] => 0
  | x :: rest => counted b x + (b.operate x).tally counted rest

end Broker

namespace Enrolled

variable {limit : Option Int} {handlers : String → Handler} {b : Broker} {present : List (String × Listener)}
  (enrolled : Enrolled limit handlers b present)
include enrolled

theorem operate_count (x : Operation) :
    (b.operate x).count + b.strays x + registrations b.topics =
      b.count + b.repeats x + registrations (b.operate x).topics := by
  cases x with
  | subscribe topic handler =>
      have added := registrations_add enrolled.table topic (l := .handler handler) (by simp)
      simp only [Broker.operate, Broker.strays, Broker.repeats]
      rcases Broker.subscribe_cases enrolled.limited topic (.handler handler) with
        ⟨_, refused⟩ | ⟨_, after, steady, refused | accepted⟩
      · simp [refused]
      · simp [refused, steady.count, steady.topics]
      · simp only [accepted, steady.count, steady.topics, added]
        split <;> omega
  | unsubscribe topic handler =>
      have removed := registrations_remove enrolled.table topic (l := .handler handler) (by simp)
      simp only [Broker.operate, Broker.strays, Broker.repeats]
      rcases b.unsubscribe_cases topic (.handler handler) with
        ⟨unknown, _, left⟩ | ⟨known, member, left⟩ | ⟨known, _, left⟩
      · simp [unknown, left]
      · rw [if_pos member] at removed
        simp only [left, Option.isNone_iff_eq_none, if_neg known]
        omega
      · simp only [left, Option.isNone_iff_eq_none, if_neg known]
  | iterate topic =>
      have absent : .subscriber b.subscribers.length ∉ listenersIn b.topics topic := fun member =>
        enrolled.unopened topic ((enrolled.mem_iff (l := .subscriber b.subscribers.length) (by simp)).mp member)
      have added := registrations_add enrolled.table topic (l := .subscriber b.subscribers.length) (by simp)
      rw [if_neg absent] at added
      simp only [Broker.operate, Broker.strays, Broker.repeats, Broker.join_eq]
      rcases Broker.subscribe_cases enrolled.limited topic (.subscriber b.subscribers.length) with
        ⟨_, refused⟩ | ⟨_, after, steady, refused | accepted⟩
      · simp [refused]
      · simp [refused, steady.count, steady.topics]
      · simp only [accepted, steady.count, steady.topics, added]
        omega
  | close id =>
      simp only [Broker.operate, Broker.strays, Broker.repeats]
      rcases enrolled.close_cases id with ⟨still, _⟩ | ⟨topic, there, _, closed⟩
      · rw [still]
      · have removed := registrations_remove enrolled.table topic (l := .subscriber id) (by simp)
        rw [if_pos ((enrolled.mem_iff (l := .subscriber id) (by simp)).mpr there)] at removed
        simp only [closed, Broker.modify]
        omega
  | publish topic payload =>
      have steady := b.steady_publish topic payload
      simp [Broker.operate, Broker.strays, Broker.repeats, steady.count, steady.topics]
  | turn =>
      have steady := b.steady_settle .empty
      simp [Broker.operate, Broker.strays, Broker.repeats, steady.count, steady.topics]

theorem operate_count_le {m : Int} (limited : limit = some m) (within : b.count ≤ m) (x : Operation) :
    (b.operate x).count ≤ m := by
  -- Only a subscription counts up, and only where the limit is not reached.
  have room : ¬ b.Reached limit → b.count + 1 ≤ m := by
    intro free
    have below : ¬ m ≤ b.count := fun reached => free ⟨m, limited, reached⟩
    omega
  cases x with
  | subscribe topic handler =>
      simp only [Broker.operate]
      rcases Broker.subscribe_cases enrolled.limited topic (.handler handler) with
        ⟨_, refused⟩ | ⟨free, after, steady, refused | accepted⟩
      · simpa [refused] using within
      · simpa [refused, steady.count] using within
      · simpa [accepted, steady.count] using room free
  | unsubscribe topic handler =>
      simp only [Broker.operate]
      rcases b.unsubscribe_cases topic (.handler handler) with ⟨_, _, left⟩ | ⟨_, _, left⟩ | ⟨_, _, left⟩
      · simp only [left]
        omega
      · simp only [left]
        omega
      · simpa [left] using within
  | iterate topic =>
      simp only [Broker.operate, Broker.join_eq]
      rcases Broker.subscribe_cases enrolled.limited topic (.subscriber b.subscribers.length) with
        ⟨_, refused⟩ | ⟨free, after, steady, refused | accepted⟩
      · simpa [refused] using within
      · simpa [refused, steady.count] using within
      · simpa [accepted, steady.count] using room free
  | close id =>
      simp only [Broker.operate]
      rcases enrolled.close_cases id with ⟨still, _⟩ | ⟨topic, _, _, closed⟩
      · rwa [still]
      · simp only [closed, Broker.modify]
        omega
  | publish topic payload => exact (b.steady_publish topic payload).count ▸ within
  | turn => exact (b.steady_settle .empty).count ▸ within

theorem run_count (operations : List Operation) :
    (b.run operations).count + b.tally Broker.strays operations + registrations b.topics =
      b.count + b.tally Broker.repeats operations + registrations (b.run operations).topics := by
  induction operations generalizing b present with
  | nil => simp [Broker.run, Broker.tally]
  | cons x rest ih =>
      have step := enrolled.operate_count x
      have onward := ih (enrolled.operate x)
      simp only [Broker.run, Broker.tally, List.foldl_cons] at onward ⊢
      omega

theorem run_count_le {m : Int} (limited : limit = some m) (within : b.count ≤ m) (operations : List Operation) :
    (b.run operations).count ≤ m := by
  induction operations generalizing b present with
  | nil => exact within
  | cons x rest ih => exact ih (enrolled.operate x) (enrolled.operate_count_le limited within x)

theorem refused_iff (topic : String) (l : Listener) :
    ((∃ most name, (b.subscribe (.text topic) l).1 = some (.capacity most name)) ↔ b.Reached limit) ∧
      (b.Reached limit → (b.subscribe (.text topic) l).2 = b) := by
  rcases Broker.subscribe_cases enrolled.limited topic l with ⟨reached, refused⟩ | ⟨free, after, _, refused | accepted⟩
  · simp [refused, reached]
  · simp [refused, free]
  · simp [accepted, free]

theorem refused_iterator_iff (topic : String) :
    ((∃ most name, (b.join { topic := .text topic }).1 = .error (.capacity most name)) ↔ b.Reached limit) ∧
      (b.Reached limit → (b.join { topic := .text topic }).2 = b) := by
  rw [Broker.join_eq]
  rcases Broker.subscribe_cases enrolled.limited topic (.subscriber b.subscribers.length) with
    ⟨reached, refused⟩ | ⟨free, after, _, refused | accepted⟩
  · simp [refused, reached]
  · simp [refused, free]
  · simp [accepted, free]

end Enrolled

/-- After any operations, the number of subscriptions is that of the subscriptions that the topics hold, with those
that were repeated and without those that were taken off from topics which nobody listened to. It never exceeds a
limit that is not negative. A handler or an iterator is refused for want of room exactly if the number has reached the
limit, and then nothing changes. -/
theorem count_accounts (limit : Option Int) (handlers : String → Handler) (operations : List Operation) :
    let start := Broker.fresh limit handlers
    let b := start.run operations
    b.count = registrations b.topics + start.tally Broker.repeats operations - start.tally Broker.strays operations ∧
    (∀ m, limit = some m → 0 ≤ m → b.count ≤ m) ∧
    (∀ topic handler,
      ((∃ most name, (b.subscribe (.text topic) (.handler handler)).1 = some (.capacity most name)) ↔
        ∃ m, limit = some m ∧ m ≤ b.count) ∧
      ((∃ m, limit = some m ∧ m ≤ b.count) → (b.subscribe (.text topic) (.handler handler)).2 = b)) ∧
    ∀ topic,
      ((∃ most name, (b.join { topic := .text topic }).1 = .error (.capacity most name)) ↔
        ∃ m, limit = some m ∧ m ≤ b.count) ∧
      ((∃ m, limit = some m ∧ m ≤ b.count) → (b.join { topic := .text topic }).2 = b) := by
  intro start b
  have fresh : Enrolled limit handlers start [] := .fresh limit handlers
  have enrolled : Enrolled limit handlers b _ := fresh.run operations
  refine ⟨?_, ?_, ?_, ?_⟩
  · have counted := fresh.run_count operations
    have none : registrations start.topics = 0 := rfl
    have zero : start.count = 0 := rfl
    show (start.run operations).count = registrations (start.run operations).topics + _ - _
    omega
  · exact fun m limited positive => fresh.run_count_le limited positive operations
  · exact fun topic handler => enrolled.refused_iff topic (.handler handler)
  · exact fun topic => enrolled.refused_iterator_iff topic

/-- A handler that is subscribed twice and taken off once is counted, and is not there. -/
theorem repeated_counts :
    let operations := [.subscribe "t" "h", .subscribe "t" "h", .unsubscribe "t" "h"]
    let b := (Broker.fresh (some 2) fun _ => {}).run operations
    registrations b.topics = 0 ∧ b.count = 1 := by
  intro operations b
  have accounted := (count_accounts (some 2) (fun _ => {}) operations).1
  have none : registrations b.topics = 0 := by rfl
  have again : (Broker.fresh (some 2) fun _ => {}).tally Broker.repeats operations = 1 := by rfl
  have astray : (Broker.fresh (some 2) fun _ => {}).tally Broker.strays operations = 0 := by rfl
  refine ⟨none, accounted.trans ?_⟩
  rw [again, astray]
  exact congrArg (fun n : Nat => (n : Int) + 1 - 0) none

end GraphGateway.PubSub
