import GraphGateway.PubSub.Subscriber

/-!
# What the reads of a subscriber give

Every payload that a subscriber kept stands for at most one answer: itself if the filter accepts it,
nothing if the filter rejects it, and the failure if the filter fails at it. `Subscriber.Accounts` is the
balance that all operations on a subscriber keep: the answers given so far, followed by those that the
buffer still holds, are the answers to everything that was heard, followed by ends of reading.
-/

namespace GraphGateway.PubSub

/-- The answer that a payload gives to the read that comes to it, unless that read passes over it. -/
def outcome (verdict : Value → Except Fault Bool) (v : Value) : Option Reading :=
  match verdict v with
  | .ok true => some (.payload v)
  | .ok false => none
  | .error fault => some (.ofFault fault)

/-- The answer that an item of a buffer gives. -/
def Item.outcome (verdict : Value → Except Fault Bool) : Item → Option Reading
  | .payload v => PubSub.outcome verdict v
  | .closing => some .done

def Reading.payload? : Reading → Option Value
  | .payload v => some v
  | _ => none

def accepted (verdict : Value → Except Fault Bool) (v : Value) : Bool :=
  match verdict v with
  | .ok b => b
  | .error _ => false

theorem payloads_of_outcomes (verdict : Value → Except Fault Bool) (heard : List Value) :
    (heard.filterMap (outcome verdict)).filterMap Reading.payload? = heard.filter (accepted verdict) := by
  induction heard with
  | nil => rfl
  | cons v rest ih =>
      cases h : verdict v with
      | ok b => cases b <;> simp [outcome, accepted, h, Reading.payload?, ih]
      | error fault =>
          have noPayload : (Reading.ofFault fault).payload? = none := by
            simp only [Reading.ofFault]
            split <;> rfl
          simp [outcome, accepted, h, noPayload, ih]

namespace Subscriber

/-- The answers of a subscriber, in the order in which they were given. -/
def readings (s : Subscriber) : List Reading :=
  s.answers.map (·.2)

/-- A read takes the first answer that the buffer holds. Where it holds none, the buffer is used up: the
read waits then, or ends if nothing more can come. -/
theorem readFrom_cases (s : Subscriber) (st : Store) (items : List Item) :
    (∃ reading rest, s.readFrom st items = (reading, rest) ∧ reading ≠ .pending ∧
      items.filterMap (Item.outcome (s.accepts st)) =
        reading :: rest.filterMap (Item.outcome (s.accepts st))) ∨
    (s.readFrom st items = (if s.listening then .pending else .done, []) ∧
      items.filterMap (Item.outcome (s.accepts st)) = []) := by
  induction items with
  | nil => exact .inr ⟨rfl, rfl⟩
  | cons item rest ih =>
      cases item with
      | closing => exact .inl ⟨.done, rest, rfl, by simp, rfl⟩
      | payload v =>
          cases h : s.accepts st v with
          | ok b =>
              cases b with
              | true =>
                  exact .inl ⟨.payload v, rest, by simp [readFrom, h], by simp,
                    by simp [Item.outcome, outcome, h]⟩
              | false => simpa [readFrom, Item.outcome, outcome, h] using ih
          | error fault =>
              have answered : Reading.ofFault fault ≠ .pending := by
                simp only [Reading.ofFault]
                split <;> simp
              exact .inl ⟨.ofFault fault, rest, by simp [readFrom, h], answered,
                by simp [Item.outcome, outcome, h]⟩

/-- What starting a read does: it takes an answer from the buffer, or ends, or waits. -/
theorem start_cases (s : Subscriber) (st : Store) (reader : Nat) :
    (∃ reading rest,
      s.buffer.filterMap (Item.outcome (s.accepts st)) =
        reading :: rest.filterMap (Item.outcome (s.accepts st)) ∧
      (s.start st reader).2 = { s with buffer := rest, answers := s.answers ++ [(reader, reading)] }) ∨
    (s.buffer.filterMap (Item.outcome (s.accepts st)) = [] ∧ s.listening = false ∧
      (s.start st reader).2 = { s with buffer := [], answers := s.answers ++ [(reader, .done)] }) ∨
    (s.buffer.filterMap (Item.outcome (s.accepts st)) = [] ∧ s.listening = true ∧
      (s.start st reader).2 = { s with buffer := [], waiting := s.waiting ++ [reader] }) := by
  rcases readFrom_cases s st s.buffer with ⟨reading, rest, found, answered, outcomes⟩ | ⟨found, none⟩
  · refine .inl ⟨reading, rest, outcomes, ?_⟩
    cases reading <;> simp_all [start, read]
  · cases listening : s.listening with
    | false => exact .inr (.inl ⟨none, rfl, by simp [start, read, found, listening]⟩)
    | true => exact .inr (.inr ⟨none, rfl, by simp [start, read, found, listening]⟩)

/-- What reads leave alone of a subscriber: its topic, its filter, and whether it listens. -/
def guise (s : Subscriber) : Value × (Store → Value → Except Fault Bool) × Bool :=
  (s.topic, s.accepts, s.listening)

theorem guise_start (s : Subscriber) (st : Store) (reader : Nat) :
    (s.start st reader).2.guise = s.guise := by
  rcases start_cases s st reader with ⟨_, _, _, after⟩ | ⟨_, _, after⟩ | ⟨_, _, after⟩
  all_goals
    rw [after]
    rfl

theorem rouse_cases (s : Subscriber) (st : Store) :
    (∃ awake reader rest, s.awake = awake + 1 ∧ s.waiting = reader :: rest ∧
      (s.buffer = [] ∧ s.rouse st = { s with awake, waiting := rest ++ [reader] } ∨
        s.buffer ≠ [] ∧ s.rouse st = ({ s with awake, waiting := rest }.start st reader).2)) ∨
      ((s.awake = 0 ∨ s.waiting = []) ∧ s.rouse st = { s with awake := 0 }) := by
  cases woken : s.awake with
  | zero => exact .inr ⟨.inl rfl, by simp [rouse, woken]⟩
  | succ awake =>
      cases waiting : s.waiting with
      | nil => exact .inr ⟨.inr rfl, by simp [rouse, woken, waiting]⟩
      | cons reader rest =>
          refine .inl ⟨awake, reader, rest, rfl, rfl, ?_⟩
          by_cases empty : s.buffer = []
          · exact .inl ⟨empty, by simp [rouse, woken, waiting, empty]⟩
          · exact .inr ⟨empty, by simp [rouse, woken, waiting, empty]⟩

theorem guise_rouse (s : Subscriber) (st : Store) : (s.rouse st).guise = s.guise := by
  rcases rouse_cases s st with ⟨awake, reader, rest, _, _, ⟨_, after⟩ | ⟨_, after⟩⟩ | ⟨_, after⟩
  · rw [after]
    rfl
  · rw [after]
    exact guise_start { s with awake, waiting := rest } st reader
  · rw [after]
    rfl

theorem guise_wake (st : Store) (n : Nat) (s : Subscriber) : (wake st n s).guise = s.guise := by
  induction n generalizing s with
  | zero => rfl
  | succ n ih => exact (ih (s.rouse st)).trans (s.guise_rouse st)

theorem guise_settle (st : Store) (s : Subscriber) : (s.settle st).guise = s.guise :=
  guise_wake st s.awake s

/-- The account of a subscriber that has heard some payloads and was read a number of times. -/
structure Accounts (st : Store) (s : Subscriber) (heard : List Value) (reads : Nat) : Prop where
  /-- Nothing is lost, repeated or moved. While the subscriber listens, no read has ended. -/
  balance : ∃ ends, (s.listening → ends = 0) ∧
    s.readings ++ s.buffer.filterMap (Item.outcome (s.accepts st)) =
      heard.filterMap (outcome (s.accepts st)) ++ List.replicate ends .done
  single : s.waiting.length ≤ 1
  awake : s.awake ≤ s.waiting.length
  /-- A reader sleeps only where there is nothing to read. -/
  asleep : s.waiting ≠ [] → s.awake = 0 → s.buffer = [] ∧ s.listening
  woken : s.awake ≠ 0 → s.buffer ≠ []
  reads : s.readings.length + s.waiting.length = reads

theorem Accounts.fresh (st : Store) (topic : Value) (accepts : Store → Value → Except Fault Bool) :
    Accounts st { topic, accepts } [] 0 where
  balance := ⟨0, fun _ => rfl, rfl⟩
  single := by simp
  awake := by simp
  asleep := by simp
  woken := by simp
  reads := rfl

section Operations

variable {st : Store} {s : Subscriber} {heard : List Value} {reads : Nat}

private theorem put_awake (h : Accounts st s heard reads) (item : Item) :
    (s.put item).awake ≤ (s.put item).waiting.length ∧
      ((s.put item).waiting ≠ [] → (s.put item).awake ≠ 0) := by
  have bound := h.awake
  simp only [put, ne_eq, ← List.length_eq_zero_iff]
  omega

theorem Accounts.put (h : Accounts st s heard reads) (listening : s.listening) (v : Value) :
    Accounts st (s.put (.payload v)) (heard ++ [v]) reads where
  balance := by
    obtain ⟨ends, none, balance⟩ := h.balance
    have noEnd : ends = 0 := none listening
    subst noEnd
    refine ⟨0, fun _ => rfl, ?_⟩
    simp only [List.replicate_zero, List.append_nil] at balance
    calc s.readings ++ (s.buffer ++ [Item.payload v]).filterMap (Item.outcome (s.accepts st))
        = (s.readings ++ s.buffer.filterMap (Item.outcome (s.accepts st))) ++
            [v].filterMap (outcome (s.accepts st)) := by
          simp [Item.outcome, List.filterMap_cons]
      _ = (heard ++ [v]).filterMap (outcome (s.accepts st)) ++ List.replicate 0 .done := by
          rw [balance, List.filterMap_append, List.replicate_zero, List.append_nil]
  single := h.single
  awake := (put_awake h (.payload v)).1
  asleep waits sleeps := absurd sleeps ((put_awake h (.payload v)).2 waits)
  woken _ := List.concat_ne_nil _ _
  reads := h.reads

theorem Accounts.close (h : Accounts st s heard reads) (listening : s.listening) :
    Accounts st s.close heard reads where
  balance := by
    obtain ⟨ends, none, balance⟩ := h.balance
    have noEnd : ends = 0 := none listening
    subst noEnd
    refine ⟨1, by simp [Subscriber.close, Subscriber.put], ?_⟩
    simp only [List.replicate_zero, List.append_nil] at balance
    calc s.readings ++ (s.buffer ++ [Item.closing]).filterMap (Item.outcome (s.accepts st))
        = (s.readings ++ s.buffer.filterMap (Item.outcome (s.accepts st))) ++ [.done] := by
          simp [Item.outcome]
      _ = heard.filterMap (outcome (s.accepts st)) ++ List.replicate 1 .done := by
          rw [balance, List.replicate_one]
  single := h.single
  awake := (put_awake h .closing).1
  asleep waits sleeps := absurd sleeps ((put_awake h .closing).2 waits)
  woken _ := List.concat_ne_nil _ _
  reads := h.reads

/-- Starting a read keeps the balance, and the reader is answered unless there is nothing to read. -/
private theorem start_balance (reader : Nat)
    (balance : ∃ ends, (s.listening → ends = 0) ∧
      s.readings ++ s.buffer.filterMap (Item.outcome (s.accepts st)) =
        heard.filterMap (outcome (s.accepts st)) ++ List.replicate ends .done) :
    ∃ buffer answers waiting,
      (s.start st reader).2 = { s with buffer, answers, waiting } ∧
      (∃ ends, (s.listening → ends = 0) ∧
        answers.map (·.2) ++ buffer.filterMap (Item.outcome (s.accepts st)) =
          heard.filterMap (outcome (s.accepts st)) ++ List.replicate ends .done) ∧
      (waiting = s.waiting ∧ answers.length = s.answers.length + 1 ∨
        waiting = s.waiting ++ [reader] ∧ answers.length = s.answers.length ∧ buffer = [] ∧
          s.listening) := by
  obtain ⟨ends, none, balance⟩ := balance
  rcases start_cases s st reader with ⟨reading, rest, taken, after⟩ | ⟨empty, closed, after⟩ |
    ⟨empty, listening, after⟩
  · refine ⟨rest, _, s.waiting, after, ⟨ends, none, ?_⟩, .inl ⟨rfl, by simp⟩⟩
    rw [taken] at balance
    simpa [readings] using balance
  · refine ⟨[], _, s.waiting, after, ⟨ends + 1, by simp [closed], ?_⟩, .inl ⟨rfl, by simp⟩⟩
    rw [empty, List.append_nil] at balance
    have same : s.answers.map (·.2) = _ := balance
    simp [same, List.replicate_succ']
  · refine ⟨[], _, _, after, ⟨ends, none, ?_⟩, .inr ⟨rfl, rfl, rfl, listening⟩⟩
    simpa [empty, readings] using balance

theorem Accounts.start (h : Accounts st s heard reads) (free : s.waiting = []) (reader : Nat) :
    Accounts st (s.start st reader).2 heard (reads + 1) := by
  obtain ⟨buffer, answers, waiting, after, balance, answered⟩ := start_balance reader h.balance
  have counted := h.reads
  have bound := h.awake
  simp only [readings, List.length_map, free, List.length_nil] at counted bound
  rw [after]
  rcases answered with ⟨rfl, length⟩ | ⟨rfl, length, rfl, listening⟩
  · exact {
      balance
      single := h.single
      awake := h.awake
      asleep waits := absurd free waits
      woken woken := absurd (Nat.le_zero.mp bound) woken
      reads := by simp [readings, length, free]; omega }
  · exact {
      balance
      single := by simp [free]
      awake := by simp; omega
      asleep _ _ := ⟨rfl, listening⟩
      woken woken := absurd (Nat.le_zero.mp bound) woken
      reads := by simp [readings, length, free]; omega }

theorem Accounts.rouse (h : Accounts st s heard reads) : Accounts st (s.rouse st) heard reads := by
  rcases rouse_cases s st with ⟨awake, reader, rest, woken, waiting, again⟩ | ⟨still, after⟩
  · have filled : s.buffer ≠ [] := h.woken (by omega)
    have after := (again.resolve_left fun empty => filled empty.1).2
    have bound := h.awake
    have single := h.single
    have counted := h.reads
    rw [waiting, List.length_cons] at bound single
    obtain rfl : rest = [] := List.length_eq_zero_iff.mp (by omega)
    obtain rfl : awake = 0 := by omega
    obtain ⟨buffer, answers, waiting', started, balance, answered⟩ :=
      start_balance (s := { s with awake := 0, waiting := [] }) reader h.balance
    simp only [readings, List.length_map, waiting, List.length_singleton] at counted
    rw [after, started]
    rcases answered with ⟨rfl, length⟩ | ⟨rfl, length, rfl, listening⟩
    · exact {
        balance
        single := by simp
        awake := by simp
        asleep := by simp
        woken := by simp
        reads := by simp [readings, length]; omega }
    · exact {
        balance
        single := by simp
        awake := by simp
        asleep _ _ := ⟨rfl, listening⟩
        woken := by simp
        reads := by simp [readings, length]; omega }
  · rw [after]
    exact { h with
      awake := Nat.zero_le _
      asleep := fun waits _ => h.asleep waits (still.resolve_right waits)
      woken := fun woken => absurd rfl woken }

theorem Accounts.settle (h : Accounts st s heard reads) : Accounts st (s.settle st) heard reads := by
  suffices wakes : ∀ n (s : Subscriber), Accounts st s heard reads → Accounts st (wake st n s) heard reads from
    wakes s.awake s h
  intro n
  induction n with
  | zero => exact fun _ h => h
  | succ n ih => exact fun _ h => ih _ h.rouse

end Operations

private theorem prefix_of_length_le {α : Type} {xs ys : List α} {x : α} {m n : Nat}
    (h : xs <+: ys ++ List.replicate m x) (bound : xs.length ≤ n) : xs <+: ys ++ List.replicate n x := by
  have extend : ∀ k ≤ m + n, ys ++ List.replicate k x <+: ys ++ List.replicate (m + n) x := by
    intro k le
    exact (List.prefix_append_right_inj ys).2 (List.prefix_replicate_iff.2 ⟨by simpa, by simp⟩)
  exact List.prefix_of_prefix_length_le (h.trans (extend m (by omega))) (extend n (by omega))
    (by rw [List.length_append, List.length_replicate]; omega)

/-- What a subscriber gave so far begins the answers to what it heard, with ends of reading after them. -/
theorem Accounts.readings_prefix {st : Store} {s : Subscriber} {heard : List Value} {reads : Nat}
    (h : Accounts st s heard reads) :
    s.readings <+: heard.filterMap (outcome (s.accepts st)) ++
      List.replicate (if s.listening then 0 else reads) .done := by
  obtain ⟨ends, none, balance⟩ := h.balance
  have given : s.readings <+: heard.filterMap (outcome (s.accepts st)) ++ List.replicate ends .done :=
    ⟨_, balance⟩
  cases listening : s.listening with
  | true => simpa [none listening] using given
  | false =>
      have counted := h.reads
      exact prefix_of_length_le given (by simp only [Bool.false_eq_true, if_false]; omega)

theorem rouse_awake (s : Subscriber) (st : Store) : (s.rouse st).awake ≤ s.awake - 1 := by
  rcases rouse_cases s st with ⟨awake, reader, rest, woken, _, ⟨_, after⟩ | ⟨_, after⟩⟩ | ⟨_, after⟩
  · rw [after, woken]
    exact Nat.le_refl awake
  · rw [after, woken]
    rcases start_cases { s with awake, waiting := rest } st reader with
      ⟨_, _, _, started⟩ | ⟨_, _, started⟩ | ⟨_, _, started⟩
    all_goals
      rw [started]
      exact Nat.le_refl awake
  · rw [after]
    exact Nat.zero_le _

theorem settle_awake (s : Subscriber) (st : Store) : (s.settle st).awake = 0 := by
  suffices wakes : ∀ n (s : Subscriber), (wake st n s).awake ≤ s.awake - n by
    have none := wakes s.awake s
    rwa [Nat.sub_self, Nat.le_zero] at none
  intro n
  induction n with
  | zero => exact fun s => Nat.le_refl s.awake
  | succ n ih =>
      intro s
      have first := s.rouse_awake st
      have others := ih (s.rouse st)
      rw [wake]
      omega

/-- Once the reader that was woken has looked again, every read has its answer if there is one. -/
theorem Accounts.readings_settle {st : Store} {s : Subscriber} {heard : List Value} {reads : Nat}
    (h : Accounts st s heard reads) :
    (s.settle st).readings = (heard.filterMap (outcome (s.accepts st)) ++
      List.replicate (if s.listening then 0 else reads) Reading.done).take reads := by
  have guise := guise_settle st s
  have accepts : (s.settle st).accepts = s.accepts := congrArg (·.2.1) guise
  have listening : (s.settle st).listening = s.listening := congrArg (·.2.2) guise
  have account := h.settle
  have counted := account.reads
  by_cases waits : (s.settle st).waiting = []
  · have given := List.prefix_iff_eq_take.1 account.readings_prefix
    rw [waits, List.length_nil, Nat.add_zero] at counted
    rwa [accepts, listening, counted] at given
  · obtain ⟨empty, listens⟩ := account.asleep waits (s.settle_awake st)
    obtain ⟨ends, none, balance⟩ := account.balance
    simp only [empty, none listens, accepts, List.filterMap_nil, List.replicate_zero,
      List.append_nil] at balance
    rw [← listening, if_pos listens, List.replicate_zero, List.append_nil, ← balance,
      List.take_of_length_le (by omega)]

end Subscriber

end GraphGateway.PubSub
