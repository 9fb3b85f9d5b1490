import GraphGateway.Proofs.PubSub.Lasting

/-!
# Who is left waiting when an iterator is closed

Closing an iterator puts one mark behind the payloads that it kept, and whatever is put in wakes one reader. Of several
readers that wait, no more are answered than there are payloads and the mark: nobody wakes the others any more. Reads
that begin afterwards do not wait.
-/

namespace GraphGateway.PubSub

/-- The answer that an item gives to a read without a filter. -/
def Item.reading : Item → Reading
  | .payload v => .payload v
  | .closing => .done

namespace Subscriber

variable {s t : Subscriber}

/-- Whether a subscriber takes every payload and has woken as many readers as it has items for, or all of them. -/
structure Orderly (s : Subscriber) : Prop where
  plain : s.accepts = fun _ _ => .ok true
  awake : s.awake ≤ s.waiting.length
  enough : s.awake < s.waiting.length → s.buffer.length ≤ s.awake
  /-- The mark is put in when it is closed. -/
  unmarked : s.listening = true → ∃ payloads : List Value, s.buffer = payloads.map .payload

theorem Orderly.fresh (topic : Value) : Orderly { topic } where
  plain := rfl
  awake := Nat.le_refl 0
  enough := nofun
  unmarked _ := ⟨[], rfl⟩

theorem start_plain (plain : s.accepts = fun _ _ => .ok true) (st : Store) (reader : Nat) :
    (∃ item rest, s.buffer = item :: rest ∧ s.start st reader =
        (item.reading, { s with buffer := rest, answers := s.answers ++ [(reader, item.reading)] })) ∨
      s.buffer = [] ∧
        (s.listening = false ∧ s.start st reader = (.done, { s with answers := s.answers ++ [(reader, .done)] }) ∨
          s.listening = true ∧ s.start st reader = (.pending, { s with waiting := s.waiting ++ [reader] })) := by
  obtain ⟨topic, accepts, listening, buffer, waiting, awake, answers⟩ := s
  obtain rfl : accepts = fun _ _ => .ok true := plain
  cases buffer with
  | nil =>
      cases listening with
      | false => exact .inr ⟨rfl, .inl ⟨rfl, rfl⟩⟩
      | true => exact .inr ⟨rfl, .inr ⟨rfl, rfl⟩⟩
  | cons item rest => cases item <;> exact .inl ⟨_, rest, rfl, rfl⟩

theorem Orderly.rouse_cases (orderly : s.Orderly) (st : Store) :
    (∃ awake reader others, s.awake = awake + 1 ∧ s.waiting = reader :: others ∧
      (s.buffer = [] ∧ s.rouse st = { s with awake, waiting := others ++ [reader] } ∨
        ∃ item rest, s.buffer = item :: rest ∧ s.rouse st =
          { s with awake, waiting := others, buffer := rest, answers := s.answers ++ [(reader, item.reading)] })) ∨
      s.awake = 0 ∧ s.rouse st = s := by
  rcases Subscriber.rouse_cases s st with
    ⟨awake, reader, others, woken, waiting, again | ⟨filled, after⟩⟩ | ⟨none, after⟩
  · exact .inl ⟨awake, reader, others, woken, waiting, .inl again⟩
  · refine .inl ⟨awake, reader, others, woken, waiting, .inr ?_⟩
    rcases start_plain (s := { s with awake, waiting := others }) orderly.plain st reader with
      ⟨item, rest, kept, taken⟩ | ⟨empty, _⟩
    · exact ⟨item, rest, kept, by rw [after, taken]⟩
    · exact absurd empty filled
  · have still : s.awake = 0 := by
      refine none.elim id fun nobody => ?_
      have awake := orderly.awake
      rwa [nobody, List.length_nil, Nat.le_zero] at awake
    refine .inr ⟨still, ?_⟩
    rw [after, ← still]

theorem Orderly.put_enough (orderly : s.Orderly) (item : Item)
    (less : (s.put item).awake < (s.put item).waiting.length) : (s.put item).buffer.length ≤ (s.put item).awake := by
  have enough := orderly.enough
  simp only [Subscriber.put, List.length_append, List.length_singleton] at less ⊢
  have before := enough (by omega)
  omega

theorem Orderly.put (orderly : s.Orderly) (v : Value) : (s.put (.payload v)).Orderly where
  plain := orderly.plain
  awake := Nat.min_le_right _ _
  enough := orderly.put_enough (.payload v)
  unmarked listening := by
    obtain ⟨payloads, kept⟩ := orderly.unmarked listening
    exact ⟨payloads ++ [v], by simp [Subscriber.put, kept]⟩

theorem Orderly.close (orderly : s.Orderly) : s.close.Orderly where
  plain := orderly.plain
  awake := Nat.min_le_right _ _
  enough := orderly.put_enough .closing
  unmarked := nofun

theorem Orderly.unmarked_rest (orderly : s.Orderly) {item : Item} {rest : List Item} (kept : s.buffer = item :: rest)
    (listening : s.listening = true) : ∃ payloads : List Value, rest = payloads.map .payload := by
  obtain ⟨payloads, same⟩ := orderly.unmarked listening
  rw [kept] at same
  cases payloads with
  | nil => cases same
  | cons _ payloads => exact ⟨payloads, (List.cons.inj same).2⟩

theorem Orderly.start (orderly : s.Orderly) (st : Store) (reader : Nat) : (s.start st reader).2.Orderly := by
  have enough := orderly.enough
  have awake := orderly.awake
  rcases start_plain orderly.plain st reader with ⟨item, rest, kept, after⟩ | ⟨empty, ⟨_, after⟩ | ⟨_, after⟩⟩
  · rw [kept, List.length_cons] at enough
    rw [after]
    exact { orderly with
      enough := fun less => Nat.le_of_succ_le (enough less)
      unmarked := orderly.unmarked_rest kept }
  · rw [after]
    exact { orderly with }
  · rw [after]
    exact { orderly with
      awake := by simp only [List.length_append]; omega
      enough := fun _ => by simp [empty] }

theorem Orderly.rouse (orderly : s.Orderly) (st : Store) : (s.rouse st).Orderly := by
  have enough := orderly.enough
  have bound := orderly.awake
  rcases orderly.rouse_cases st with
    ⟨awake, reader, others, woken, waiting, ⟨empty, after⟩ | ⟨item, rest, kept, after⟩⟩ | ⟨_, after⟩
  · rw [after]
    rw [woken, waiting] at bound
    exact { orderly with
      awake := by simp at bound ⊢; omega
      enough := fun _ => by simp [empty] }
  · rw [after]
    rw [woken, waiting] at bound enough
    rw [kept] at enough
    simp only [List.length_cons] at bound enough
    exact { orderly with
      awake := by simp only; omega
      enough := fun less => by simp only at less ⊢; have before := enough (by omega); omega
      unmarked := orderly.unmarked_rest kept }
  · rw [after]
    exact orderly

/-- What has become of a subscriber since it was closed. Of its items, some were taken by readers whose reads began
later. -/
structure Aftermath (s t : Subscriber) (taken : Nat) (later : List Nat) : Prop where
  orderly : t.Orderly
  closed : t.listening = false
  among : t.waiting ⊆ s.waiting
  /-- The payloads and the mark are kept still, or were taken by readers that waited or by those that came later. -/
  shared : t.buffer.length + taken + s.waiting.length = s.buffer.length + 1 + t.waiting.length
  /-- Every reader waits still or was answered, and the answers are the payloads in order, with ends of reading behind
  them. -/
  answered : ∃ (given : List (Nat × Reading)) (ends : Nat), t.answers = s.answers ++ given ∧
    (t.waiting ++ given.map (·.1)).Perm (s.waiting ++ later) ∧
    given.map (·.2) ++ t.buffer.map Item.reading = s.buffer.map Item.reading ++ List.replicate (ends + 1) .done

theorem Orderly.aftermath (orderly : s.Orderly) : s.Aftermath s.close 0 [] where
  orderly := orderly.close
  closed := rfl
  among := List.Subset.refl s.waiting
  shared := by simp [Subscriber.close, Subscriber.put]
  answered := ⟨[], 0, (List.append_nil _).symm, .refl _, by simp [Subscriber.close, Subscriber.put, Item.reading]⟩

namespace Aftermath

variable {taken : Nat} {later : List Nat} (aftermath : s.Aftermath t taken later)
include aftermath

theorem start (st : Store) (reader : Nat) :
    s.Aftermath (t.start st reader).2 (taken + if t.buffer.isEmpty then 0 else 1) (later ++ [reader]) := by
  have orderly := aftermath.orderly.start st reader
  have shared := aftermath.shared
  obtain ⟨given, ends, answers, same, balance⟩ := aftermath.answered
  have same' : (t.waiting ++ (given.map (·.1) ++ [reader])).Perm (s.waiting ++ (later ++ [reader])) := by
    simpa using same.append_right [reader]
  rcases start_plain aftermath.orderly.plain st reader with
    ⟨item, rest, kept, after⟩ | ⟨empty, ⟨_, after⟩ | ⟨listening, _⟩⟩
  · rw [after] at orderly ⊢
    rw [kept] at shared balance ⊢
    refine { aftermath with
      orderly
      shared := ?_
      answered := ⟨given ++ [(reader, item.reading)], ends, ?_, ?_, ?_⟩ }
    · simp only [List.length_cons, List.isEmpty_cons, Bool.false_eq_true, if_false] at shared ⊢
      omega
    · simp [answers]
    · simpa using same'
    · simpa using balance
  · rw [after] at orderly ⊢
    rw [empty, List.map_nil, List.append_nil] at balance
    refine { aftermath with
      orderly
      shared := ?_
      answered := ⟨given ++ [(reader, .done)], ends + 1, ?_, ?_, ?_⟩ }
    · simpa [empty] using shared
    · simp [answers]
    · simpa using same'
    · rw [List.replicate_succ', ← List.append_assoc, ← balance]
      simp [empty]
  · rw [aftermath.closed] at listening
    cases listening

theorem rouse (st : Store) : s.Aftermath (t.rouse st) taken later := by
  have orderly := aftermath.orderly.rouse st
  have shared := aftermath.shared
  have among := aftermath.among
  obtain ⟨given, ends, answers, same, balance⟩ := aftermath.answered
  rcases aftermath.orderly.rouse_cases st with
    ⟨awake, reader, others, _, waiting, ⟨_, after⟩ | ⟨item, rest, kept, after⟩⟩ | ⟨_, after⟩
  · rw [after] at orderly ⊢
    have moved : (others ++ [reader]).Perm t.waiting := waiting ▸ List.perm_append_singleton reader others
    exact { aftermath with
      orderly
      among := fun other member => among (moved.mem_iff.mp member)
      shared := by simpa [moved.length_eq] using shared
      answered := ⟨given, ends, answers, (moved.append_right _).trans same, balance⟩ }
  · rw [after] at orderly ⊢
    rw [kept] at shared balance
    rw [waiting] at shared among same
    have moved : (others ++ (given.map (·.1) ++ [reader])).Perm (reader :: others ++ given.map (·.1)) := by
      rw [← List.append_assoc]
      exact List.perm_append_singleton reader (others ++ given.map (·.1))
    refine { aftermath with
      orderly
      among := fun other member => among (List.mem_cons_of_mem reader member)
      shared := ?_
      answered := ⟨given ++ [(reader, item.reading)], ends, ?_, ?_, ?_⟩ }
    · simp only [List.length_cons] at shared ⊢
      omega
    · simp [answers]
    · simpa using moved.trans same
    · simpa using balance
  · rwa [after]

theorem left (settled : t.awake = 0) :
    t.waiting.length = s.waiting.length + taken - (s.buffer.length + 1) := by
  have shared := aftermath.shared
  have enough := aftermath.orderly.enough
  rw [settled] at enough
  by_cases nobody : t.waiting.length = 0
  · omega
  · have empty := enough (Nat.pos_of_ne_zero nobody)
    omega

end Aftermath

theorem lasting_orderly : Lasting Orderly where
  put _ v orderly _ := orderly.put v
  rouse _ orderly := orderly.rouse .empty

theorem lasting_aftermath {s : Subscriber} {taken : Nat} {later : List Nat} :
    Lasting fun t => s.Aftermath t taken later :=
  .of_closed (fun _ aftermath => aftermath.closed) fun _ aftermath => aftermath.rouse .empty

/-- Whether a subscriber is closed and has woken none of some readers that wait. -/
structure Over (waiting : List Nat) (s : Subscriber) : Prop where
  orderly : s.Orderly
  closed : s.listening = false
  asleep : s.awake = 0
  left : s.waiting = waiting

theorem lasting_over {waiting : List Nat} : Lasting (Over waiting) := by
  refine .of_closed (fun s ended => ended.closed) fun s ended => ?_
  rcases ended.orderly.rouse_cases .empty with ⟨awake, _, _, woken, _⟩ | ⟨_, still⟩
  · rw [ended.asleep] at woken
    cases woken
  · rwa [still]

theorem Over.start {waiting : List Nat} {s : Subscriber} (ended : Over waiting s) (reader : Nat) :
    (s.start .empty reader).1 = (s.buffer.head?.map Item.reading).getD .done ∧
      Over waiting (s.start .empty reader).2 := by
  have orderly := ended.orderly.start .empty reader
  rcases start_plain ended.orderly.plain .empty reader with
    ⟨item, rest, kept, after⟩ | ⟨empty, ⟨_, after⟩ | ⟨listening, _⟩⟩
  · rw [after] at orderly ⊢
    exact ⟨by simp [kept], orderly, ended.closed, ended.asleep, ended.left⟩
  · rw [after] at orderly ⊢
    exact ⟨by simp [empty], orderly, ended.closed, ended.asleep, ended.left⟩
  · rw [ended.closed] at listening
    cases listening

end Subscriber

namespace Broker

/-- Whether a read of an iterator begins that finds something. -/
def takes (b : Broker) (id : Nat) (x : Move) : Bool :=
  (x.reader? id).isSome && b.subscribers[id]?.any fun s => !s.buffer.isEmpty

/-- How many reads of an iterator begin that find something, while some things happen to a broker. -/
def takings (b : Broker) (id : Nat) : List Move → Nat
  | [] => 0
  | x :: rest => (b.takes id x).toNat + (b.move x).takings id rest

end Broker

namespace Enrolled

variable {limit : Option Int} {handlers : String → Handler} {b : Broker} {present : List (String × Listener)} {id : Nat}
  (enrolled : Enrolled limit handlers b present)
include enrolled

/-- What happens to a broker after an iterator was closed. -/
theorem aftermath_moves {s : Subscriber} {taken : Nat} {later : List Nat} (there : id < b.subscribers.length)
    (holds : b.Holds id fun t => s.Aftermath t taken later) (xs : List Move) :
    ((b.moves xs).Holds id fun t =>
        s.Aftermath t (taken + b.takings id xs) (later ++ xs.filterMap (Move.reader? id))) ∧
      id < (b.moves xs).subscribers.length ∧ ∃ present, Enrolled limit handlers (b.moves xs) present := by
  induction xs generalizing b present taken later with
  | nil =>
      refine ⟨?_, there, present, enrolled⟩
      simp only [Broker.takings, List.filterMap_nil, Nat.add_zero, List.append_nil]
      exact holds
  | cons x rest ih =>
      obtain ⟨_, moved⟩ := enrolled.move x
      have held : (b.move x).Holds id fun t =>
          s.Aftermath t (taken + (b.takes id x).toNat) (later ++ (x.reader? id).toList) := by
        refine enrolled.holds_step Subscriber.lasting_aftermath ?_ ?_ x ?_ ?_ holds
        · exact fun t aftermath listening => absurd (aftermath.closed.symm.trans listening) Bool.false_ne_true
        · exact fun beyond => absurd there (Nat.not_lt.mpr beyond)
        · intro reader read t found aftermath
          have started := aftermath.start .empty reader
          cases empty : t.buffer.isEmpty <;> simpa [Broker.takes, read, found, empty] using started
        · intro none t aftermath
          simpa [Broker.takes, none] using aftermath
      have readers : (x :: rest).filterMap (Move.reader? id) =
          (x.reader? id).toList ++ rest.filterMap (Move.reader? id) := by
        cases read : x.reader? id <;> simp [read]
      rw [Broker.takings, ← Nat.add_assoc, readers, ← List.append_assoc]
      exact ih moved (Nat.lt_of_lt_of_le there (enrolled.length_move x)) held

theorem aftermath_settle {s : Subscriber} {taken : Nat} {later : List Nat}
    (holds : b.Holds id fun t => s.Aftermath t taken later) :
    (b.settle .empty).Holds id fun t => s.Aftermath t taken later ∧ t.awake = 0 := by
  refine Broker.holds_settle ?_ (enrolled.attentive id) (fun t aftermath => ⟨?_, t.settle_awake .empty⟩) (.refl b) holds
  · exact Subscriber.lasting_aftermath.asleep fun t aftermath => aftermath.closed
  · exact Subscriber.lasting_aftermath.settle aftermath

theorem over_moves {waiting : List Nat} {t : Subscriber} (found : b.subscribers[id]? = some t)
    (ended : t.Over waiting) (xs : List Move) : ∃ u, (b.moves xs).subscribers[id]? = some u ∧ u.Over waiting := by
  have there : id < b.subscribers.length := (List.getElem?_eq_some_iff.mp found).1
  have holds : b.Holds id (Subscriber.Over waiting) := by
    intro u same
    obtain rfl := Option.some.inj (found.symm.trans same)
    exact ended
  obtain ⟨held, longer, _⟩ := enrolled.holds_moves Subscriber.lasting_over
    (fun u reader ended => (ended.start reader).2)
    (fun u ended listening => absurd (ended.closed.symm.trans listening) Bool.false_ne_true)
    (fun beyond => absurd there (Nat.not_lt.mpr beyond)) xs holds
  have found := List.getElem?_eq_getElem (Nat.lt_of_lt_of_le there longer)
  exact ⟨_, found, held _ found⟩

end Enrolled

theorem orderly_moves (limit : Option Int) (handlers : String → Handler) (xs : List Move) (id : Nat) :
    ((Broker.fresh limit handlers).moves xs).Holds id Subscriber.Orderly ∧
      ∃ present, Enrolled limit handlers ((Broker.fresh limit handlers).moves xs) present := by
  have nobody : (Broker.fresh limit handlers).Holds id Subscriber.Orderly := nofun
  obtain ⟨orderly, _, enrolled⟩ := (Enrolled.fresh limit handlers).holds_moves Subscriber.lasting_orderly
    (fun s reader orderly => orderly.start .empty reader) (fun s orderly _ => orderly.close)
    (fun _ topic => .fresh (.text topic)) xs nobody
  exact ⟨orderly, enrolled⟩

/-- When an iterator is closed and whoever was woken has looked again, those readers are left waiting for whom there was
neither a payload nor the mark: as many as waited, and as came later and found something, less the payloads and the
mark. All others are answered, with the payloads in order and then with ends of reading. Those who are left wait for
ever, while reads that begin later take what is still kept and then end. -/
theorem close_strands (limit : Option Int) (handlers : String → Handler) (before between : List Move) {id : Nat}
    {s : Subscriber} (found : ((Broker.fresh limit handlers).moves before).subscribers[id]? = some s)
    (listening : s.listening = true) :
    let closed := ((Broker.fresh limit handlers).moves before).close id
    let settled := (closed.moves between).settle .empty
    ∃ t, settled.subscribers[id]? = some t ∧
      t.waiting.length = s.waiting.length + closed.takings id between - (s.buffer.length + 1) ∧
      t.waiting ⊆ s.waiting ∧
      (∃ (payloads : List Value) (given : List (Nat × Reading)) (ends : Nat), s.buffer = payloads.map .payload ∧
        t.answers = s.answers ++ given ∧
        (t.waiting ++ given.map (·.1)).Perm (s.waiting ++ between.filterMap (Move.reader? id)) ∧
        given.map (·.2) ++ t.buffer.map Item.reading = payloads.map .payload ++ List.replicate (ends + 1) .done) ∧
      ∀ later, ∃ u, (settled.moves later).subscribers[id]? = some u ∧ u.waiting = t.waiting ∧
        ∀ reader, (u.start .empty reader).1 = (u.buffer.head?.map Item.reading).getD .done := by
  intro closed settled
  obtain ⟨orderly, _, enrolled⟩ := orderly_moves limit handlers before id
  have orderly : s.Orderly := orderly s found
  have marked : closed.subscribers[id]? = some s.close := enrolled.close_found found listening
  have closing : closed.Holds id fun t => s.Aftermath t 0 [] := by
    intro t same
    obtain rfl := Option.some.inj (marked.symm.trans same)
    exact orderly.aftermath
  obtain ⟨passed, there, _, enrolled⟩ := (enrolled.operate (.close id)).aftermath_moves
    (List.getElem?_eq_some_iff.mp marked).1 closing between
  have left := List.getElem?_eq_getElem (Nat.lt_of_lt_of_le there (enrolled.length_move (.operation .turn)))
  obtain ⟨aftermath, none⟩ := enrolled.aftermath_settle passed _ left
  obtain ⟨payloads, kept⟩ := orderly.unmarked listening
  obtain ⟨given, ends, answers, same, balance⟩ := aftermath.answered
  have readings : s.buffer.map Item.reading = payloads.map Reading.payload := by
    rw [kept, List.map_map]
    rfl
  rw [readings] at balance
  refine ⟨_, left, ?_, aftermath.among, ⟨payloads, given, ends, kept, answers, same, balance⟩, fun later => ?_⟩
  · have length := aftermath.left none
    rwa [Nat.zero_add] at length
  · obtain ⟨u, found, ended⟩ := (enrolled.operate .turn).over_moves left
      ⟨aftermath.orderly, aftermath.closed, none, rfl⟩ later
    exact ⟨u, found, ended.left, fun reader => (ended.start reader).1⟩

/-- Of two readers of an iterator that is closed, one is left waiting. -/
theorem second_reader_stranded :
    let before : List Move := [.operation (.iterate "t"), .read 0 0, .read 0 1]
    let closed := ((Broker.fresh none fun _ => {}).moves before).close 0
    ∃ s, ((Broker.fresh none fun _ => {}).moves before).subscribers[0]? = some s ∧ s.listening = true ∧
      s.waiting = [0, 1] ∧
      ∃ t, (closed.settle .empty).subscribers[0]? = some t ∧ t.waiting.length = 1 ∧
        ∀ later, ∃ u, ((closed.settle .empty).moves later).subscribers[0]? = some u ∧ u.waiting = t.waiting := by
  intro before closed
  have found : ((Broker.fresh none fun _ => {}).moves before).subscribers[0]? =
      some { topic := .text "t", waiting := [0, 1] } := rfl
  obtain ⟨t, left, length, _, _, ever⟩ := close_strands none (fun _ => {}) before [] found rfl
  refine ⟨_, found, rfl, rfl, t, left, length, fun later => ?_⟩
  obtain ⟨u, there, waiting, _⟩ := ever later
  exact ⟨u, there, waiting⟩

end GraphGateway.PubSub
