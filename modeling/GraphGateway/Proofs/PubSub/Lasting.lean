import GraphGateway.Proofs.PubSub.Enrollment

/-!
# What lasts in an iterator

Whatever happens to a broker, all that comes to one iterator are payloads of its topic while it listens, readers of it
that look again, reads of it that begin, and its closing. A property of iterators that these keep holds for good.
-/

namespace GraphGateway.PubSub

/-- What happens to a broker: an operation, the beginning of a read of an iterator, or a reader of an iterator that was
woken and looks again. -/
inductive Move where
  | operation (x : Operation)
  | read (id reader : Nat)
  | rouse (id : Nat)

/-- The reader whose read of an iterator begins, if one does. -/
def Move.reader? (id : Nat) : Move → Option Nat
  | .read other reader => if other = id then some reader else none
  | _ => none

/-- Whether payloads that are put into a subscriber while it listens, and readers of it that look again, keep a
property of it. -/
structure Lasting (P : Subscriber → Prop) : Prop where
  put : ∀ s v, P s → s.listening = true → P (s.put (.payload v))
  rouse : ∀ s, P s → P (s.rouse .empty)

theorem Lasting.settle {P : Subscriber → Prop} (lasting : Lasting P) {s : Subscriber} (has : P s) :
    P (s.settle .empty) := by
  suffices wakes : ∀ n s, P s → P (Subscriber.wake .empty n s) from wakes s.awake s has
  intro n
  induction n with
  | zero => exact fun _ has => has
  | succ n ih => exact fun s has => ih _ (lasting.rouse s has)

theorem Lasting.of_closed {P : Subscriber → Prop} (closed : ∀ s, P s → s.listening = false)
    (rouse : ∀ s, P s → P (s.rouse .empty)) : Lasting P where
  put s _ has listening := absurd ((closed s has).symm.trans listening) Bool.false_ne_true
  rouse := rouse

theorem Lasting.asleep {P : Subscriber → Prop} (lasting : Lasting P) (closed : ∀ s, P s → s.listening = false) :
    Lasting fun s => P s ∧ s.awake = 0 := by
  refine .of_closed (fun s has => closed s has.1) fun s has => ⟨lasting.rouse s has.1, ?_⟩
  have fewer := s.rouse_awake .empty
  omega

namespace Broker

def move (b : Broker) : Move → Broker
  | .operation x => b.operate x
  | .read id reader => b.modify id fun s => (s.start .empty reader).2
  | .rouse id => b.modify id fun s => s.rouse .empty

def moves (b : Broker) (xs : List Move) : Broker :=
  xs.foldl move b

/-- Whether a subscriber has a property, if there is one of its number. -/
def Holds (b : Broker) (id : Nat) (P : Subscriber → Prop) : Prop :=
  ∀ s, b.subscribers[id]? = some s → P s

/-- Whether a subscriber that is among some listeners listens. -/
def Attends (b : Broker) (id : Nat) (listening : List Listener) : Prop :=
  .subscriber id ∈ listening → b.Holds id fun s => s.listening = true

variable {base b after : Broker} {id : Nat} {P Q : Subscriber → Prop}

theorem Steady.face_eq (steady : Steady b after) (id : Nat) :
    after.subscribers[id]?.map face = b.subscribers[id]?.map face := by
  rw [← List.getElem?_map, steady.faces, List.getElem?_map]

theorem Steady.attends (steady : Steady b after) {listening : List Listener} (attends : b.Attends id listening) :
    after.Attends id listening := by
  intro member s found
  have shown := steady.face_eq id
  rw [found] at shown
  obtain ⟨before, there, same⟩ := Option.map_eq_some_iff.mp shown.symm
  exact (congrArg Prod.snd same).symm.trans (attends member before there)

theorem holds_modify {other : Nat} {f : Subscriber → Subscriber}
    (does : ∀ s, b.subscribers[id]? = some s → Q (if other = id then f s else s)) : (b.modify other f).Holds id Q := by
  intro s found
  simp only [modify, List.getElem?_modify] at found
  obtain ⟨before, there, rfl⟩ := Option.map_eq_some_iff.mp found
  exact does before there

section Passing

variable (lasting : Lasting P)
include lasting

theorem holds_receive {l : Listener} (attends : b.Attends id [l]) (m : Message) (holds : b.Holds id P) :
    (b.receive l m).2.Holds id P := by
  cases m with
  | newListener => exact holds
  | payload v =>
      cases l with
      | reporter => exact holds
      | handler name =>
          simp only [receive]
          split <;> exact holds
      | subscriber other =>
          refine holds_modify fun s found => ?_
          split
          · rename_i same
            exact lasting.put s v (holds s found) (attends (same ▸ List.mem_singleton_self _) s found)
          · exact holds s found

/-- Messages keep a lasting property, whatever failures of listeners they lead to. -/
theorem holds_deliver {report : Fault → Broker → Option Fault × Broker}
    (reports : ∀ fault after, Steady base after → after.Holds id P →
      Steady base (report fault after).2 ∧ (report fault after).2.Holds id P)
    (m : Message) {listening : List Listener} (attends : base.Attends id listening) (steady : Steady base b)
    (holds : b.Holds id P) : (emitter.deliver report m listening b).2.Holds id P := by
  induction listening generalizing b with
  | nil => exact holds
  | cons l rest ih =>
      have here : base.Attends id [l] := fun member => attends (List.mem_cons.mpr (.inl (List.mem_singleton.mp member)))
      have onward : base.Attends id rest := fun member => attends (List.mem_cons_of_mem l member)
      have passed := steady.trans (steady_receive b l m)
      have held := holds_receive lasting (steady.attends here) m holds
      rw [deliver_cons]
      cases received : b.receive l m with
      | mk failed passing =>
          rw [received] at passed held
          cases failed with
          | none => exact ih onward passed held
          | some fault =>
              obtain ⟨told, kept⟩ := reports fault passing passed held
              simp only
              split
              · rename_i reported
                rw [reported] at told kept
                exact ih onward told kept
              · rename_i reported
                rwa [reported] at kept

variable (attentive : ∀ topic, base.Attends id (base.listeners (.text topic)))
include attentive

theorem holds_emitWithin (n : Nat) (topic : String) (m : Message) (steady : Steady base b) (holds : b.Holds id P) :
    (emitter.emitWithin n (.text topic) m b).2.Holds id P := by
  induction n generalizing topic m b with
  | zero => exact holds
  | succ n ih =>
      have attends : base.Attends id (b.listeners (.text topic)) := steady.listeners (.text topic) ▸ attentive topic
      refine holds_deliver lasting (fun fault after steady holds => ⟨?_, ?_⟩) m attends steady holds
      · exact steady.trans (steady_emitWithin n errorTopic (.payload fault.toValue) after)
      · exact ih "error" (.payload fault.toValue) steady holds

theorem holds_perform (task : Task) (steady : Steady base b) (holds : b.Holds id P) : (b.perform task).Holds id P := by
  cases task with
  | report fault => exact holds_emitWithin lasting attentive maxReports "error" (.payload fault.toValue) steady holds
  | handle name v =>
      simp only [perform]
      split <;> exact holds

theorem holds_performs (tasks : List Task) (steady : Steady base b) (holds : b.Holds id P) :
    (tasks.foldl perform b).Holds id P := by
  induction tasks generalizing b with
  | nil => exact holds
  | cons task rest ih =>
      exact ih (steady.trans (steady_perform b task)) (holds_perform lasting attentive task steady holds)

/-- In a round of settling, readers look again, and then what was left to do is done. -/
theorem holds_round {n : Nat} (onward : ∀ after, Steady base after → after.Holds id P →
      (settleWithin .empty n after).Holds id P)
    (settles : ∀ s, Q s → P (s.settle .empty)) (steady : Steady base b) (holds : b.Holds id Q) :
    (settleWithin .empty (n + 1) b).Holds id P := by
  have looked : Broker.Holds { b with
      subscribers := b.subscribers.map fun s => Subscriber.settle s .empty
      tasks := [] } id P := by
    intro s found
    rw [List.getElem?_map] at found
    obtain ⟨before, there, rfl⟩ := Option.map_eq_some_iff.mp found
    exact settles before (holds before there)
  have steady := steady.trans (b.steady_look .empty)
  simp only [settleWithin]
  split
  · exact looked
  · have performed := holds_performs lasting attentive b.tasks steady looked
    exact onward _ (steady.trans (steady_performs b.tasks _)) performed

theorem holds_settle (settles : ∀ s, Q s → P (s.settle .empty)) (steady : Steady base b) (holds : b.Holds id Q) :
    (b.settle .empty).Holds id P := by
  have rounds : ∀ n after, Steady base after → after.Holds id P → (settleWithin .empty n after).Holds id P := by
    intro n
    induction n with
    | zero => exact fun _ _ holds => holds
    | succ n ih => exact fun _ steady holds => holds_round lasting attentive ih (fun s => lasting.settle) steady holds
  exact holds_round lasting attentive (rounds 299) settles steady holds

end Passing

section Operating

variable (lasting : Lasting P) (attentive : ∀ topic, b.Attends id (b.listeners (.text topic)))
include lasting attentive

theorem holds_publish (topic : String) (v : Value) (holds : b.Holds id P) :
    (b.publish (.text topic) v).2.Holds id P := by
  have emitted : (b.emit (.text topic) (.payload v)).2.Holds id P :=
    holds_emitWithin lasting attentive maxReports topic (.payload v) (.refl b) holds
  have hashable : Store.empty.checkKey (.text topic) = .ok () := rfl
  simp only [publish, hashable]
  split
  · rename_i given
    rwa [given] at emitted
  · rename_i given
    rwa [given] at emitted

theorem holds_enlist (topic : String) (l : Listener) (holds : b.Holds id P) :
    (b.enlist (.text topic) l).2.Holds id P := by
  have announced : (b.emit newListenerTopic .newListener).2.Holds id P :=
    holds_emitWithin lasting attentive maxReports "new_listener" .newListener (.refl b) holds
  have hashable : Store.empty.checkKey (.text topic) = .ok () := rfl
  simp only [enlist, hashable]
  split
  · rename_i given
    rwa [given] at announced
  · rename_i given
    rwa [given] at announced

theorem holds_subscribe (topic : String) (l : Listener) (holds : b.Holds id P) :
    (b.subscribe (.text topic) l).2.Holds id P := by
  have enlisted := holds_enlist lasting attentive topic l holds
  simp only [subscribe]
  split
  · exact holds
  · exact holds
  · split
    · rename_i given
      rwa [given] at enlisted
    · rename_i given
      rwa [given] at enlisted

end Operating

theorem join_subscribers (b : Broker) (topic : String) :
    ∃ added, (b.join { topic := .text topic }).2.subscribers =
        (b.subscribe (.text topic) (.subscriber b.subscribers.length)).2.subscribers ++ added ∧
      ∀ s ∈ added, s = { topic := .text topic } := by
  rw [join_eq]
  rcases b.subscribe (.text topic) (.subscriber b.subscribers.length) with ⟨failed, after⟩
  cases failed with
  | some fault => exact ⟨[], (List.append_nil _).symm, nofun⟩
  | none => exact ⟨[{ topic := .text topic }], rfl, fun s member => List.mem_singleton.mp member⟩

end Broker

namespace Enrolled

variable {limit : Option Int} {handlers : String → Handler} {b : Broker} {present : List (String × Listener)} {id : Nat}
  {P Q : Subscriber → Prop} (enrolled : Enrolled limit handlers b present)
include enrolled

theorem attentive (id : Nat) (topic : String) : b.Attends id (b.listeners (.text topic)) := by
  intro member s found
  have face := (enrolled.opened topic id).mp ((enrolled.mem_iff (l := .subscriber id) nofun).mp member)
  rw [found] at face
  exact (Prod.mk.inj (Option.some.inj face)).2

theorem move (x : Move) : ∃ present, Enrolled limit handlers (b.move x) present := by
  cases x with
  | operation x => exact ⟨_, enrolled.operate x⟩
  | read id reader =>
      exact ⟨present, enrolled.steady (b.steady_modify id fun s => Broker.face_of_guise (s.guise_start .empty reader))⟩
  | rouse id =>
      exact ⟨present, enrolled.steady (b.steady_modify id fun s => Broker.face_of_guise (s.guise_rouse .empty))⟩

theorem length_subscribe (topic : String) (l : Listener) :
    (b.subscribe (.text topic) l).2.subscribers.length = b.subscribers.length := by
  rcases Broker.subscribe_cases enrolled.limited topic l with ⟨_, same⟩ | ⟨_, after, steady, same | same⟩
  · rw [same]
  · rw [same]
    exact steady.length
  · rw [same]
    exact steady.length

theorem length_move (x : Move) : b.subscribers.length ≤ (b.move x).subscribers.length := by
  cases x with
  | operation x =>
      cases x with
      | subscribe topic handler => exact Nat.le_of_eq (enrolled.length_subscribe topic (.handler handler)).symm
      | unsubscribe topic handler =>
          simp only [Broker.move, Broker.operate]
          rcases b.unsubscribe_cases topic (.handler handler) with ⟨_, _, left⟩ | ⟨_, _, left⟩ | ⟨_, _, left⟩
          all_goals simp [left]
      | iterate topic =>
          have length := enrolled.length_subscribe topic (.subscriber b.subscribers.length)
          obtain ⟨added, joined, _⟩ := b.join_subscribers topic
          simp only [Broker.move, Broker.operate, joined, List.length_append]
          omega
      | close id =>
          simp only [Broker.move, Broker.operate]
          rcases enrolled.close_cases id with ⟨still, _⟩ | ⟨_, _, _, closed⟩
          · exact Nat.le_of_eq (congrArg (·.subscribers.length) still.symm)
          · simp [closed, Broker.modify]
      | publish topic payload => exact Nat.le_of_eq (b.steady_publish topic payload).length.symm
      | turn => exact Nat.le_of_eq (b.steady_settle .empty).length.symm
  | read id reader => simp [Broker.move, Broker.modify]
  | rouse id => simp [Broker.move, Broker.modify]

theorem holds_move (lasting : Lasting P) (closes : ∀ s, P s → s.listening = true → P s.close)
    (opens : b.subscribers.length ≤ id → ∀ topic : String, P { topic := .text topic }) {x : Move}
    (other : x.reader? id = none) (holds : b.Holds id P) : (b.move x).Holds id P := by
  have attentive := enrolled.attentive id
  cases x with
  | operation x =>
      cases x with
      | subscribe topic handler => exact Broker.holds_subscribe lasting attentive topic (.handler handler) holds
      | unsubscribe topic handler =>
          simp only [Broker.move, Broker.operate]
          rcases b.unsubscribe_cases topic (.handler handler) with ⟨_, _, left⟩ | ⟨_, _, left⟩ | ⟨_, _, left⟩
          all_goals
            rw [left]
            exact holds
      | iterate topic =>
          let asked := (b.subscribe (.text topic) (.subscriber b.subscribers.length)).2
          have length : asked.subscribers.length = b.subscribers.length := enrolled.length_subscribe topic _
          have subscribed : asked.Holds id P := Broker.holds_subscribe lasting attentive topic _ holds
          obtain ⟨added, joined, fresh⟩ := b.join_subscribers topic
          intro s found
          simp only [Broker.move, Broker.operate, joined] at found
          rcases Nat.lt_or_ge id asked.subscribers.length with before | behind
          · rw [List.getElem?_append_left before] at found
            exact subscribed s found
          · rw [List.getElem?_append_right behind] at found
            rw [fresh s (List.mem_of_getElem? found)]
            exact opens (length ▸ behind) topic
      | close closed =>
          simp only [Broker.move, Broker.operate]
          rcases enrolled.close_cases closed with ⟨still, _⟩ | ⟨topic, there, _, after⟩
          · rwa [still]
          · rw [after]
            refine Broker.holds_modify fun s found => ?_
            split
            · rename_i same
              have face := (enrolled.opened topic closed).mp there
              rw [same, found] at face
              exact closes s (holds s found) (Prod.mk.inj (Option.some.inj face)).2
            · exact holds s found
      | publish topic payload => exact Broker.holds_publish lasting attentive topic payload holds
      | turn => exact Broker.holds_settle lasting attentive (fun s => lasting.settle) (.refl b) holds
  | read id' reader =>
      refine Broker.holds_modify fun s found => ?_
      split
      · rename_i same
        exact absurd other (by simp [Move.reader?, same])
      · exact holds s found
  | rouse id' =>
      refine Broker.holds_modify fun s found => ?_
      split
      · exact lasting.rouse s (holds s found)
      · exact holds s found

theorem holds_step (lasting : Lasting P) (closes : ∀ s, P s → s.listening = true → P s.close)
    (opens : b.subscribers.length ≤ id → ∀ topic : String, P { topic := .text topic }) (x : Move)
    (reads : ∀ reader, x.reader? id = some reader → ∀ s, b.subscribers[id]? = some s → P s →
      Q (s.start .empty reader).2)
    (others : x.reader? id = none → ∀ s, P s → Q s) (holds : b.Holds id P) : (b.move x).Holds id Q := by
  cases read : x.reader? id with
  | none => exact fun s found => others read s (enrolled.holds_move lasting closes opens read holds s found)
  | some reader =>
      cases x with
      | read id' reader' =>
          obtain ⟨rfl, rfl⟩ : id' = id ∧ reader' = reader := by simpa [Move.reader?] using read
          refine Broker.holds_modify fun s found => ?_
          rw [if_pos rfl]
          exact reads reader' read s found (holds s found)
      | operation _ | rouse _ => cases read

theorem holds_moves (lasting : Lasting P) (reads : ∀ s reader, P s → P (s.start .empty reader).2)
    (closes : ∀ s, P s → s.listening = true → P s.close)
    (opens : b.subscribers.length ≤ id → ∀ topic : String, P { topic := .text topic }) (xs : List Move)
    (holds : b.Holds id P) :
    (b.moves xs).Holds id P ∧ b.subscribers.length ≤ (b.moves xs).subscribers.length ∧
      ∃ present, Enrolled limit handlers (b.moves xs) present := by
  induction xs generalizing b present with
  | nil => exact ⟨holds, Nat.le_refl _, present, enrolled⟩
  | cons x rest ih =>
      obtain ⟨_, moved⟩ := enrolled.move x
      have longer := enrolled.length_move x
      have held : (b.move x).Holds id P :=
        enrolled.holds_step lasting closes opens x (fun reader _ s _ => reads s reader) (fun _ s has => has) holds
      obtain ⟨holds, length, enrolled⟩ := ih moved (fun beyond => opens (Nat.le_trans longer beyond)) held
      exact ⟨holds, Nat.le_trans longer length, enrolled⟩

theorem close_found {s : Subscriber} (found : b.subscribers[id]? = some s) (listening : s.listening = true) :
    (b.close id).subscribers[id]? = some s.close := by
  obtain ⟨topic, named⟩ := enrolled.named s (List.mem_of_getElem? found)
  rw [Broker.close, found]
  simp only [listening, if_true, named]
  rcases b.unsubscribe_cases topic (.subscriber id) with ⟨_, _, left⟩ | ⟨_, _, left⟩ | ⟨_, _, left⟩
  all_goals
    rw [left]
    simp [Broker.modify, found]

end Enrolled

end GraphGateway.PubSub
