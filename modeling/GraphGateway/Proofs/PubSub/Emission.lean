import GraphGateway.PubSub.Emitter

/-!
# What is relied on of an emitter

The listeners of topics as one function of the name of a topic, and what adding and taking out a listener change of
it: a new listener stands behind the others of its topic, unless it is there, one that is taken out is gone, and no
other topic changes. Passing a message only fails if reports of failures do not end.
-/

namespace GraphGateway.PubSub

variable {ι : Type}

@[simp] theorem sameKey_text (a b : String) :
    Store.empty.sameKey (.text a) (.text b) = decide (a = b) := by
  have depth : Store.empty.depth (.text a) + Store.empty.depth (.text b) = 1 + 1 := rfl
  simp only [Store.sameKey, depth, Store.equalWithin, Store.look, Store.identical]
  by_cases h : a = b <;> simp [h]

/-- Topics with their listeners: the topics are texts, and none occurs twice. -/
inductive Table : List (Value × List ι) → Prop where
  | nil : Table []
  | cons {name : String} {listening : List ι} {rest : List (Value × List ι)} :
    (∀ t ∈ rest, t.1 ≠ .text name) → Table rest → Table ((.text name, listening) :: rest)

def listenersIn (topics : List (Value × List ι)) (name : String) : List ι :=
  (listenersOf? (.text name) topics).getD []

theorem listenersIn_cons (name other : String) (listening : List ι)
    (rest : List (Value × List ι)) :
    listenersIn ((.text name, listening) :: rest) other =
      if name = other then listening else listenersIn rest other := by
  by_cases h : name = other <;> simp [listenersIn, listenersOf?, h]

theorem listenersIn_absent {topics : List (Value × List ι)} (table : Table topics)
    {name : String} (absent : ∀ t ∈ topics, t.1 ≠ .text name) : listenersIn topics name = [] := by
  induction table with
  | nil => rfl
  | @cons other listening rest _ _ ih =>
      have differs : other ≠ name := by
        intro same
        exact absent _ List.mem_cons_self (congrArg Value.text same)
      rw [listenersIn_cons, if_neg differs]
      exact ih fun t member => absent t (List.mem_cons_of_mem _ member)

section Adding

variable [DecidableEq ι] (name : String) (l : ι)

theorem mem_addListener {t : Value × List ι} {topics : List (Value × List ι)}
    (h : t ∈ addListener (.text name) l topics) : t.1 = .text name ∨ ∃ u ∈ topics, u.1 = t.1 := by
  induction topics with
  | nil => exact .inl (by simpa [addListener] using congrArg Prod.fst (List.mem_singleton.1 h))
  | cons u rest ih =>
      simp only [addListener] at h
      split at h
      · rcases List.mem_cons.1 h with rfl | member
        · exact .inr ⟨u, List.mem_cons_self, rfl⟩
        · exact .inr ⟨t, List.mem_cons_of_mem u member, rfl⟩
      · rcases List.mem_cons.1 h with rfl | member
        · exact .inr ⟨t, List.mem_cons_self, rfl⟩
        · rcases ih member with added | ⟨v, member, same⟩
          · exact .inl added
          · exact .inr ⟨v, List.mem_cons_of_mem u member, same⟩

theorem Table.addListener {topics : List (Value × List ι)} (table : Table topics) :
    Table (addListener (.text name) l topics) := by
  induction table with
  | nil => exact .cons (by simp) .nil
  | @cons other listening rest absent table ih =>
      simp only [PubSub.addListener, sameKey_text, decide_eq_true_eq]
      split
      · exact .cons absent table
      · rename_i differs
        refine .cons ?_ ih
        intro t member same
        rcases mem_addListener name l member with added | ⟨u, member, key⟩
        · exact differs (Value.text.inj (same.symm.trans added))
        · exact absent u member (key.trans same)

/-- An added listener stands behind the others of its topic, unless it was there; no other topic changes. -/
theorem listenersIn_addListener {topics : List (Value × List ι)} (table : Table topics)
    (other : String) :
    listenersIn (addListener (.text name) l topics) other =
      if name = other then
        if l ∈ listenersIn topics name then listenersIn topics name else listenersIn topics name ++ [l]
      else listenersIn topics other := by
  induction table with
  | nil => by_cases h : name = other <;> simp [addListener, listenersIn, listenersOf?, h]
  | @cons first listening rest absent table ih =>
      by_cases found : first = name
      · subst found
        by_cases h : first = other <;> simp [addListener, listenersIn_cons, h]
      · have before : listenersIn ((.text first, listening) :: rest) name = listenersIn rest name := by
          rw [listenersIn_cons, if_neg found]
        by_cases h : first = other
        · subst h
          simp [addListener, listenersIn_cons, found, Ne.symm found]
        · simp only [addListener, sameKey_text, found, decide_false, Bool.false_eq_true, if_false,
            listenersIn_cons, h, ih]

end Adding

section Removing

variable [DecidableEq ι] (name : String) (l : ι)

theorem mem_removeListener {t : Value × List ι} {topics : List (Value × List ι)}
    (h : t ∈ removeListener (.text name) l topics) : ∃ u ∈ topics, u.1 = t.1 := by
  induction topics with
  | nil => simp [removeListener] at h
  | cons u rest ih =>
      simp only [removeListener] at h
      split at h
      · split at h
        · exact ⟨t, List.mem_cons_of_mem u h, rfl⟩
        · rcases List.mem_cons.1 h with rfl | member
          · exact ⟨u, List.mem_cons_self, rfl⟩
          · exact ⟨t, List.mem_cons_of_mem u member, rfl⟩
      · rcases List.mem_cons.1 h with rfl | member
        · exact ⟨t, List.mem_cons_self, rfl⟩
        · obtain ⟨v, member, same⟩ := ih member
          exact ⟨v, List.mem_cons_of_mem u member, same⟩

theorem Table.removeListener {topics : List (Value × List ι)} (table : Table topics) :
    Table (removeListener (.text name) l topics) := by
  induction table with
  | nil => exact .nil
  | @cons other listening rest absent table ih =>
      simp only [PubSub.removeListener, sameKey_text, decide_eq_true_eq]
      split
      · split
        · exact table
        · exact .cons absent table
      · refine .cons ?_ ih
        intro t member
        obtain ⟨u, member, key⟩ := mem_removeListener name l member
        exact key ▸ absent u member

/-- A listener that is taken out is gone from its topic; no other topic changes. -/
theorem listenersIn_removeListener {topics : List (Value × List ι)} (table : Table topics)
    (other : String) :
    listenersIn (removeListener (.text name) l topics) other =
      if name = other then (listenersIn topics name).erase l else listenersIn topics other := by
  induction table with
  | nil => by_cases h : name = other <;> simp [removeListener, listenersIn, listenersOf?, h]
  | @cons first listening rest absent table ih =>
      by_cases found : first = name
      · subst found
        have gone : listenersIn rest first = [] := listenersIn_absent table absent
        cases left : listening.erase l with
        | nil =>
            by_cases h : first = other
            · subst h
              simp [removeListener, listenersIn_cons, left, gone]
            · simp [removeListener, listenersIn_cons, left, h]
        | cons k others => by_cases h : first = other <;> simp [removeListener, listenersIn_cons, left, h]
      · by_cases h : first = other
        · subst h
          simp [removeListener, listenersIn_cons, found, Ne.symm found]
        · simp only [removeListener, sameKey_text, found, decide_false, Bool.false_eq_true, if_false,
            listenersIn_cons, h, ih]

/-- What taking a listener off a topic comes to. -/
theorem takenOff?_cases (topics : List (Value × List ι)) :
    (listenersOf? (.text name) topics = none ∧ l ∉ listenersIn topics name ∧
      takenOff? (.text name) l topics = some topics) ∨
    (listenersOf? (.text name) topics ≠ none ∧ l ∈ listenersIn topics name ∧
      takenOff? (.text name) l topics = some (removeListener (.text name) l topics)) ∨
    (listenersOf? (.text name) topics ≠ none ∧ l ∉ listenersIn topics name ∧
      takenOff? (.text name) l topics = none) := by
  unfold takenOff? listenersIn
  cases listenersOf? (.text name) topics with
  | none => exact .inl ⟨rfl, List.not_mem_nil, rfl⟩
  | some listening =>
      by_cases member : l ∈ listening
      · exact .inr (.inl ⟨Option.some_ne_none _, member, by simp [member]⟩)
      · exact .inr (.inr ⟨Option.some_ne_none _, member, by simp [member]⟩)

theorem takenOff?_of_mem {topics : List (Value × List ι)} (listening : l ∈ listenersIn topics name) :
    takenOff? (.text name) l topics = some (removeListener (.text name) l topics) := by
  rcases takenOff?_cases name l topics with ⟨_, absent, _⟩ | ⟨_, _, removed⟩ | ⟨_, absent, _⟩
  · exact absurd listening absent
  · exact removed
  · exact absurd listening absent

end Removing

namespace Emitter

variable {σ : Type} {e : Emitter ι σ}

theorem deliver_nil (report : Fault → σ → Option Fault × σ) (m : Message) (s : σ) :
    e.deliver report m [] s = (none, s) :=
  rfl

theorem deliver_cons (report : Fault → σ → Option Fault × σ) (m : Message) (l : ι) (rest : List ι) (s : σ) :
    e.deliver report m (l :: rest) s =
      match e.receive s l m with
      | (none, s) => e.deliver report m rest s
      | (some fault, s) =>
        match report fault s with
        | (none, s) => e.deliver report m rest s
        | (some fault, s) => (some fault, s) :=
  rfl

theorem emitWithin_succ (n : Nat) (topic : Value) (m : Message) (s : σ) :
    e.emitWithin (n + 1) topic m s =
      e.deliver (fun fault s => e.emitWithin n errorTopic (.payload fault.toValue) s) m (e.listeners s topic) s :=
  rfl

theorem fault_deliver {report : Fault → σ → Option Fault × σ} {p : Fault → Prop}
    (reports : ∀ fault s f, (report fault s).1 = some f → p f) (m : Message) {listening : List ι} {s : σ} {f : Fault}
    (failed : (e.deliver report m listening s).1 = some f) : p f := by
  induction listening generalizing s with
  | nil =>
      rw [deliver_nil] at failed
      cases failed
  | cons l rest ih =>
      rw [deliver_cons] at failed
      split at failed
      · exact ih failed
      · rename_i fault passed _
        split at failed
        · exact ih failed
        · rename_i _ reported
          cases failed
          exact reports fault passed f (congrArg Prod.fst reported)

/-- The only way in which passing a message fails is that reports of failures do not end. -/
theorem fault_emitWithin {n : Nat} {topic : Value} {m : Message} {s : σ} {f : Fault}
    (failed : (e.emitWithin n topic m s).1 = some f) : f = .nestedTooDeep := by
  induction n generalizing topic m s f with
  | zero =>
      rw [emitWithin] at failed
      exact (Option.some.inj failed).symm
  | succ n ih =>
      rw [emitWithin_succ] at failed
      exact fault_deliver (p := (· = .nestedTooDeep)) (fun _ _ _ reported => ih reported) m failed

end Emitter

end GraphGateway.PubSub
