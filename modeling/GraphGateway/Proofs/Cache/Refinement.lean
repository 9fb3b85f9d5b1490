import GraphGateway.Proofs.Cache.Recency
import GraphGateway.Proofs.Value.Entries

/-!
# Caches as lists of entries

A cache answers as the list of its entries in the order of their use does, as long as time does not go backwards and
sums of times are exact.
-/

namespace GraphGateway.Cache

open Number

/-- Whether the time of a call is one among the rationals, and the sum of it and of a time to live is not rounded. -/
structure Exact (now : Numeric) (time : ℚ) (call : Call) : Prop where
  clock : now.value? = some (rational time)
  sum : ∀ key value ttl, call = .set key value ttl → ttl = .null ∨ ∃ span x, ttl.numeric? = some span ∧
    span.value? = some x ∧ (0 < x → ∃ expires, now.add? span = some expires ∧
      expires.value? = some (rational time + x))

/-- Whether a value that is set is given a whole time to live, or none. -/
def Call.isWhole : Call → Bool
  | .set _ _ .null | .set _ _ (.int _) => true
  | .set .. => false
  | .get _ | .delete _ | .length => true

theorem Exact.of_int (time : Int) {call : Call} (whole : call.isWhole = true) :
    Exact (.int time) (time : ℚ) call where
  clock := Numeric.value?_int time
  sum := by
    rintro key value ttl rfl
    cases ttl with
    | null => exact .inl rfl
    | int n =>
        refine .inr ⟨.int n, _, rfl, Numeric.value?_int n, fun _ => ⟨.int (time + n), rfl, ?_⟩⟩
        rw [Numeric.value?_int, Int.cast_add]
        rfl
    | _ => cases whole

/-- A call at a time, which is given as a number of the clock and as a rational one. -/
structure Event where
  now : Numeric
  time : ℚ
  call : Call
  exact : Exact now time call

/-- A call at a whole time. -/
def Event.whole (time : Int) (call : Call) (whole : call.isWhole = true) : Event :=
  ⟨.int time, time, call, .of_int time whole⟩

def clocked (events : List Event) : List (Numeric × Call) :=
  events.map fun e => (e.now, e.call)

def timed (events : List Event) : List (ℚ × Call) :=
  events.map fun e => (e.time, e.call)

def Item.entry (i : Item) : Entry where
  key := match i.key with
    | .text key => key
    | _ => ""
  value := i.value
  expires := i.expires.value?.getD ⊤

/-- Whether the key of an item is a text, and its time a number. -/
structure Item.Fit (i : Item) : Prop where
  key : i.key = .text i.entry.key
  expires : i.expires.value? = some i.entry.expires

namespace Lru

def entries (c : Lru) : List Entry :=
  c.items.map (·.entry)

def call (c : Lru) (now : Numeric) : Call → Except Fault Value × Lru
  | .set key value ttl => let (fault, c) := c.set now (.text key) value ttl; (fault.elim (.ok .null) .error, c)
  | .get key => c.get now (.text key)
  | .delete key => let (fault, c) := c.delete now (.text key); (fault.elim (.ok .null) .error, c)
  | .length => let (n, c) := c.length now; (.ok (.int n), c)

def run (c : Lru) : List (Numeric × Call) → List (Except Fault Value) × Lru
  | [] => ([], c)
  | (now, call) :: rest =>
    let first := c.call now call
    let later := first.2.run rest
    (first.1 :: later.1, later.2)

/-- A cache of a given size, of at most as many entries, whose keys are different texts. -/
structure Ready (size : Nat) (c : Lru) : Prop where
  capacity : c.capacity = .int size
  fit : ∀ i ∈ c.items, i.Fit
  distinct : (c.entries.map (·.key)).Nodup
  bounded : c.items.length ≤ size

end Lru

section Items

variable {i : Item} (fit : i.Fit)
include fit

theorem Item.Fit.sameKey (key : String) : Store.empty.sameKey i.key (.text key) = decide (i.entry.key = key) := by
  rw [Bool.eq_iff_iff, Store.sameKey_text_iff, decide_eq_true_iff, fit.key, Value.text.injEq]

theorem Item.Fit.alive {now : Numeric} {time : ℚ} (exact : now.value? = some (rational time)) :
    i.alive now = decide (Recency.IsAlive time i.entry) := by
  rw [Bool.eq_iff_iff, decide_eq_true_iff]
  exact Numeric.lt_iff exact fit.expires

end Items

section Items

variable {items : List Item} (fit : ∀ i ∈ items, i.Fit)
include fit

theorem entries_without (key : String) :
    (without (.text key) items).map (·.entry) = Recency.others key (items.map (·.entry)) := by
  rw [without, Recency.others, List.filter_map]
  refine congrArg _ (List.filter_congr fun i member => ?_)
  rw [(fit i member).sameKey, Function.comp_apply, decide_not]

theorem any_sameKey (key : String) :
    (items.any fun i => Store.empty.sameKey i.key (.text key)) = (items.map (·.entry)).any (·.key = key) := by
  rw [List.any_map, Bool.eq_iff_iff, List.any_eq_true, List.any_eq_true]
  refine exists_congr fun i => and_congr_right fun member => ?_
  rw [(fit i member).sameKey, Function.comp_apply]

theorem entries_alive {now : Numeric} {time : ℚ} (exact : now.value? = some (rational time)) :
    (items.filter (·.alive now)).map (·.entry) = Recency.live time (items.map (·.entry)) := by
  rw [Recency.live, List.filter_map]
  exact congrArg _ (List.filter_congr fun i member => (fit i member).alive exact)

end Items

/-- A value that is given no positive time to live never expires, and any other one when its time is over. -/
theorem expiry_ok {now : Numeric} {time : ℚ} {key : String} {value ttl : Value}
    (exact : Exact now time (.set key value ttl)) :
    ∃ expires, expiry now ttl = .ok expires ∧ expires.value? = some (Recency.expiryOf time ttl) := by
  rcases exact.sum key value ttl rfl with rfl | ⟨span, x, numeric, there, sum⟩
  · exact ⟨.infinity, rfl, rfl⟩
  · have zero : (Numeric.int 0).value? = some 0 := Numeric.value?_int 0
    have positive := Numeric.le_iff there zero
    have given : expiry now ttl = if span.le (.int 0) then .ok .infinity else
        (now.add? span).elim (.error .integerTooLarge) .ok := by
      cases ttl with
      | null => cases numeric
      | _ =>
          simp only [expiry, numeric]
          cases now.add? span <;> rfl
    have expected : Recency.expiryOf time ttl = if 0 < x then rational time + x else ⊤ := by
      rw [Recency.expiryOf, numeric, Option.bind_some, there]
    rw [given, expected]
    by_cases spent : x ≤ 0
    · rw [if_pos (positive.mpr spent), if_neg (not_lt.mpr spent)]
      exact ⟨.infinity, rfl, rfl⟩
    · obtain ⟨expires, added, same⟩ := sum (not_le.mp spent)
      rw [if_neg fun le => spent (positive.mp le), if_pos (not_le.mp spent), added]
      exact ⟨expires, rfl, same⟩

theorem time_lt_expiryOf (time : ℚ) (ttl : Value) : rational time < Recency.expiryOf time ttl := by
  rw [Recency.expiryOf]
  split
  · split
    · rename_i positive
      exact rational_lt_add time positive
    · exact rational_lt_top time
  · exact rational_lt_top time

namespace Lru

variable {size : Nat} {c : Lru}

theorem exceeded_eq (capacity : c.capacity = .int size) (n : Nat) : c.exceeded n = decide (size < n) := by
  rw [Bool.eq_iff_iff, decide_eq_true_iff, exceeded, capacity, Numeric.int_lt_iff, Int.ofNat_lt]

/-- Room for one more is made by dropping at most the entry that has not been used for longest. -/
theorem makeRoom_eq (capacity : c.capacity = .int size) {items : List Item} (bounded : items.length ≤ size) :
    c.makeRoom items = if items.length < size then items else items.tail := by
  have stays : ∀ i rest, rest.length + 1 < size → c.makeRoom (i :: rest) = i :: rest := by
    intro i rest less
    rw [makeRoom, exceeded_eq capacity, if_neg]
    exact fun more => Nat.not_lt_of_le less (of_decide_eq_true more)
  cases items with
  | nil => simp [makeRoom]
  | cons i rest =>
      split
      · rename_i less
        exact stays i rest less
      · rename_i full
        have more : size < rest.length + 2 := by simp only [List.length_cons] at full; omega
        rw [makeRoom, exceeded_eq capacity, if_pos (decide_eq_true more), List.tail_cons]
        cases rest with
        | nil => rfl
        | cons j rest => exact stays j rest bounded

theorem Ready.sublist (ready : c.Ready size) {rest : List Item} (fewer : rest.Sublist c.items) :
    ({ c with items := rest } : Lru).Ready size where
  capacity := ready.capacity
  fit i member := ready.fit i (fewer.subset member)
  distinct := ready.distinct.sublist ((fewer.map _).map _)
  bounded := fewer.length_le.trans ready.bounded

theorem Ready.snoc (ready : c.Ready size) {i : Item} (fit : i.Fit) (apart : ∀ e ∈ c.entries, e.key ≠ i.entry.key)
    (room : c.items.length < size) : ({ c with items := c.items ++ [i] } : Lru).Ready size where
  capacity := ready.capacity
  fit j member := (List.mem_append.mp member).elim (ready.fit j) fun last => List.mem_singleton.mp last ▸ fit
  distinct := by
    have keys : ∀ key ∈ c.entries.map (·.key), key ≠ i.entry.key := by
      intro key member
      obtain ⟨e, there, rfl⟩ := List.mem_map.mp member
      exact apart e there
    rw [entries, List.map_append, List.map_append, List.nodup_append]
    refine ⟨ready.distinct, List.nodup_singleton _, fun key member other last => ?_⟩
    exact List.mem_singleton.mp last ▸ keys key member
  bounded := by
    rw [List.length_append]
    exact room

theorem Ready.insert (ready : c.Ready size) (room : 0 < size) {i : Item} (fit : i.Fit) :
    (c.insert i).Ready size ∧ (c.insert i).entries = Recency.kept size i.entry.key c.entries ++ [i.entry] := by
  obtain ⟨rest, inserted, fewer, stays⟩ : ∃ rest, c.insert i = { c with items := rest ++ [i] } ∧
      rest.Sublist c.items ∧ rest.map (·.entry) = Recency.kept size i.entry.key c.entries := by
    have there := any_sameKey ready.fit i.entry.key
    rw [← fit.key] at there
    rw [Lru.insert, Recency.kept, entries, List.length_map, ← there]
    split
    · exact ⟨_, rfl, List.filter_sublist, fit.key ▸ entries_without ready.fit i.entry.key⟩
    rw [makeRoom_eq ready.capacity ready.bounded]
    split
    · exact ⟨_, rfl, .refl _, rfl⟩
    · exact ⟨_, rfl, List.tail_sublist _, List.map_tail⟩
  have kept : ({ c with items := rest } : Lru).entries = Recency.kept size i.entry.key c.entries := stays
  have bounded : c.entries.length ≤ size := by
    rw [entries, List.length_map]
    exact ready.bounded
  rw [inserted]
  refine ⟨(ready.sublist fewer).snoc fit (fun e member => ?_) ?_, ?_⟩
  · exact Recency.key_ne_of_mem_kept (kept ▸ member)
  · have less := Recency.length_kept_lt room bounded i.entry.key
    rwa [← stays, List.length_map] at less
  · rw [entries, List.map_append, stays]
    rfl

section Call

variable {now : Numeric} {time : ℚ} (ready : c.Ready size)
include ready

theorem Ready.expire (clock : now.value? = some (rational time)) :
    (c.expire now).Ready size ∧ (c.expire now).entries = Recency.live time c.entries :=
  ⟨ready.sublist List.filter_sublist, entries_alive ready.fit clock⟩

theorem Ready.without (key : String) :
    ({ c with items := without (.text key) c.items } : Lru).Ready size ∧
      ({ c with items := Cache.without (.text key) c.items } : Lru).entries = Recency.others key c.entries :=
  ⟨ready.sublist List.filter_sublist, entries_without ready.fit key⟩

theorem find?_entry (clock : now.value? = some (rational time)) (key : String) :
    (c.find? now (.text key)).map (·.entry) = (Recency.live time c.entries).find? (·.key = key) := by
  -- The first item under the key is found before it is asked whether it is alive; only as keys are
  -- different is there no later one that is.
  have only : ∀ e, (Recency.live time c.entries).find? (·.key = key) = some e →
      ∀ i ∈ c.items, i.entry.key = key → e = i.entry := by
    intro e found i member same
    obtain ⟨⟨inside, _⟩, rfl⟩ := Recency.find_live found
    exact List.inj_on_of_nodup_map ready.distinct inside (List.mem_map_of_mem member) same.symm
  rw [find?]
  cases found : c.items.find? fun i => Store.empty.sameKey i.key (.text key) with
  | none =>
      cases other : (Recency.live time c.entries).find? (·.key = key) with
      | none => rfl
      | some e =>
          obtain ⟨⟨inside, _⟩, same⟩ := Recency.find_live other
          obtain ⟨i, member, rfl⟩ := List.mem_map.mp inside
          have absent := List.find?_eq_none.mp found i member
          rw [(ready.fit i member).sameKey, same] at absent
          exact absurd (decide_eq_true rfl) absent
  | some i =>
      have member := List.mem_of_find?_eq_some found
      have named := List.find?_some found
      rw [(ready.fit i member).sameKey, decide_eq_true_iff] at named
      rw [Option.filter_some, (ready.fit i member).alive clock]
      by_cases alive : Recency.IsAlive time i.entry
      · have there := Recency.find_live_of_mem ready.distinct (List.mem_map_of_mem member) alive
        rw [named] at there
        rw [decide_eq_true alive, there]
        rfl
      · rw [decide_eq_false alive]
        cases other : (Recency.live time c.entries).find? (·.key = key) with
        | none => rfl
        | some e =>
            have same := only e other i member named
            exact absurd (same ▸ (Recency.find_live other).1.2) alive

omit ready in
theorem find?_mem {key : Value} {i : Item} (found : c.find? now key = some i) : i ∈ c.items :=
  List.mem_of_find?_eq_some (Option.filter_eq_some_iff.mp found).1

theorem Ready.set (room : 0 < size) {key : String} {value ttl : Value} (exact : Exact now time (.set key value ttl)) :
    ∃ i : Item, i.Fit ∧ i.key = .text key ∧ i.entry = ⟨key, value, Recency.expiryOf time ttl⟩ ∧
      c.call now (.set key value ttl) = (.ok .null, (c.expire now).insert i) := by
  obtain ⟨expires, given, expected⟩ := expiry_ok exact
  have later : now.lt expires = true := (Numeric.lt_iff exact.clock expected).mpr (time_lt_expiryOf time ttl)
  have fits : (c.expire now).exceeded 1 = false := by
    rw [exceeded_eq (ready.expire exact.clock).1.capacity]
    exact decide_eq_false (Nat.not_lt_of_le room)
  have known : Store.empty.checkKey (.text key) = .ok () := rfl
  have entry : (Item.mk (.text key) value expires).entry = ⟨key, value, Recency.expiryOf time ttl⟩ := by
    rw [Item.entry, expected]
    rfl
  have fit : (Item.mk (.text key) value expires).Fit := ⟨rfl, by rw [entry]; exact expected⟩
  refine ⟨_, fit, rfl, entry, ?_⟩
  simp only [Lru.call, Lru.set, write, given, later, fits, known, if_true]
  rfl

/-- A key is got as from the list of entries. -/
theorem Ready.get (clock : now.value? = some (rational time)) (key : String) :
    (c.get now (.text key)).1 = .ok (Recency.step size time c.entries (.get key)).1 ∧
      (c.get now (.text key)).2.Ready size ∧
      (c.get now (.text key)).2.entries = (Recency.step size time c.entries (.get key)).2 := by
  have known : Store.empty.checkKey (.text key) = .ok () := rfl
  have same := find?_entry ready clock key
  cases found : c.find? now (.text key) with
  | none =>
      rw [found, Option.map_none] at same
      simp only [Lru.get, read, known, found, Recency.step, ← same]
      exact ⟨rfl, ready, trivial⟩
  | some i =>
      rw [found, Option.map_some] at same
      simp only [Lru.get, read, known, found, Recency.step, ← same]
      have member := find?_mem found
      have named := (Recency.find_live same.symm).2
      obtain ⟨left, others⟩ := ready.without key
      refine ⟨rfl, left.snoc (ready.fit i member) (fun e there => ?_) ?_, ?_⟩
      · rw [others] at there
        exact named ▸ (Recency.mem_others_iff.mp there).2
      · have there : ∃ e ∈ c.entries, e.key = key := ⟨i.entry, List.mem_map_of_mem member, named⟩
        have less := Recency.length_others_lt there
        rw [← others, entries, entries, List.length_map, List.length_map] at less
        exact Nat.lt_of_lt_of_le less ready.bounded
      · rw [← others, entries, entries, List.map_append]
        rfl

theorem Ready.delete (clock : now.value? = some (rational time)) (key : String) :
    (c.delete now (.text key)).1 = none ∧ (c.delete now (.text key)).2.Ready size ∧
      Recency.live time (c.delete now (.text key)).2.entries = Recency.live time (Recency.others key c.entries) := by
  have known : Store.empty.checkKey (.text key) = .ok () := rfl
  have same := find?_entry ready clock key
  cases found : c.find? now (.text key) with
  | none =>
      rw [found, Option.map_none] at same
      simp only [Lru.delete, remove, known, found]
      refine ⟨rfl, ready, ?_⟩
      have absent : ∀ e ∈ Recency.live time c.entries, decide (e.key ≠ key) = true := by
        intro e member
        have other := List.find?_eq_none.mp same.symm e member
        exact decide_eq_true fun own => other (decide_eq_true own)
      rw [Recency.live_others, Recency.others, List.filter_eq_self.mpr absent]
      rfl
  | some i =>
      simp only [Lru.delete, remove, known, found]
      obtain ⟨left, others⟩ := ready.without key
      exact ⟨rfl, left, congrArg _ others⟩

theorem Ready.call (room : 0 < size) {call : Call} (exact : Exact now time call) :
    (c.call now call).1 = .ok (Recency.step size time c.entries call).1 ∧ (c.call now call).2.Ready size ∧
      Recency.live time (c.call now call).2.entries = Recency.live time (Recency.step size time c.entries call).2 := by
  cases call with
  | set key value ttl =>
      obtain ⟨i, fit, _, entry, result⟩ := ready.set room exact
      obtain ⟨living, entries⟩ := ready.expire exact.clock
      obtain ⟨after, inserted⟩ := living.insert room fit
      rw [result]
      refine ⟨rfl, after, ?_⟩
      rw [inserted, entries, entry]
      rfl
  | get key =>
      obtain ⟨answer, after, entries⟩ := ready.get exact.clock key
      exact ⟨answer, after, congrArg _ entries⟩
  | delete key =>
      obtain ⟨passed, after, living⟩ := ready.delete exact.clock key
      simp only [Lru.call, passed]
      exact ⟨rfl, after, living⟩
  | length =>
      obtain ⟨living, entries⟩ := ready.expire exact.clock
      have counted : (c.expire now).items.length = (Recency.live time c.entries).length := by
        rw [← entries, Lru.entries, List.length_map]
      simp only [Lru.call, length, count, Recency.step, counted, entries]
      exact ⟨trivial, living, Recency.live_live (le_refl time) c.entries⟩

end Call

/-- What is alive and has another key stays when a key is set, unless there is no room for one more and it has not been
used for longest. -/
theorem Ready.set_keeps {now : Numeric} {time : ℚ} (ready : c.Ready size) (room : 0 < size) {key : String}
    {value ttl : Value} (exact : Exact now time (.set key value ttl)) {i : Item} (living : i ∈ (c.expire now).items)
    (other : i.key ≠ .text key) :
    i ∈ (c.call now (.set key value ttl)).2.items ∨ (c.expire now).items.length = size ∧
      (∀ j ∈ (c.expire now).items, j.key ≠ .text key) ∧ (c.expire now).items.head? = some i := by
  obtain ⟨new, _, named, _, result⟩ := ready.set room exact
  have ready' := (ready.expire exact.clock).1
  rw [result, Lru.insert, named]
  split
  · refine .inl (List.mem_append_left _ (List.mem_filter.mpr ⟨living, ?_⟩))
    rw [Bool.not_eq_true', Bool.eq_false_iff]
    exact fun same => other (Store.sameKey_text_iff.mp same)
  · rename_i fresh
    rw [makeRoom_eq ready'.capacity ready'.bounded]
    split
    · exact .inl (List.mem_append_left _ living)
    · rename_i full
      cases items : (c.expire now).items with
      | nil =>
          rw [items] at living
          cases living
      | cons first rest =>
          rw [items] at living
          rcases List.mem_cons.mp living with rfl | later
          · refine .inr ⟨?_, fun j member same => fresh ?_, rfl⟩
            · exact items ▸ Nat.le_antisymm ready'.bounded (Nat.le_of_not_lt full)
            · exact List.any_eq_true.mpr ⟨j, items ▸ member, same ▸ Store.sameKey_text_self key⟩
          · exact .inl (List.mem_append_left _ later)

theorem ofSize_ready (size : Nat) : ∃ c, ofSize (.int size) = .ok c ∧ c.Ready size ∧ c.entries = [] := by
  have positive : (Numeric.int size).lt (.int 0) = false := by
    rw [Bool.eq_false_iff]
    intro negative
    have less := Numeric.int_lt_iff.mp negative
    omega
  refine ⟨⟨.int size, .int size, []⟩, ?_, ⟨rfl, nofun, List.nodup_nil, Nat.zero_le _⟩, rfl⟩
  rw [ofSize, Value.numeric?]
  simp only [positive]
  rfl

/-- A cache answers as the list of entries does, and stays in order. -/
theorem Ready.run (ready : c.Ready size) (room : 0 < size) {events : List Event}
    (forward : events.Pairwise fun a b => a.time ≤ b.time) {entries : List Entry}
    (same : ∀ e ∈ events, Recency.live e.time c.entries = Recency.live e.time entries) :
    (c.run (clocked events)).1 = (Recency.run size entries (timed events)).1.map .ok ∧
      (c.run (clocked events)).2.Ready size := by
  induction events generalizing c entries with
  | nil => exact ⟨rfl, ready⟩
  | cons e rest ih =>
      obtain ⟨first, forward⟩ := List.pairwise_cons.mp forward
      obtain ⟨answer, ready', living⟩ := ready.call room e.exact
      obtain ⟨now, later⟩ := List.forall_mem_cons.mp same
      obtain ⟨alike, next⟩ : (Recency.step size e.time c.entries e.call).1 =
          (Recency.step size e.time entries e.call).1 ∧ _ := Recency.step_congr now e.call
      -- what is alive at later times is alive now, where the cache and the list agree
      have same' : ∀ x ∈ rest, Recency.live x.time (c.call e.now e.call).2.entries =
          Recency.live x.time (Recency.step size e.time entries e.call).2 := by
        intro x member
        have after := first x member
        rw [← Recency.live_live after, living, next, Recency.live_live after]
      obtain ⟨answers, ready''⟩ := ih ready' forward same'
      refine ⟨?_, ready''⟩
      simp only [clocked, timed, List.map_cons, Lru.run, Recency.run] at answers ⊢
      rw [answer, answers, alike]

/-- A cache answers as the list of entries does. So it never counts more entries than it has room for; a key that is
set costs no other living entry its place but the one that has not been used for longest, and only if that many are
alive; a key that is got gives the value that was set last while this is alive, not replaced, and fewer other keys than
there is room for have been used since; and what it gives otherwise is this value or nothing. -/
theorem run_answers_recency {size : Nat} (room : 0 < size) {events : List Event}
    (forward : events.Pairwise fun a b => a.time ≤ b.time) :
    ∃ c, ofSize (.int size) = .ok c ∧
      (c.run (clocked events)).1 = (Recency.run size [] (timed events)).1.map .ok ∧
      (∀ now, ((c.run (clocked events)).2.length now).1 ≤ size) ∧
      (∀ now time key value ttl, Exact now time (.set key value ttl) →
        let living := ((c.run (clocked events)).2.expire now).items
        ∀ i ∈ living, i.key ≠ .text key →
          i ∈ ((c.run (clocked events)).2.call now (.set key value ttl)).2.items ∨
            living.length = size ∧ (∀ j ∈ living, j.key ≠ .text key) ∧ living.head? = some i) ∧
      (∀ before set between get key value ttl, events = before ++ set :: between ++ [get] →
        set.call = .set key value ttl → get.call = .get key → (∀ e ∈ between, ¬ e.call.replaces key) →
        rational get.time < Recency.expiryOf set.time ttl →
        ∀ keys : List String, keys.length < size →
          (∀ other ∈ Recency.uses size (Recency.run size [] (timed (before ++ [set]))).2 (timed between),
            other ≠ key → other ∈ keys) →
          (c.run (clocked events)).1.getLast? = some (.ok value)) ∧
      ∀ before get key, events = before ++ [get] → get.call = .get key →
        (c.run (clocked events)).1.getLast? = some (.ok .null) ∨
          ∃ first set between value ttl, before = first ++ set :: between ∧ set.call = .set key value ttl ∧
            (∀ e ∈ between, ¬ e.call.replaces key) ∧ rational get.time < Recency.expiryOf set.time ttl ∧
            (c.run (clocked events)).1.getLast? = some (.ok value) := by
  obtain ⟨c, created, ready, empty⟩ := ofSize_ready size
  have same : ∀ e ∈ events, Recency.live e.time c.entries = Recency.live e.time [] := fun e _ => by rw [empty]
  obtain ⟨answers, ready'⟩ := ready.run room forward same
  have last : ∀ before get, events = before ++ [get] → (c.run (clocked events)).1.getLast? =
      some (.ok (Recency.step size get.time (Recency.run size [] (timed before)).2 get.call).1) := by
    rintro before get rfl
    rw [answers, timed, List.map_append, List.map_singleton, Recency.run_snoc, List.map_append, List.map_singleton,
      List.getLast?_concat]
    rfl
  refine ⟨c, created, answers, fun now => ?_, fun now time key value ttl exact i => ?_, ?_, ?_⟩
  · exact (List.length_filter_le ..).trans ready'.bounded
  · exact ready'.set_keeps room exact
  · intro before set between get key value ttl split isSet isGet stays alive keys few among
    have times : ∀ e ∈ between, e.time ≤ get.time := by
      rw [split] at forward
      intro e member
      exact (List.pairwise_append.mp forward).2.2 e (by simp [member]) get List.mem_cons_self
    have whole : timed (before ++ set :: between) =
        timed before ++ (set.time, .set key value ttl) :: timed between := by
      rw [timed, List.map_append, List.map_cons, isSet]
      rfl
    have start : timed (before ++ [set]) = timed before ++ [(set.time, .set key value ttl)] := by
      rw [timed, List.map_append, List.map_singleton, isSet]
      rfl
    rw [last (before ++ set :: between) get split, isGet, whole]
    refine congrArg some (congrArg Except.ok (Recency.get_of_set few alive ?_ ?_ (start ▸ among)))
    · intro c member
      obtain ⟨e, inside, rfl⟩ := List.mem_map.mp member
      exact times e inside
    · intro c member
      obtain ⟨e, inside, rfl⟩ := List.mem_map.mp member
      exact stays e inside
  · intro before get key split isGet
    rw [last before get split, isGet]
    refine Classical.or_iff_not_imp_left.mpr fun given => ?_
    have some : (Recency.step size get.time (Recency.run size [] (timed before)).2 (.get key)).1 ≠ .null :=
      fun null => given (congrArg some (congrArg Except.ok null))
    obtain ⟨first, now, ttl, after, whole, alive, stays⟩ := Recency.set_of_get some
    obtain ⟨first, rest, rfl, rfl, there⟩ := List.map_eq_append_iff.mp whole
    obtain ⟨set, between, rfl, called, rfl⟩ := List.map_eq_cons_iff.mp there
    obtain ⟨rfl, isSet⟩ := Prod.mk.inj called
    refine ⟨first, set, between, _, ttl, rfl, isSet, fun e member => ?_, alive, rfl⟩
    exact stays _ (List.mem_map_of_mem member)

/-- Sessions of users, of which there is room for two. -/
def sessions : List Event :=
  [.whole 0 (.set "ada" (.int 1) (.int 5)) rfl, .whole 1 (.set "bob" (.int 2) .null) rfl, .whole 2 (.get "ada") rfl,
    .whole 3 (.set "eve" (.int 3) .null) rfl, .whole 4 (.get "bob") rfl, .whole 4 .length rfl,
    .whole 5 (.get "ada") rfl]

/-- The session that was not used goes, and the other one is over at its time. -/
theorem sessions_answered : 0 < 2 ∧ (sessions.Pairwise fun a b => a.time ≤ b.time) ∧ ∃ c, ofSize (.int 2) = .ok c ∧
    (c.run (clocked sessions)).1.map (fun answer => answer.toOption.bind (·.numeric?)) =
      [none, none, some (.int 1), none, none, some (.int 2), none] := by
  have forward : sessions.Pairwise fun a b => a.time ≤ b.time := by decide +kernel
  obtain ⟨c, created, answers, _⟩ := run_answers_recency (by decide : 0 < 2) forward
  refine ⟨by decide, forward, c, created, ?_⟩
  rw [answers, List.map_map]
  decide +kernel

end Lru

end GraphGateway.Cache
