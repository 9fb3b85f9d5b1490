import GraphGateway.Cache.Lru
import GraphGateway.Proofs.Number.Order
import Mathlib.Data.List.Nodup

/-!
# Entries in the order of their use

What a cache is for those who use it: a list of entries, the one that was used last at the end. A value that is set
takes the place of the one under its key, or that of the entry that has not been used for longest if there is no room
for one more; entries whose time is over take no room.
-/

namespace GraphGateway.Cache

open Number

inductive Call where
  | set (key : String) (value ttl : Value)
  | get (key : String)
  | delete (key : String)
  | length

def Call.replaces (key : String) : Call → Prop
  | .set other _ _ | .delete other => other = key
  | .get _ | .length => False

/-- A value under a key, alive before the time at which it expires. -/
structure Entry where
  key : String
  value : Value
  expires : Extended

namespace Recency

/-- When a value expires: never, unless it is given a positive time to live. -/
def expiryOf (now : ℚ) (ttl : Value) : Extended :=
  match ttl.numeric?.bind Numeric.value? with
  | some time => if 0 < time then rational now + time else ⊤
  | none => ⊤

def IsAlive (now : ℚ) (e : Entry) : Prop :=
  rational now < e.expires

instance (now : ℚ) (e : Entry) : Decidable (IsAlive now e) :=
  inferInstanceAs (Decidable (_ < _))

def live (now : ℚ) (entries : List Entry) : List Entry :=
  entries.filter (IsAlive now ·)

def others (key : String) (entries : List Entry) : List Entry :=
  entries.filter (·.key ≠ key)

/-- The entries that stay, of those alive, when a key is set in a cache of a given size. -/
def kept (size : Nat) (key : String) (entries : List Entry) : List Entry :=
  if entries.any (·.key = key) then others key entries
  else if entries.length < size then entries else entries.tail

/-- The answer to a call at a time, and the entries after it. -/
def step (size : Nat) (now : ℚ) (entries : List Entry) : Call → Value × List Entry
  | .set key value ttl => (.null, kept size key (live now entries) ++ [⟨key, value, expiryOf now ttl⟩])
  | .get key =>
    match (live now entries).find? (·.key = key) with
    | some e => (e.value, others key entries ++ [e])
    | none => (.null, entries)
  | .delete key => (.null, others key entries)
  | .length => (.int (live now entries).length, entries)

/-- The answers to calls one after the other, and the entries after them. -/
def run (size : Nat) (entries : List Entry) : List (ℚ × Call) → List Value × List Entry
  | [] => ([], entries)
  | (now, call) :: rest =>
    let first := step size now entries call
    let later := run size first.2 rest
    (first.1 :: later.1, later.2)

/-- The key that a call uses: one that it sets, or gets while it is alive. -/
def used? (now : ℚ) (entries : List Entry) : Call → Option String
  | .set key _ _ => some key
  | .get key => if (live now entries).any (·.key = key) then some key else none
  | .delete _ | .length => none

/-- The keys that calls use. -/
def uses (size : Nat) (entries : List Entry) : List (ℚ × Call) → List String
  | [] => []
  | (now, call) :: rest => (used? now entries call).toList ++ uses size (step size now entries call).2 rest

theorem run_append (size : Nat) (entries : List Entry) (first later : List (ℚ × Call)) :
    run size entries (first ++ later) =
      ((run size entries first).1 ++ (run size (run size entries first).2 later).1,
        (run size (run size entries first).2 later).2) := by
  induction first generalizing entries with
  | nil => rfl
  | cons c rest ih =>
      obtain ⟨now, call⟩ := c
      simp only [List.cons_append, run, ih]

theorem run_snoc (size : Nat) (entries : List Entry) (calls : List (ℚ × Call)) (time : ℚ) (call : Call) :
    (run size entries (calls ++ [(time, call)])).1 =
      (run size entries calls).1 ++ [(step size time (run size entries calls).2 call).1] := by
  rw [run_append]
  rfl

theorem IsAlive.before {now later : ℚ} {e : Entry} (alive : IsAlive later e) (forward : now ≤ later) :
    IsAlive now e :=
  lt_of_le_of_lt (rational_le_iff.mpr forward) alive

theorem live_live {now later : ℚ} (forward : now ≤ later) (entries : List Entry) :
    live later (live now entries) = live later entries := by
  rw [live, live, live, List.filter_filter]
  refine List.filter_congr fun e _ => ?_
  have both : IsAlive later e ∧ IsAlive now e ↔ IsAlive later e := and_iff_left_of_imp (·.before forward)
  rw [← Bool.decide_and, decide_eq_decide]
  exact both

theorem live_others (now : ℚ) (key : String) (entries : List Entry) :
    live now (others key entries) = others key (live now entries) := by
  simp only [live, others, List.filter_filter, Bool.and_comm]

theorem live_append (now : ℚ) (first later : List Entry) :
    live now (first ++ later) = live now first ++ live now later :=
  List.filter_append ..

/-- Only the entries that are alive count. -/
theorem step_congr {size : Nat} {now : ℚ} {entries similar : List Entry} (same : live now entries = live now similar)
    (call : Call) :
    (step size now entries call).1 = (step size now similar call).1 ∧
      live now (step size now entries call).2 = live now (step size now similar call).2 := by
  cases call with
  | set key value ttl => simp only [step, same, and_self]
  | get key =>
      simp only [step, same]
      cases (live now similar).find? (·.key = key) with
      | none => exact ⟨rfl, same⟩
      | some e => simp only [live_append, live_others, same, and_self]
  | delete key => simp only [step, live_others, same, and_self]
  | length => simp only [step, same, and_self]

section Keys

variable {size : Nat} {now : ℚ} {entries : List Entry}

theorem live_sublist (now : ℚ) (entries : List Entry) : (live now entries).Sublist entries :=
  List.filter_sublist

theorem others_sublist (key : String) (entries : List Entry) : (others key entries).Sublist entries :=
  List.filter_sublist

theorem kept_sublist (size : Nat) (key : String) (entries : List Entry) : (kept size key entries).Sublist entries := by
  rw [kept]
  split
  · exact others_sublist key entries
  split
  · exact .refl _
  · exact List.tail_sublist _

theorem mem_live_iff {e : Entry} : e ∈ live now entries ↔ e ∈ entries ∧ IsAlive now e := by
  rw [live, List.mem_filter, decide_eq_true_iff]

theorem mem_others_iff {key : String} {e : Entry} : e ∈ others key entries ↔ e ∈ entries ∧ e.key ≠ key := by
  rw [others, List.mem_filter, decide_eq_true_iff]

theorem find_live {key : String} {e : Entry} (found : (live now entries).find? (·.key = key) = some e) :
    (e ∈ entries ∧ IsAlive now e) ∧ e.key = key := by
  have named := List.find?_some found
  exact ⟨mem_live_iff.mp (List.mem_of_find?_eq_some found), of_decide_eq_true named⟩

theorem find_live_of_mem (distinct : (entries.map (·.key)).Nodup) {e : Entry} (member : e ∈ entries)
    (alive : IsAlive now e) : (live now entries).find? (·.key = e.key) = some e := by
  cases found : (live now entries).find? (·.key = e.key) with
  | none =>
      have absent := List.find?_eq_none.mp found e (mem_live_iff.mpr ⟨member, alive⟩)
      exact absurd (decide_eq_true rfl) absent
  | some x =>
      obtain ⟨⟨inside, _⟩, same⟩ := find_live found
      rw [List.inj_on_of_nodup_map distinct inside member same]

theorem length_others_lt {key : String} (there : ∃ e ∈ entries, e.key = key) :
    (others key entries).length < entries.length := by
  obtain ⟨e, member, same⟩ := there
  exact List.length_filter_lt_length_iff_exists.mpr ⟨e, member, by simp [same]⟩

theorem length_kept_lt (room : 0 < size) (bounded : entries.length ≤ size) (key : String) :
    (kept size key entries).length < size := by
  rw [kept]
  split
  · rename_i there
    obtain ⟨e, member, same⟩ := List.any_eq_true.mp there
    exact Nat.lt_of_lt_of_le (length_others_lt ⟨e, member, of_decide_eq_true same⟩) bounded
  split
  · assumption
  · rw [List.length_tail]
    omega

theorem key_ne_of_mem_kept {key : String} {e : Entry} (member : e ∈ kept size key entries) : e.key ≠ key := by
  by_cases there : entries.any (·.key = key)
  · rw [kept, if_pos there] at member
    exact (mem_others_iff.mp member).2
  · intro same
    have inside := (kept_sublist size key entries).subset member
    exact there (List.any_eq_true.mpr ⟨e, inside, decide_eq_true same⟩)

theorem mem_step {call : Call} {e : Entry} (member : e ∈ (step size now entries call).2) :
    (e ∈ entries ∧ ¬ call.replaces e.key) ∨ ∃ ttl, call = .set e.key e.value ttl ∧ e.expires = expiryOf now ttl := by
  cases call with
  | set key value ttl =>
      rcases List.mem_append.mp member with old | new
      · have inside := ((kept_sublist size key _).trans (live_sublist now entries)).subset old
        exact .inl ⟨inside, fun same => key_ne_of_mem_kept old same.symm⟩
      · obtain rfl := List.mem_singleton.mp new
        exact .inr ⟨ttl, rfl, rfl⟩
  | get key =>
      refine .inl ⟨?_, id⟩
      rw [step] at member
      cases found : (live now entries).find? (·.key = key) with
      | none =>
          rw [found] at member
          exact member
      | some x =>
          rw [found] at member
          rcases List.mem_append.mp member with old | used
          · exact (others_sublist key entries).subset old
          · obtain rfl := List.mem_singleton.mp used
            exact (find_live found).1.1
  | delete key =>
      obtain ⟨inside, other⟩ := mem_others_iff.mp member
      exact .inl ⟨inside, fun same => other same.symm⟩
  | length => exact .inl ⟨member, id⟩

theorem step_distinct (distinct : (entries.map (·.key)).Nodup) (call : Call) :
    ((step size now entries call).2.map (·.key)).Nodup := by
  have snoc : ∀ {some : List Entry} {x : Entry}, some.Sublist entries → (∀ e ∈ some, e.key ≠ x.key) →
      ((some ++ [x]).map (·.key)).Nodup := by
    intro some x inside apart
    rw [List.map_append, List.nodup_append]
    refine ⟨distinct.sublist (inside.map _), List.nodup_singleton _, ?_⟩
    intro key member other last
    obtain ⟨e, there, rfl⟩ := List.mem_map.mp member
    exact List.mem_singleton.mp last ▸ apart e there
  cases call with
  | set key value ttl =>
      exact snoc ((kept_sublist size key _).trans (live_sublist now entries)) fun e member => key_ne_of_mem_kept member
  | get key =>
      rw [step]
      cases found : (live now entries).find? (·.key = key) with
      | none => exact distinct
      | some x =>
          refine snoc (others_sublist key entries) fun e member => ?_
          rw [(find_live found).2]
          exact (mem_others_iff.mp member).2
  | delete key => exact distinct.sublist ((others_sublist key entries).map _)
  | length => exact distinct

end Keys

/-- That an entry is there, and only entries under some keys have been used since. -/
def Recent (e : Entry) (keys : List String) (entries : List Entry) : Prop :=
  ∃ before after, entries = before ++ e :: after ∧ ∀ x ∈ after, x.key ∈ keys

namespace Recent

variable {e x : Entry} {keys : List String} {entries : List Entry}

theorem mem (recent : Recent e keys entries) : e ∈ entries := by
  obtain ⟨before, after, rfl, _⟩ := recent
  simp

theorem filter (recent : Recent e keys entries) {p : Entry → Bool} (stays : p e = true) :
    Recent e keys (entries.filter p) := by
  obtain ⟨before, after, rfl, later⟩ := recent
  refine ⟨before.filter p, after.filter p, ?_, fun x member => later x (List.mem_filter.mp member).1⟩
  rw [List.filter_append, List.filter_cons_of_pos stays]

theorem snoc (recent : Recent e keys entries) (among : x.key ∈ keys) : Recent e keys (entries ++ [x]) := by
  obtain ⟨before, after, rfl, later⟩ := recent
  refine ⟨before, after ++ [x], by simp, fun y member => ?_⟩
  rcases List.mem_append.mp member with old | new
  · exact later y old
  · exact List.mem_singleton.mp new ▸ among

theorem kept (recent : Recent e keys entries) (distinct : (entries.map (·.key)).Nodup) {size : Nat} {key : String}
    (other : e.key ≠ key) (among : key ∈ keys) (few : keys.length < size) :
    Recent e keys (kept size key entries) := by
  rw [Recency.kept]
  split
  · exact recent.filter (decide_eq_true other)
  split
  · exact recent
  rename_i fresh full
  obtain ⟨before, after, rfl, later⟩ := recent
  cases before with
  | cons first before => exact ⟨before, after, rfl, later⟩
  | nil =>
      -- the key and those used since are all different, which are as many keys as there is room for
      have apart : (key :: after.map (·.key)).Nodup := by
        refine List.nodup_cons.mpr ⟨fun again => ?_, (List.nodup_cons.mp distinct).2⟩
        obtain ⟨x, member, same⟩ := List.mem_map.mp again
        exact fresh (List.any_eq_true.mpr ⟨x, List.mem_cons_of_mem _ member, decide_eq_true same⟩)
      have inside : key :: after.map (·.key) ⊆ keys := by
        refine List.cons_subset.mpr ⟨among, fun k member => ?_⟩
        obtain ⟨x, there, rfl⟩ := List.mem_map.mp member
        exact later x there
      have bound := apart.length_le_of_subset inside
      simp only [List.nil_append, List.length_cons, List.length_map] at bound full
      omega

end Recent

section History

variable {size : Nat} {e : Entry} {keys : List String} (few : keys.length < size)
include few

/-- A call that does not replace an entry keeps it, if the call uses one of few other keys. -/
theorem step_recent {now : ℚ} {entries : List Entry} (distinct : (entries.map (·.key)).Nodup)
    (recent : Recent e keys entries) (alive : IsAlive now e) {call : Call} (stays : ¬ call.replaces e.key)
    (among : ∀ key, used? now entries call = some key → key ≠ e.key → key ∈ keys) :
    Recent e keys (step size now entries call).2 := by
  cases call with
  | set key value ttl =>
      have other : e.key ≠ key := fun same => stays same.symm
      have inside := among key rfl other.symm
      have living : Recent e keys (live now entries) := recent.filter (decide_eq_true alive)
      exact (living.kept (distinct.sublist ((live_sublist now entries).map _)) other inside few).snoc inside
  | get key =>
      rw [step]
      cases found : (live now entries).find? (·.key = key) with
      | none => exact recent
      | some x =>
          obtain ⟨⟨inside, _⟩, rfl⟩ := find_live found
          by_cases own : x.key = e.key
          · obtain rfl := List.inj_on_of_nodup_map distinct inside recent.mem own
            exact ⟨_, [], rfl, nofun⟩
          · have used : (live now entries).any (·.key = x.key) = true :=
              List.any_eq_true.mpr ⟨x, List.mem_of_find?_eq_some found, decide_eq_true rfl⟩
            have other : e.key ≠ x.key := fun same => own same.symm
            exact (recent.filter (decide_eq_true other)).snoc (among x.key (if_pos used) own)
  | delete key => exact recent.filter (decide_eq_true fun same => stays same.symm)
  | length => exact recent

/-- A value is kept as long as it is alive, not replaced, and few other keys are used. -/
theorem run_recent {entries : List Entry} {calls : List (ℚ × Call)} (distinct : (entries.map (·.key)).Nodup)
    (recent : Recent e keys entries) (alive : ∀ c ∈ calls, IsAlive c.1 e) (stays : ∀ c ∈ calls, ¬ c.2.replaces e.key)
    (among : ∀ key ∈ uses size entries calls, key ≠ e.key → key ∈ keys) :
    Recent e keys (run size entries calls).2 := by
  induction calls generalizing entries with
  | nil => exact recent
  | cons c rest ih =>
      obtain ⟨now, call⟩ := c
      obtain ⟨first, alive⟩ := List.forall_mem_cons.mp alive
      obtain ⟨own, stays⟩ := List.forall_mem_cons.mp stays
      have used : ∀ key, used? now entries call = some key → key ≠ e.key → key ∈ keys := by
        intro key found
        exact among key (List.mem_append_left _ (Option.mem_toList.mpr found))
      refine ih (step_distinct distinct call) (step_recent few distinct recent first own used) alive stays ?_
      exact fun key member => among key (List.mem_append_right _ member)

end History

theorem run_distinct (size : Nat) {entries : List Entry} (distinct : (entries.map (·.key)).Nodup)
    (calls : List (ℚ × Call)) : ((run size entries calls).2.map (·.key)).Nodup := by
  induction calls generalizing entries with
  | nil => exact distinct
  | cons c rest ih => exact ih (step_distinct distinct c.2)

/-- The entries after a run have been set in it and not been replaced since, or were there before. -/
theorem mem_run {size : Nat} {entries : List Entry} {calls : List (ℚ × Call)} {e : Entry}
    (member : e ∈ (run size entries calls).2) :
    (e ∈ entries ∧ ∀ c ∈ calls, ¬ c.2.replaces e.key) ∨
      ∃ before now ttl after, calls = before ++ (now, .set e.key e.value ttl) :: after ∧
        e.expires = expiryOf now ttl ∧ ∀ c ∈ after, ¬ c.2.replaces e.key := by
  induction calls generalizing entries with
  | nil => exact .inl ⟨member, nofun⟩
  | cons c rest ih =>
      obtain ⟨now, call⟩ := c
      rcases ih member with ⟨there, stays⟩ | ⟨before, time, ttl, after, rfl, expires, stays⟩
      · rcases mem_step there with ⟨inside, own⟩ | ⟨ttl, rfl, expires⟩
        · exact .inl ⟨inside, List.forall_mem_cons.mpr ⟨own, stays⟩⟩
        · exact .inr ⟨[], now, ttl, rest, rfl, expires, stays⟩
      · exact .inr ⟨(now, call) :: before, time, ttl, after, rfl, expires, stays⟩

section Get

variable {size : Nat} {calls before after : List (ℚ × Call)} {now time : ℚ} {key : String} {value ttl : Value}

/-- A key that is got gives the value that was set last, as long as this is alive and few other keys have been used
since. -/
theorem get_of_set {keys : List String} (few : keys.length < size)
    (alive : rational time < expiryOf now ttl) (forward : ∀ c ∈ after, c.1 ≤ time)
    (stays : ∀ c ∈ after, ¬ c.2.replaces key)
    (among : ∀ other ∈ uses size (run size [] (before ++ [(now, .set key value ttl)])).2 after,
      other ≠ key → other ∈ keys) :
    (step size time (run size [] (before ++ (now, .set key value ttl) :: after)).2 (.get key)).1 = value := by
  let e : Entry := ⟨key, value, expiryOf now ttl⟩
  let entries := (run size [] (before ++ [(now, .set key value ttl)])).2
  have whole : (run size [] (before ++ (now, .set key value ttl) :: after)).2 = (run size entries after).2 := by
    rw [List.append_cons, run_append]
  have recent : Recent e keys entries := by
    refine ⟨kept size key (live now (run size [] before).2), [], ?_, nofun⟩
    show (run size [] (before ++ [(now, .set key value ttl)])).2 = _
    rw [run_append]
    rfl
  have none : (([] : List Entry).map (·.key)).Nodup := List.nodup_nil
  have distinct : (entries.map (·.key)).Nodup := run_distinct size none _
  have alive : IsAlive time e := alive
  have there := (run_recent few distinct recent (fun c member => alive.before (forward c member)) stays among).mem
  have found : (live time (run size entries after).2).find? (·.key = key) = some e :=
    find_live_of_mem (run_distinct size distinct after) there alive
  rw [whole, step, found]

/-- What a key that is got gives, unless it is nothing, was set last and is alive. -/
theorem set_of_get (some : (step size time (run size [] calls).2 (.get key)).1 ≠ .null) :
    ∃ before now ttl after, calls = before ++
        (now, .set key (step size time (run size [] calls).2 (.get key)).1 ttl) :: after ∧
      rational time < expiryOf now ttl ∧ ∀ c ∈ after, ¬ c.2.replaces key := by
  rw [step] at some ⊢
  cases found : (live time (run size [] calls).2).find? (·.key = key) with
  | none =>
      rw [found] at some
      exact absurd rfl some
  | some e =>
      obtain ⟨⟨member, alive⟩, rfl⟩ := find_live found
      rcases mem_run member with ⟨none, _⟩ | ⟨before, now, ttl, after, split, expires, stays⟩
      · cases none
      · exact ⟨before, now, ttl, after, split, expires ▸ alive, stays⟩

end Get

end Recency

end GraphGateway.Cache
