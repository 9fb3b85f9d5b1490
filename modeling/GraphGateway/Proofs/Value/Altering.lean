import GraphGateway.Proofs.Distinct
import GraphGateway.Proofs.Value.Entries

/-!
# Changing entries by what was there

Entries under names are changed one after the other, each by what stands under its name. Where the changes of one name
can be put together, changing by entries that result from changes is the same as changing by these themselves.
-/

namespace GraphGateway

namespace Store

theorem find_map (entries : List (Value × α)) (f : α → β) (key : Value) :
    Store.empty.find? (entries.map fun e => (e.1, f e.2)) key = (Store.empty.find? entries key).map f := by
  induction entries with
  | nil => rfl
  | cons e rest ih =>
      rw [List.map_cons, find_cons, find_cons, ih]
      cases Store.empty.sameKey e.1 key <;> rfl

end Store

namespace Value

theorem insert_cons_self (s : String) (v w : α) (rest : List (Value × α)) :
    insert ((.text s, v) :: rest) (.text s) w = (.text s, w) :: rest := by
  rw [insert, if_pos (Store.sameKey_text_self s)]

theorem insert_cons_of_ne {key : Value} {s : String} (other : key ≠ .text s) (v w : α) (rest : List (Value × α)) :
    insert ((key, v) :: rest) (.text s) w = (key, v) :: insert rest (.text s) w := by
  rw [insert, (Store.sameKey_of_ne_text other).1]
  rfl

theorem insert_insert (entries : List (Value × α)) (s : String) (v w : α) :
    insert (insert entries (.text s) v) (.text s) w = insert entries (.text s) w := by
  induction entries with
  | nil => exact insert_cons_self s v w []
  | cons e rest ih =>
      obtain ⟨key, u⟩ := e
      by_cases same : key = .text s
      · rw [same, insert_cons_self, insert_cons_self, insert_cons_self]
      · rw [insert_cons_of_ne same, insert_cons_of_ne same, insert_cons_of_ne same, ih]

/-- A name that is there keeps its place, whatever is put in under another one. -/
theorem insert_comm {entries : List (Value × α)} {s t : String} (apart : t ≠ s)
    (there : .text s ∈ entries.map (·.1)) (v w : α) :
    insert (insert entries (.text t) w) (.text s) v = insert (insert entries (.text s) v) (.text t) w := by
  induction entries with
  | nil => cases there
  | cons e rest ih =>
      obtain ⟨key, u⟩ := e
      have differ : (.text t : Value) ≠ .text s := fun same => apart (text.inj same)
      by_cases first : key = .text s
      · rw [first, insert_cons_of_ne differ.symm, insert_cons_self, insert_cons_self, insert_cons_of_ne differ.symm]
      · have later := (List.mem_cons.mp there).resolve_left (Ne.symm first)
        by_cases second : key = .text t
        · rw [second, insert_cons_self, insert_cons_of_ne differ, insert_cons_of_ne differ, insert_cons_self]
        · rw [insert_cons_of_ne second, insert_cons_of_ne first, insert_cons_of_ne first, insert_cons_of_ne second,
            ih later]

theorem insert_of_absent {entries : List (Value × α)} {key : Value} (absent : Store.empty.find? entries key = none)
    (v : α) : insert entries key v = entries ++ [(key, v)] := by
  induction entries with
  | nil => rfl
  | cons e rest ih =>
      rw [Store.find_cons] at absent
      split at absent
      · cases absent
      · rename_i other
        rw [insert, if_neg other, ih absent, List.cons_append]

theorem mem_insert_of_ne {entries : List (Value × α)} {s : String} {e : Value × α} (other : e.1 ≠ .text s) (v : α) :
    e ∈ insert entries (.text s) v ↔ e ∈ entries := by
  have apart : ∀ w, e ≠ (.text s, w) := fun w same => other (congrArg (·.1) same)
  induction entries with
  | nil => simp [insert, apart]
  | cons f rest ih =>
      obtain ⟨key, u⟩ := f
      by_cases same : key = .text s
      · rw [same, insert_cons_self]
        simp [apart]
      · simp only [insert_cons_of_ne same, List.mem_cons, ih]

theorem insert_map (entries : List (Value × α)) (f : α → β) (key : Value) (v : α) :
    insert (entries.map fun e => (e.1, f e.2)) key (f v) = (insert entries key v).map fun e => (e.1, f e.2) := by
  induction entries with
  | nil => rfl
  | cons e rest ih =>
      rw [List.map_cons, insert, insert, ih]
      split <;> rfl

theorem update_map (entries added : List (Value × α)) (f : α → β) :
    update (entries.map fun e => (e.1, f e.2)) (added.map fun e => (e.1, f e.2)) =
      (update entries added).map fun e => (e.1, f e.2) := by
  induction added generalizing entries with
  | nil => rfl
  | cons e rest ih => exact (congrArg (update · _) (insert_map entries f e.1 e.2)).trans (ih _)

/-- Change the value under a key by what is there. -/
def alter (entries : List (Value × α)) (key : Value) (f : Option α → α) : List (Value × α) :=
  insert entries key (f (Store.empty.find? entries key))

/-- Change entries by others, one after the other. -/
def alterAll (act : α → Option α → α) (entries changes : List (Value × α)) : List (Value × α) :=
  changes.foldl (fun entries e => alter entries e.1 (act e.2)) entries

theorem alterAll_append (act : α → Option α → α) (entries before after : List (Value × α)) :
    alterAll act entries (before ++ after) = alterAll act (alterAll act entries before) after :=
  List.foldl_append ..

/-- Whether the keys of entries are names. -/
def Named (entries : List (Value × α)) : Prop :=
  ∀ e ∈ entries, ∃ s, e.1 = .text s

@[simp] theorem named_nil : Named ([] : List (Value × α)) :=
  nofun

@[simp] theorem named_cons {e : Value × α} {rest : List (Value × α)} :
    Named (e :: rest) ↔ (∃ s, e.1 = .text s) ∧ Named rest :=
  List.forall_mem_cons

theorem mem_keys_insert (entries : List (Value × α)) (s : String) (v : α) (key : Value) :
    key ∈ (insert entries (.text s) v).map (·.1) ↔ key ∈ entries.map (·.1) ∨ key = .text s := by
  rcases keys_insert entries s v with ⟨there, kept⟩ | ⟨_, added⟩
  · rw [kept, or_iff_left_of_imp]
    rintro rfl
    exact there
  · rw [added, List.mem_append, List.mem_singleton]

theorem nodup_keys_insert {entries : List (Value × α)} (distinct : (entries.map (·.1)).Nodup) (s : String) (v : α) :
    ((insert entries (.text s) v).map (·.1)).Nodup := by
  rcases keys_insert entries s v with ⟨_, kept⟩ | ⟨absent, added⟩
  · rw [kept]
    exact distinct
  · rw [added]
    refine List.nodup_append.mpr ⟨distinct, List.nodup_singleton _, fun key member other own => ?_⟩
    rw [List.mem_singleton.mp own]
    rintro rfl
    exact absent member

section Alter

variable {entries : List (Value × α)} {s t : String} {f g : Option α → α}

theorem alter_alter : alter (alter entries (.text s) f) (.text s) g = alter entries (.text s) fun o => g (some (f o)) := by
  rw [alter, alter, alter, Store.find_insert, if_pos (Store.sameKey_text_self s), insert_insert]

theorem alter_comm (apart : t ≠ s) (there : .text s ∈ entries.map (·.1)) :
    alter (alter entries (.text t) g) (.text s) f = alter (alter entries (.text s) f) (.text t) g := by
  have other : Store.empty.sameKey (.text t) (.text s) = false :=
    (Store.sameKey_of_ne_text fun same => apart (text.inj same)).1
  have other' : Store.empty.sameKey (.text s) (.text t) = false :=
    (Store.sameKey_of_ne_text fun same => apart (text.inj same).symm).1
  simp only [alter, Store.find_insert, other, other', Bool.false_eq_true, if_false]
  exact insert_comm apart there _ _

theorem alter_cons_self (v : α) (rest : List (Value × α)) :
    alter ((.text s, v) :: rest) (.text s) f = (.text s, f (some v)) :: rest := by
  rw [alter, Store.find_cons, if_pos (Store.sameKey_text_self s), insert_cons_self]

theorem alter_cons_of_ne {key : Value} (other : key ≠ .text s) (v : α) (rest : List (Value × α)) :
    alter ((key, v) :: rest) (.text s) f = (key, v) :: alter rest (.text s) f := by
  rw [alter, Store.find_cons, (Store.sameKey_of_ne_text other).1, insert_cons_of_ne other]
  rfl

theorem alterAll_alter_comm {act : α → Option α → α} {changes : List (Value × α)} (named : Named changes)
    (absent : .text s ∉ changes.map (·.1)) (there : .text s ∈ entries.map (·.1)) :
    alter (alterAll act entries changes) (.text s) f = alterAll act (alter entries (.text s) f) changes := by
  induction changes generalizing entries with
  | nil => rfl
  | cons e rest ih =>
      obtain ⟨first, others⟩ := named_cons.mp named
      obtain ⟨t, key⟩ := first
      have apart : t ≠ s := fun same => absent (List.mem_cons.mpr (.inl (same ▸ key.symm)))
      have kept : .text s ∈ (alter entries (.text t) (act e.2)).map (·.1) :=
        (mem_keys_insert entries t _ _).mpr (.inl there)
      have step : ∀ entries, alterAll act entries (e :: rest) = alterAll act (alter entries (.text t) (act e.2)) rest :=
        fun entries => by rw [← key]; rfl
      rw [step, step, ih others (fun member => absent (List.mem_cons_of_mem _ member)) kept, alter_comm apart there]

end Alter

/-- Whether changes can be put together: those by values that are fit, onto values that such changes lead to. -/
structure Composes (fit reached : α → Prop) (act : α → Option α → α) : Prop where
  new : ∀ y, fit y → ∀ o, act (act y none) o = act y o
  onto : ∀ x y, reached x → fit y → ∀ o, act (act y (some x)) o = act y (some (act x o))
  starts : ∀ y, fit y → reached (act y none)
  keeps : ∀ x y, reached x → fit y → reached (act y (some x))

/-- Whether changes could have led to entries: their keys are distinct names, and their values are reached. -/
structure Reached (reached : α → Prop) (entries : List (Value × α)) : Prop where
  named : Named entries
  distinct : (entries.map (·.1)).Nodup
  values : ∀ e ∈ entries, reached e.2

section Composes

variable {fit reached : α → Prop} {act : α → Option α → α} (composes : Composes fit reached act)
include composes

theorem Reached.alter {entries : List (Value × α)} (made : Reached reached entries) (s : String) {y : α} (fits : fit y) :
    Reached reached (alter entries (.text s) (act y)) := by
  induction entries with
  | nil =>
      refine ⟨fun e member => ⟨s, ?_⟩, List.nodup_singleton _, fun e member => ?_⟩
      · rw [List.mem_singleton.mp member]
      · rw [List.mem_singleton.mp member]
        exact composes.starts y fits
  | cons e rest ih =>
      obtain ⟨named, distinct, values⟩ := made
      obtain ⟨first, others⟩ := named_cons.mp named
      obtain ⟨value, later⟩ := List.forall_mem_cons.mp values
      have rest := ih ⟨others, (List.nodup_cons.mp distinct).2, later⟩
      refine ⟨?_, nodup_keys_insert distinct s _, ?_⟩ <;> obtain ⟨key, x⟩ := e
      · by_cases same : key = .text s
        · subst same
          rw [alter_cons_self]
          exact named_cons.mpr ⟨first, others⟩
        · rw [alter_cons_of_ne same]
          exact named_cons.mpr ⟨first, rest.named⟩
      · by_cases same : key = .text s
        · subst same
          rw [alter_cons_self]
          exact List.forall_mem_cons.mpr ⟨composes.keeps x y value fits, later⟩
        · rw [alter_cons_of_ne same]
          exact List.forall_mem_cons.mpr ⟨value, rest.values⟩

theorem Reached.alterAll {entries changes : List (Value × α)} (made : Reached reached entries) (named : Named changes)
    (fits : ∀ e ∈ changes, fit e.2) : Reached reached (alterAll act entries changes) := by
  induction changes generalizing entries with
  | nil => exact made
  | cons e rest ih =>
      obtain ⟨⟨s, key⟩, others⟩ := named_cons.mp named
      obtain ⟨fit, later⟩ := List.forall_mem_cons.mp fits
      have step := made.alter composes s fit
      rw [← key] at step
      exact ih step others later

theorem alterAll_alter {made : List (Value × α)} (reached : Reached reached made) (entries : List (Value × α))
    (s : String) {y : α} (fits : fit y) :
    alterAll act entries (alter made (.text s) (act y)) = alter (alterAll act entries made) (.text s) (act y) := by
  induction made generalizing entries with
  | nil =>
      show Value.alter entries (.text s) (act (act y none)) = Value.alter entries (.text s) (act y)
      rw [funext (composes.new y fits)]
  | cons e rest ih =>
      obtain ⟨_, named⟩ := named_cons.mp reached.named
      obtain ⟨absent, distinct⟩ := List.nodup_cons.mp reached.distinct
      obtain ⟨value, values⟩ := List.forall_mem_cons.mp reached.values
      obtain ⟨key, x⟩ := e
      by_cases same : key = .text s
      · subst same
        have there : .text s ∈ (Value.alter entries (.text s) (act x)).map (·.1) :=
          (mem_keys_insert entries s _ _).mpr (.inr rfl)
        calc alterAll act entries (Value.alter ((.text s, x) :: rest) (.text s) (act y))
            = alterAll act (Value.alter entries (.text s) (act (act y (some x)))) rest := by
              rw [alter_cons_self]
              rfl
          _ = alterAll act (Value.alter (Value.alter entries (.text s) (act x)) (.text s) (act y)) rest := by
              rw [alter_alter, funext (composes.onto x y value fits)]
          _ = Value.alter (alterAll act (Value.alter entries (.text s) (act x)) rest) (.text s) (act y) :=
              (alterAll_alter_comm named absent there).symm
      · rw [alter_cons_of_ne same]
        exact ih ⟨named, distinct, values⟩ (Value.alter entries key (act x))

theorem alterAll_alterAll {made changes : List (Value × α)} (reached : Reached reached made) (named : Named changes)
    (fits : ∀ e ∈ changes, fit e.2) (entries : List (Value × α)) :
    alterAll act entries (alterAll act made changes) = alterAll act (alterAll act entries made) changes := by
  induction changes generalizing made with
  | nil => rfl
  | cons e rest ih =>
      obtain ⟨⟨s, key⟩, others⟩ := named_cons.mp named
      obtain ⟨fit, later⟩ := List.forall_mem_cons.mp fits
      have step : ∀ entries, alterAll act entries (e :: rest) = alterAll act (Value.alter entries (.text s) (act e.2)) rest :=
        fun entries => by rw [← key]; rfl
      rw [step, step, ih (reached.alter composes s fit) others later, alterAll_alter composes reached entries s fit]

end Composes

end Value

end GraphGateway
