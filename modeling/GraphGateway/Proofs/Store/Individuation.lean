import GraphGateway.Proofs.Store.Growth
import Mathlib.Data.List.Forall2

/-!
# Telling scalars apart

To tell the scalars of a store apart is to put references to new containers into the places of those that are not one
of their kind. Every container keeps its place and its shape, and what it holds stands for what it held.
-/

namespace GraphGateway.Store

/-- Whether a value stands for another one, in a store that had a number of containers: as itself, or as a reference to
a later container which holds it. -/
inductive Stands (base : Nat) (after : Store) (v : Value) : Value → Prop where
  | itself : Stands base after v v
  | apart {h : Handle} (singular : v.isSingular = true) (later : base ≤ h) (inside : h < after.cells.size)
      (there : after.get h = v) : Stands base after v (.shared h)

/-- Values under the same key, the first of which the second stands for. -/
def StandsUnder {κ : Type} (base : Nat) (after : Store) (e e' : κ × Value) : Prop :=
  e'.1 = e.1 ∧ Stands base after e.2 e'.2

/-- Whether a container holds what stands for the contents of another one. -/
inductive StandsIn (base : Nat) (after : Store) : Value → Value → Prop where
  | same (v : Value) : StandsIn base after v v
  | list {items items' : List Value} (each : List.Forall₂ (Stands base after) items items') :
      StandsIn base after (.list items) (.list items')
  | tuple {items items' : List Value} (each : List.Forall₂ (Stands base after) items items') :
      StandsIn base after (.tuple items) (.tuple items')
  | map {entries entries' : List (Value × Value)} (each : List.Forall₂ (StandsUnder base after) entries entries') :
      StandsIn base after (.map entries) (.map entries')
  | record {fields fields' : List (String × Value)} (each : List.Forall₂ (StandsUnder base after) fields fields') :
      StandsIn base after (.record fields) (.record fields')
  | external {data data' fieldSubschemas : List (Value × Value)} {errors errors' : List Value}
      {subschema subschema' : Value} (each : List.Forall₂ (StandsUnder base after) data data')
      (all : List.Forall₂ (Stands base after) errors errors') (origin : Stands base after subschema subschema') :
      StandsIn base after (.external data errors subschema fieldSubschemas)
        (.external data' errors' subschema' fieldSubschemas)
  | fieldError {message : String} {underlying underlying' extensions extensions' : Value}
      (cause : Stands base after underlying underlying') (further : Stands base after extensions extensions') :
      StandsIn base after (.fieldError message underlying extensions)
        (.fieldError message underlying' extensions')

/-- Whether one store has every container of another one from a number on, with the same contents. -/
structure GrowsFrom (base : Nat) (st after : Store) : Prop where
  size : st.cells.size ≤ after.cells.size
  same : ∀ h, base ≤ h → h < st.cells.size → after.get h = st.get h

variable {base : Nat} {st middle after : Store} {v v' : Value} {α β : Type}

theorem GrowsTo.from (grows : st.GrowsTo after) : st.GrowsFrom base after :=
  ⟨grows.size, fun h _ inside => grows.same h inside⟩

theorem GrowsFrom.trans (first : GrowsFrom base st middle) (second : GrowsFrom base middle after) :
    GrowsFrom base st after where
  size := Nat.le_trans first.size second.size
  same h later inside :=
    (second.same h later (Nat.lt_of_lt_of_le inside first.size)).trans (first.same h later inside)

theorem growsFrom_set {h : Handle} (earlier : h < base) (v : Value) : GrowsFrom base st (st.set h v) where
  size := by simp [set]
  same k later _ := get_set_of_ne st (Nat.ne_of_lt (Nat.lt_of_lt_of_le earlier later)) v

theorem Stands.mono (grows : GrowsFrom base st after) (stands : Stands base st v v') : Stands base after v v' := by
  cases stands with
  | itself => exact .itself
  | apart singular later inside there =>
      exact .apart singular later (Nat.lt_of_lt_of_le inside grows.size) ((grows.same _ later inside).trans there)

theorem StandsUnder.mono {κ : Type} {e e' : κ × Value} (grows : GrowsFrom base st after)
    (stands : StandsUnder base st e e') : StandsUnder base after e e' :=
  ⟨stands.1, stands.2.mono grows⟩

theorem StandsIn.mono (grows : GrowsFrom base st after) (stands : StandsIn base st v v') :
    StandsIn base after v v' := by
  cases stands with
  | same => exact .same v
  | list each => exact .list (each.imp fun _ _ => Stands.mono grows)
  | tuple each => exact .tuple (each.imp fun _ _ => Stands.mono grows)
  | map each => exact .map (each.imp fun _ _ => StandsUnder.mono grows)
  | record each => exact .record (each.imp fun _ _ => StandsUnder.mono grows)
  | external each all origin =>
      exact .external (each.imp fun _ _ => StandsUnder.mono grows) (all.imp fun _ _ => Stands.mono grows)
        (origin.mono grows)
  | fieldError cause further => exact .fieldError (cause.mono grows) (further.mono grows)

/-- Whether a computation only adds containers to a store, and what holds of its result in the store that it leaves. -/
def Gives (base : Nat) (m : StateM Store α) (R : Store → α → Prop) : Prop :=
  ∀ st : Store, base ≤ st.cells.size → st.GrowsTo (m.run st).2 ∧ R (m.run st).2 (m.run st).1

/-- Whether what holds in a store goes on to hold when the store grows. -/
def Lasts (R : Store → α → Prop) : Prop :=
  ∀ st after a, st.GrowsTo after → R st a → R after a

variable {R : Store → α → Prop} {S : Store → β → Prop}

theorem Gives.pure {a : α} (holds : ∀ st, R st a) : Gives base (Pure.pure a) R :=
  fun st _ => ⟨.refl st, holds st⟩

theorem Gives.bind {m : StateM Store α} {next : α → StateM Store β} (first : Gives base m R) (lasts : Lasts R)
    (second : ∀ a, Gives base (next a) fun st b => R st a → S st b) : Gives base (m >>= next) S := by
  intro st enough
  obtain ⟨grows, result⟩ := first st enough
  obtain ⟨grows', result'⟩ := second (m.run st).1 (m.run st).2 (Nat.le_trans enough grows.size)
  exact ⟨grows.trans grows', result' (lasts _ _ _ grows' result)⟩

theorem Gives.mapM {f : α → StateM Store β} {T : Store → α → β → Prop} (each : ∀ a, Gives base (f a) fun st => T st a)
    (lasts : ∀ a, Lasts fun st => T st a) (items : List α) :
    Gives base (items.mapM f) fun st => List.Forall₂ (T st) items := by
  have lasting : ∀ items, Lasts fun st => List.Forall₂ (T st) items :=
    fun items st after results grows all => all.imp fun a b => lasts a st after b grows
  induction items with
  | nil =>
      rw [List.mapM_nil]
      exact .pure fun _ => .nil
  | cons first rest ih =>
      rw [List.mapM_cons]
      exact (each first).bind (lasts first) fun b => ih.bind (lasting rest) fun results =>
        .pure fun _ all head => .cons head all

theorem lasts_stands : Lasts fun after => Stands base after v :=
  fun _ _ _ grows stands => stands.mono grows.from

theorem gives_single (base : Nat) (v : Value) : Gives base (single v) fun after => Stands base after v := by
  intro st enough
  by_cases singular : v.isSingular = true
  · have run : (single v).run st = (.shared st.cells.size, (st.alloc v).2) := by
      rw [single, if_pos singular]
      rfl
    rw [run]
    exact ⟨grows_alloc st v, .apart singular enough (by simp [alloc]) (by simp [alloc, get])⟩
  · rw [single, if_neg singular]
    exact ⟨.refl st, .itself⟩

theorem gives_singles (base : Nat) (items : List Value) :
    Gives base (items.mapM single) fun after => List.Forall₂ (Stands base after) items :=
  .mapM (gives_single base) (fun _ => lasts_stands) items

theorem gives_entries {κ : Type} (base : Nat) (entries : List (κ × Value)) :
    Gives base (entries.mapM fun e => return (e.1, ← single e.2))
      fun after => List.Forall₂ (StandsUnder base after) entries := by
  refine .mapM (fun e => ?_) (fun e st after e' grows stands => stands.mono grows.from) entries
  exact (gives_single base e.2).bind lasts_stands fun v => .pure fun _ stands => ⟨rfl, stands⟩

theorem lasts_singles {items : List Value} : Lasts fun after => List.Forall₂ (Stands base after) items :=
  fun _ _ _ grows all => all.imp fun _ _ => Stands.mono grows.from

theorem lasts_entries {κ : Type} {entries : List (κ × Value)} :
    Lasts fun after => List.Forall₂ (StandsUnder base after) entries :=
  fun _ _ _ grows all => all.imp fun _ _ => StandsUnder.mono grows.from

theorem gives_individuateIn (base : Nat) (v : Value) :
    Gives base (individuateIn v) fun after => StandsIn base after v := by
  cases v with
  | list items => exact (gives_singles base items).bind lasts_singles fun _ => .pure fun _ => .list
  | tuple items => exact (gives_singles base items).bind lasts_singles fun _ => .pure fun _ => .tuple
  | map entries => exact (gives_entries base entries).bind lasts_entries fun _ => .pure fun _ => .map
  | record fields => exact (gives_entries base fields).bind lasts_entries fun _ => .pure fun _ => .record
  | external data errors subschema fieldSubschemas =>
      exact (gives_entries base data).bind lasts_entries fun _ =>
        (gives_singles base errors).bind lasts_singles fun _ =>
          (gives_single base subschema).bind lasts_stands fun _ =>
            .pure fun _ origin all each => .external each all origin
  | fieldError message underlying extensions =>
      exact (gives_single base underlying).bind lasts_stands fun _ =>
        (gives_single base extensions).bind lasts_stands fun _ =>
          .pure fun _ further cause => .fieldError cause further
  | _ => exact .pure fun _ => .same _

/-- Tell apart what one container of a store holds. -/
def individuateAt (st : Store) (h : Handle) : Store :=
  let (cell, after) := (individuateIn (st.get h)).run st
  after.set h cell

/-- Whether the first containers of a store are told apart, and the other ones are as they were. -/
structure ToldUpTo (st : Store) (n : Nat) (after : Store) : Prop where
  size : st.cells.size ≤ after.cells.size
  told : ∀ h < n, StandsIn st.cells.size after (st.get h) (after.get h)
  rest : ∀ h, n ≤ h → h < st.cells.size → after.get h = st.get h

theorem ToldUpTo.step {n : Nat} (told : st.ToldUpTo n after) (inside : n < st.cells.size) :
    st.ToldUpTo (n + 1) (after.individuateAt n) := by
  obtain ⟨grows, stands⟩ := gives_individuateIn st.cells.size (after.get n) after told.size
  rw [told.rest n (Nat.le_refl n) inside] at grows stands
  generalize made : (individuateIn (st.get n)).run after = result at grows stands
  have given : after.individuateAt n = result.2.set n result.1 := by
    rw [individuateAt, told.rest n (Nat.le_refl n) inside, made]
    rfl
  have onward : GrowsFrom st.cells.size after (result.2.set n result.1) :=
    grows.from.trans (growsFrom_set inside result.1)
  have within : n < result.2.cells.size := Nat.lt_of_lt_of_le inside (Nat.le_trans told.size grows.size)
  rw [given]
  refine ⟨Nat.le_trans told.size onward.size, fun h early => ?_, fun h late there => ?_⟩
  · rcases Nat.lt_succ_iff_lt_or_eq.mp early with earlier | rfl
    · rw [get_set_of_ne _ (Nat.ne_of_gt earlier),
        grows.same h (Nat.lt_of_lt_of_le (Nat.lt_trans earlier inside) told.size)]
      exact (told.told h earlier).mono onward
    · rw [get_set_self _ within]
      exact stands.mono (growsFrom_set inside result.1)
  · rw [get_set_of_ne _ (Nat.ne_of_lt late), grows.same h (Nat.lt_of_lt_of_le there told.size)]
    exact told.rest h (Nat.le_of_succ_le late) there

theorem toldUpTo_fold (st : Store) {n : Nat} (within : n ≤ st.cells.size) :
    st.ToldUpTo n ((List.range n).foldl individuateAt st) := by
  induction n with
  | zero => exact ⟨Nat.le_refl _, nofun, fun _ _ _ => rfl⟩
  | succ n ih =>
      rw [List.range_succ, List.foldl_append]
      exact (ih (Nat.le_of_succ_le within)).step within

theorem individuate_stands (st : Store) (beside : List (String × Value)) :
    let scope := st.individuate beside
    List.Forall₂ (StandsUnder st.cells.size scope.2) beside scope.1 ∧
      ∀ h < st.cells.size, StandsIn st.cells.size scope.2 (st.get h) (scope.2.get h) := by
  intro scope
  have told := st.toldUpTo_fold (Nat.le_refl st.cells.size)
  obtain ⟨grows, named⟩ := gives_entries st.cells.size beside _ told.size
  have given : scope = (beside.mapM fun f => return (f.1, ← single f.2) : StateM Store _).run
      ((List.range st.cells.size).foldl individuateAt st) := rfl
  rw [given]
  refine ⟨named, fun h inside => ?_⟩
  rw [grows.same h (Nat.lt_of_lt_of_le inside told.size)]
  exact (told.told h inside).mono grows.from

end GraphGateway.Store
