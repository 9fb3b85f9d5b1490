import GraphGateway.Proofs.Path.Landing
import GraphGateway.Proofs.Store.Reach
import GraphGateway.Resolver.MethodCall

/-!
# What building arguments changes

A template that is a lone placeholder stands for a container of the request itself, and a template that is
no text for a container of the description itself. A later path that goes on below such a value lands in
that container. The landings of a run are found from what paths pass on their way, and they account for every
change of a container that was there before.
-/

namespace GraphGateway.Resolver

variable (environment : List (String × String)) (request : Request)

/-- Write the value of one template at its path. -/
def fillEntry (path template built : Value) (st : Store) : Written :=
  match st.interpolate environment (.request request) template with
  | .error fault => ⟨built, st, some fault⟩
  | .ok v =>
    match st.pathKeys path with
    | .error fault => ⟨built, st, some fault⟩
    | .ok keys => st.write built keys v

/-- Where the value of one template lands among the containers that are there. -/
def entryLanding? (path template built : Value) (st : Store) : Option Landing :=
  match st.interpolate environment (.request request) template with
  | .error _ => none
  | .ok v =>
    match st.pathKeys path with
    | .error _ => none
    | .ok keys => st.landing? built keys v

/-- The landings of the values of templates that are written at their paths, up to the first write that
fails. -/
def fillLandings : List (Value × Value) → Value → Store → List Landing
  | [], _, _ => []
  | (path, template) :: rest, built, st =>
    (entryLanding? environment request path template built st).toList ++
      match fillEntry environment request path template built st with
      | ⟨_, _, some _⟩ => []
      | ⟨built, st, none⟩ => fillLandings rest built st

/-- The landings of building the arguments of a method. -/
def argumentLandings (st : Store) (args : Value) : List Landing :=
  fillLandings environment request ((st.look args).entries?.getD []) (.map []) st

theorem fillPaths_cons (path template : Value) (rest : List (Value × Value)) (built : Value) (st : Store) :
    fillPaths environment request ((path, template) :: rest) built st =
      match fillEntry environment request path template built st with
      | ⟨_, st, some fault⟩ => ⟨.error fault, st⟩
      | ⟨built, st, none⟩ => fillPaths environment request rest built st := by
  simp only [fillPaths, fillEntry]
  cases st.interpolate environment (.request request) template with
  | error fault => rfl
  | ok v => cases st.pathKeys path <;> rfl

theorem fillEntry_changes (path template built : Value) (st : Store) :
    st.ChangesBy (entryLanding? environment request path template built st).toList
      (fillEntry environment request path template built st).store := by
  simp only [fillEntry, entryLanding?]
  cases st.interpolate environment (.request request) template with
  | error fault => exact .refl st
  | ok v =>
      cases st.pathKeys path with
      | error fault => exact .refl st
      | ok keys => exact st.write_changes built keys v

theorem fillPaths_changes (entries : List (Value × Value)) (built : Value) (st : Store) :
    st.ChangesBy (fillLandings environment request entries built st)
      (fillPaths environment request entries built st).store := by
  induction entries generalizing built st with
  | nil => exact .refl st
  | cons e rest ih =>
      obtain ⟨path, template⟩ := e
      have step := fillEntry_changes environment request path template built st
      rw [fillPaths_cons]
      simp only [fillLandings]
      cases filled : fillEntry environment request path template built st with
      | mk grown after fault =>
          rw [filled] at step
          cases fault with
          | some fault => simpa using step
          | none => exact step.trans (ih grown after)

theorem entries_of_unfilled {described : Value}
    (unfilled : described.callable = true ∨ described.truthy = false) :
    described.entries?.getD [] = [] := by
  rcases unfilled with callable | falsy
  · cases described <;> first | rfl | cases callable
  · cases described <;> simp_all [Value.truthy, Value.entries?]

theorem buildArguments_store (host : Host) (st : Store) (args : Value) :
    (buildArguments host environment st request args).store =
      (fillPaths environment request ((st.look args).entries?.getD []) (.map []) st).store := by
  simp only [buildArguments]
  by_cases callable : (st.look args).callable = true
  · simp [callable, entries_of_unfilled (.inl callable), fillPaths]
  · by_cases truthy : (st.look args).truthy = true
    · simp only [callable, truthy]
      cases (st.look args).entries? <;> rfl
    · simp [callable, truthy, entries_of_unfilled (.inr (by simpa using truthy)), fillPaths]

theorem buildArguments_changes (host : Host) (st : Store) (args : Value) :
    st.ChangesBy (argumentLandings environment request st args)
      (buildArguments host environment st request args).store := by
  rw [buildArguments_store]
  exact fillPaths_changes environment request _ _ st

/-- Whether a landing in one of some containers puts there what is there already. -/
def Harmless (among : Handle → Prop) (st : Store) (l : Landing) : Prop :=
  among l.handle → l.change l.handle (st.get l.handle) = st.get l.handle

theorem harmless_iff (among : Handle → Prop) (st : Store) (l : Landing) :
    Harmless among st l ↔ ∀ h, among h → l.change h (st.get h) = st.get h := by
  constructor
  · intro harmless h member
    by_cases same : l.handle = h
    · subst same
      exact harmless member
    · exact Landing.change_elsewhere same _
  · intro kept member
    exact kept l.handle member

theorem Harmless.congr {among : Handle → Prop} {st after : Store}
    (kept : ∀ h, among h → after.get h = st.get h) (l : Landing) :
    Harmless among after l ↔ Harmless among st l := by
  constructor
  · intro harmless member
    rw [← kept l.handle member]
    exact harmless member
  · intro harmless member
    rw [kept l.handle member]
    exact harmless member

/-- Writing one entry leaves some containers as they are exactly if it lands in them harmlessly. -/
theorem fillEntry_keeps_iff {among : Handle → Prop} (path template built : Value) (st : Store)
    (inside : ∀ h, among h → h < st.cells.size) :
    (∀ h, among h → (fillEntry environment request path template built st).store.get h = st.get h) ↔
      ∀ l ∈ (entryLanding? environment request path template built st).toList, Harmless among st l := by
  have step := fillEntry_changes environment request path template built st
  cases landing : entryLanding? environment request path template built st with
  | none =>
      rw [landing] at step
      simpa using fun h member => step.contents h (inside h member)
  | some l =>
      rw [landing] at step
      simp only [Option.toList_some, List.mem_singleton, forall_eq, harmless_iff]
      refine forall_congr' fun h => ⟨fun kept member => ?_, fun harmless member => ?_⟩
      · exact (step.contents h (inside h member)).symm.trans (kept member)
      · exact (step.contents h (inside h member)).trans (harmless member)

/-- Some containers stay as they are all the time exactly if no landing changes one of them. -/
theorem fillPaths_steady_iff {among : Handle → Prop} (entries : List (Value × Value)) (built : Value)
    (st : Store) (inside : ∀ h, among h → h < st.cells.size) :
    (∀ n h, among h → (fillPaths environment request (entries.take n) built st).store.get h = st.get h) ↔
      ∀ l ∈ fillLandings environment request entries built st, Harmless among st l := by
  induction entries generalizing built st with
  | nil => simp [fillPaths, fillLandings]
  | cons e rest ih =>
      obtain ⟨path, template⟩ := e
      have step := fillEntry_keeps_iff environment request path template built st inside
      have size := (fillEntry_changes environment request path template built st).size
      cases filled : fillEntry environment request path template built st with
      | mk grown after fault =>
          rw [filled] at step size
          -- What a later write changes is told from the first store, which the first write has to leave alone.
          cases fault with
          | some fault =>
              simp only [fillLandings, filled, List.append_nil]
              rw [← step]
              constructor
              · intro steady
                simpa [fillPaths_cons, filled] using steady 1
              · intro kept n
                cases n with
                | zero => exact fun _ _ => rfl
                | succ n => simpa [fillPaths_cons, filled] using kept
          | none =>
              simp only [fillLandings, filled, List.forall_mem_append]
              rw [← step]
              have later := ih grown after (fun h member => Nat.lt_of_lt_of_le (inside h member) size)
              constructor
              · intro steady
                have kept : ∀ h, among h → after.get h = st.get h := by
                  simpa [fillPaths_cons, filled, fillPaths] using steady 1
                refine ⟨kept, fun l landed => (Harmless.congr kept l).mp ?_⟩
                refine later.mp (fun n h member => ?_) l landed
                have still := steady (n + 1) h member
                rw [List.take_succ_cons, fillPaths_cons, filled] at still
                exact still.trans (kept h member).symm
              · rintro ⟨kept, harmless⟩ n h member
                cases n with
                | zero => rfl
                | succ n =>
                    rw [List.take_succ_cons, fillPaths_cons, filled]
                    have harmlessAfter := fun l landed => (Harmless.congr kept l).mpr (harmless l landed)
                    exact (later.mpr harmlessAfter n h member).trans (kept h member)

/-- What a request reaches is the same afterwards exactly if the landings in it undo each other, and it is the
same all the time exactly if each of them puts there what is there already. -/
theorem buildArguments_keeps_request_iff (host : Host) (st : Store) (args : Value)
    {entries : List (Value × Value)} (mapping : (st.look args).entries? = some entries) :
    (st.Keeps (.map request.entries) (buildArguments host environment st request args).store ↔
      ∀ h, st.Reaches (.map request.entries) h →
        Landing.changes (argumentLandings environment request st args) h (st.get h) = st.get h) ∧
    ((∀ n, st.Keeps (.map request.entries)
        (buildArguments host environment st request (.map (entries.take n))).store) ↔
      ∀ l ∈ argumentLandings environment request st args,
        Harmless (st.Reaches (.map request.entries)) st l) := by
  have built := buildArguments_changes environment request host st args
  constructor
  · refine forall_congr' fun h => forall_congr' fun reached => ?_
    rw [built.contents h reached.inside]
  · have stages : ∀ n, (buildArguments host environment st request (.map (entries.take n))).store =
        (fillPaths environment request (entries.take n) (.map []) st).store := fun n =>
      buildArguments_store environment request host st (.map (entries.take n))
    simp only [Store.Keeps, stages]
    simp only [argumentLandings, mapping, Option.getD_some]
    exact fillPaths_steady_iff environment request entries (.map []) st fun h reached => reached.inside

def filtered : Request where
  root := .null
  args := .shared 0
  context := .null
  info := .null

def filters : Store where
  cells := #[.map [(.text "filter", .shared 1)], .map []]

/-- A description that takes the filter out of the request and goes on below it. -/
def narrowing : List (Value × Value) :=
  [(.text "where", .text "{args.filter}"), (.text "where.id", .int 5)]

theorem filtered_reaches_filter : filters.Reaches (.map filtered.entries) 1 := by
  have args : filters.Reaches (.map filtered.entries) 0 := .direct (by decide) (by decide)
  exact args.onward (by decide) (by decide)

/-- Building arguments by that description writes into the filter of the request. -/
theorem narrowing_changes_filter :
    (filters.look (.map narrowing)).entries? = some narrowing ∧
      ¬ filters.Keeps (.map filtered.entries)
        (buildArguments Host.empty [] filters filtered (.map narrowing)).store := by
  refine ⟨rfl, fun kept => ?_⟩
  have condition := (buildArguments_keeps_request_iff [] filtered Host.empty filters (.map narrowing) rfl).1
  have undone := condition.mp kept 1 filtered_reaches_filter
  exact absurd (congrArg Value.truthy undone) (by decide)

end GraphGateway.Resolver
