import GraphGateway.Proofs.Path.Placing

/-!
# Which writes are refused

A container that is made for a key takes it, unless the key is of digits and writes no index: a superscript is a digit,
but stands in no numeral. Where every key of digits writes one, a write along a path is refused for want of a key, or
because a name comes to a list that was there before. Nothing is made by then, so that nothing has changed.
-/

namespace GraphGateway

open Number Text

/-- Whether a fault says that a list would become too long. -/
def Fault.ofLength : Fault → Bool
  | .lengthTooLarge | .outOfMemory => true
  | _ => false

namespace Value

end Value

namespace Path

variable {key : String} {path rest : List String} {items : List Value} {fault : Fault} {v : Value}

/-- Whether every key of digits in a path is read as an integer. -/
def Legible (path : List String) : Prop :=
  ∀ key ∈ path, isDigits key.toList = true → ∃ n, readInt key.toList = .ok n

theorem Legible.index (legible : Legible path) (member : key ∈ path) (digits : isDigits key.toList = true) :
    ∃ i, index key = .ok i := by
  obtain ⟨n, read⟩ := legible key member digits
  exact ⟨n.toNat, by simp [Path.index, digits, read]⟩

theorem Legible.later (legible : Legible (key :: rest)) : Legible rest :=
  fun k member => legible k (List.mem_cons_of_mem key member)

theorem setItem_cases (items : List Value) (i : Nat) (v : Value) :
    (i < items.length + maxFill ∧ setItem items i v = .ok (withItem items i v)) ∨
      (items.length + maxFill ≤ i ∧ ∃ fault, fault.ofLength = true ∧ ∀ w, setItem items i w = .error fault) := by
  have less : maxFill < Nat.pow 2 63 := by decide
  by_cases fits : i < items.length + maxFill
  · have fill : ¬ maxFill < i + 1 - items.length := by omega
    have short : ¬ Nat.pow 2 63 ≤ i + 1 - items.length := by omega
    exact .inl ⟨fits, by rw [setItem, if_neg short, if_neg fill]; rfl⟩
  · refine .inr ⟨Nat.le_of_not_lt fits, ?_⟩
    have fill : maxFill < i + 1 - items.length := by omega
    by_cases far : Nat.pow 2 63 ≤ i + 1 - items.length
    · exact ⟨.lengthTooLarge, rfl, fun w => by rw [setItem, if_pos far]⟩
    · exact ⟨.outOfMemory, rfl, fun w => by rw [setItem, if_neg far, if_pos fill]⟩

theorem assign_item {i : Nat} (indexed : index key = .ok i) (items : List Value) :
    (i < items.length + maxFill ∧ ∀ v, assign (.list items) key v = .ok (.list (withItem items i v))) ∨
      (items.length + maxFill ≤ i ∧
        ∃ fault, fault.ofLength = true ∧ ∀ v, assign (.list items) key v = .error fault) := by
  rcases setItem_cases items i .null with ⟨fits, placed⟩ | ⟨far, fault, long, refused⟩
  · refine .inl ⟨fits, fun v => ?_⟩
    simp only [assign, indexed, setItem_ok placed v, bind, Except.bind, pure, Except.pure]
  · exact .inr ⟨far, fault, long, fun v => by simp only [assign, indexed, refused, bind, Except.bind]⟩

/-- Whether the container that is made for a key takes it: a key of digits has to write an index up to which a list can
be filled. -/
def Suits (key : String) : Prop :=
  isDigits key.toList = true → ∃ i < maxFill, index key = .ok i

/-- Whether a fault is the reason why the container that is made for a key does not take it. -/
def Misfit (key : String) (fault : Fault) : Prop :=
  isDigits key.toList = true ∧
    (index key = .error fault ∨ fault.ofLength = true ∧ ∃ i, index key = .ok i ∧ maxFill ≤ i)

theorem assign_made (key : String) :
    (Suits key ∧ ∀ v, ∃ made, assign (containerFor key) key v = .ok made) ∨
      ∃ fault, Misfit key fault ∧ ∀ v, assign (containerFor key) key v = .error fault := by
  cases digits : isDigits key.toList with
  | false =>
      have map : containerFor key = .map [] := by simp [containerFor, digits]
      exact .inl ⟨by simp [Suits, digits], fun v => ⟨_, by rw [map]; rfl⟩⟩
  | true =>
      have list : containerFor key = .list [] := by simp [containerFor, digits]
      rw [list]
      cases indexed : index key with
      | error fault =>
          exact .inr ⟨fault, ⟨digits, .inl indexed⟩, fun v => by simp only [assign, indexed, bind, Except.bind]⟩
      | ok i =>
          rcases assign_item indexed [] with ⟨inside, taken⟩ | ⟨far, fault, long, refused⟩
          · exact .inl ⟨fun _ => ⟨i, by simpa using inside, indexed⟩, fun v => ⟨_, taken v⟩⟩
          · exact .inr ⟨fault, ⟨digits, .inr ⟨long, i, indexed, by simpa using far⟩⟩, refused⟩

theorem not_suits_of_misfit (misfit : Misfit key fault) : ¬ Suits key := by
  intro suits
  obtain ⟨i, inside, indexed⟩ := suits misfit.1
  rcases misfit.2 with refused | ⟨_, j, also, far⟩
  · rw [indexed] at refused
    cases refused
  · obtain rfl := Except.ok.inj (indexed.symm.trans also)
    omega

/-- Whether a fault says that a list would become too long, for an index of a path. -/
def Overlong (path : List String) (fault : Fault) : Prop :=
  fault.ofLength = true ∧ ∃ key ∈ path, ∃ i, index key = .ok i ∧ maxFill ≤ i

theorem Overlong.mono (long : Overlong rest fault) (among : rest ⊆ path) : Overlong path fault := by
  obtain ⟨long, key, member, far⟩ := long
  exact ⟨long, key, among member, far⟩

theorem Overlong.later (long : Overlong rest fault) : Overlong (key :: rest) fault :=
  long.mono (List.subset_cons_self key rest)

end Path

namespace Store

open GraphGateway.Path

variable {st : Store} {owner v : Value} {key : String} {path rest : List String} {fault : Fault}

/-- A write into a made container puts everything in place, or fails at the first key that is a misfit. -/
theorem write_made_cases (st : Store) (key : String) (rest : List String) (v : Value) :
    ((st.write (containerFor key) (key :: rest) v).fault = none ∧ ∀ k ∈ key :: rest, Suits k) ∨
      ∃ k ∈ key :: rest, ∃ fault, Misfit k fault ∧
        (st.write (containerFor key) (key :: rest) v).fault = some fault := by
  induction rest generalizing key with
  | nil =>
      rcases assign_made key with ⟨suits, taken⟩ | ⟨fault, misfit, refused⟩
      · obtain ⟨made, assigned⟩ := taken v
        refine .inl ⟨?_, by simpa using suits⟩
        rcases containerFor_cases key with container | container <;> rw [container] at assigned ⊢
        all_goals simp only [write, assignIn, assigned]
      · refine .inr ⟨key, List.mem_cons_self, fault, misfit, ?_⟩
        have refused := refused v
        rcases containerFor_cases key with container | container <;> rw [container] at refused ⊢
        all_goals simp only [write, assignIn, refused]
  | cons key' rest ih =>
      have unshared : st.look (containerFor key) = containerFor key :=
        st.look_container (branch_containerFor key).contained
      rcases assign_made key with ⟨suits, taken⟩ | ⟨fault, misfit, refused⟩
      · have free : next (containerFor key) key = .ok .null := by
          cases digits : isDigits key.toList with
          | false => simp [containerFor, digits, next, Value.entries?, Value.lookup]
          | true =>
              obtain ⟨i, _, indexed⟩ := suits digits
              simp [containerFor, digits, next, indexed, Except.map]
        have nothing : isContainer (st.look .null) = false := rfl
        obtain ⟨made, assigned⟩ := taken .null
        have onward : (st.write (containerFor key) (key :: key' :: rest) v).fault =
            (st.write (containerFor key') (key' :: rest) v).fault := by
          rw [write]
          simp only [unshared, free, nothing, assigned]
          rfl
        rw [onward]
        rcases ih key' with ⟨done, others⟩ | ⟨k, member, fault, misfit, failed⟩
        · exact .inl ⟨done, List.forall_mem_cons.mpr ⟨suits, others⟩⟩
        · exact .inr ⟨k, List.mem_cons_of_mem key member, fault, misfit, failed⟩
      · refine .inr ⟨key, List.mem_cons_self, fault, misfit, ?_⟩
        have list : containerFor key = .list [] := by simp [containerFor, misfit.1]
        rw [write, unshared]
        cases indexed : index key with
        | error early =>
            have first : assign (.list []) key .null = .error early := by simp [assign, indexed, bind, Except.bind]
            obtain rfl := Except.error.inj (first.symm.trans (list ▸ refused .null))
            simp [list, next, indexed, Except.map]
        | ok i =>
            have nothing : isContainer (st.look .null) = false := rfl
            simp [list, next, indexed, Except.map, nothing, list ▸ refused .null]

/-- A write into an empty mapping puts everything in place exactly if every key of digits behind the first one writes an
index up to which a list can be filled. Otherwise it fails at such a key, for the reason why that is none. -/
theorem write_empty_placed_iff (st : Store) (key : String) (rest : List String) (v : Value) :
    ((st.write (.map []) (key :: rest) v).fault = none ↔ ∀ k ∈ rest, Suits k) ∧
      ∀ fault, (st.write (.map []) (key :: rest) v).fault = some fault → ∃ k ∈ rest, Misfit k fault := by
  cases rest with
  | nil => exact ⟨by simp [write, assignIn, assign], fun fault failed => by cases failed⟩
  | cons key' rest =>
      have onward : (st.write (.map []) (key :: key' :: rest) v).fault =
          (st.write (containerFor key') (key' :: rest) v).fault := rfl
      rw [onward]
      rcases st.write_made_cases key' rest v with ⟨done, suits⟩ | ⟨k, member, fault, misfit, failed⟩
      · rw [done]
        refine ⟨by simpa using suits, fun fault failed => ?_⟩
        cases failed
      · rw [failed]
        refine ⟨⟨fun done => ?_, fun suits => absurd (suits k member) (not_suits_of_misfit misfit)⟩, ?_⟩
        · cases done
        · rintro _ ⟨⟩
          exact ⟨k, member, misfit⟩

/-- A superscript is a digit, so that a list is made for it, and it writes no index. -/
theorem superscript_refused :
    isDigits "²".toList = true ∧ (Store.empty.write (.map []) ["a", "²"] (.int 1)).fault = some (.notANumeral "²") ∧
      ¬ Suits "²" := by
  have digits : isDigits "²".toList = true := by decide
  have failed : (Store.empty.write (.map []) ["a", "²"] (.int 1)).fault = some (.notANumeral "²") := by rfl
  refine ⟨digits, failed, fun suits => ?_⟩
  have done := (write_empty_placed_iff .empty "a" ["²"] (.int 1)).1.mpr (by simpa using suits)
  rw [failed] at done
  cases done

/-- Whether a value is built of lists and mappings, with leaves that nothing is written into. -/
inductive Built (st : Store) : Value → Prop where
  | leaf {v : Value} (plain : isContainer (st.look v) = false) : Built st v
  | branch {v : Value} (branch : Branch (st.look v)) (each : ∀ w ∈ (st.look v).held, Built st w) : Built st v

theorem Built.child (built : st.Built v) (isContained : isContainer (st.look v) = true) (key : String) :
    st.Built (st.child v key) := by
  cases built with
  | leaf plain =>
      rw [plain] at isContained
      cases isContained
  | branch _ each =>
      rcases child_held isContained key with member | null | ⟨s, text⟩
      · exact each _ member
      · exact null ▸ .leaf rfl
      · exact text ▸ .leaf rfl

/-- Whether a name in a path comes to a list: the keys before it lead to one, through containers that are there. -/
def Blocked (st : Store) (owner : Value) (path : List String) : Prop :=
  ∃ stem key rest items, path = stem ++ key :: rest ∧ isDigits key.toList = false ∧
    (∀ way, way <+: stem → isContainer (st.look (st.read owner way)) = true) ∧
    st.look (st.read owner stem) = .list items

theorem Blocked.contained (blocked : st.Blocked owner path) : isContainer (st.look owner) = true := by
  obtain ⟨stem, _, _, _, _, _, ways, _⟩ := blocked
  have here := ways [] List.nil_prefix
  rwa [read_nil] at here

theorem Blocked.below (isContained : isContainer (st.look owner) = true)
    (blocked : st.Blocked (st.child owner key) rest) : st.Blocked owner (key :: rest) := by
  obtain ⟨stem, k, rest', items, rfl, name, ways, list⟩ := blocked
  refine ⟨key :: stem, k, rest', items, rfl, name, fun way leads => ?_, by rw [read_cons, list]⟩
  rcases List.prefix_cons_iff.mp leads with rfl | ⟨way', rfl, onward⟩
  · rwa [read_nil]
  · rw [read_cons]
    exact ways way' onward

theorem Blocked.cases (blocked : st.Blocked owner (key :: rest)) :
    (isDigits key.toList = false ∧ ∃ items, st.look owner = .list items) ∨ st.Blocked (st.child owner key) rest := by
  obtain ⟨stem, k, rest', items, parts, name, ways, list⟩ := blocked
  cases stem with
  | nil =>
      obtain ⟨rfl, rfl⟩ := List.cons.inj parts
      rw [read_nil] at list
      exact .inl ⟨name, items, list⟩
  | cons first stem =>
      obtain ⟨rfl, rfl⟩ := List.cons.inj parts
      rw [read_cons] at list
      refine .inr ⟨stem, k, rest', items, rfl, name, fun way leads => ?_, list⟩
      have onward := ways (key :: way) (List.cons_prefix_cons.mpr ⟨rfl, leads⟩)
      rwa [read_cons] at onward

/-- How a write ends: with nothing changed, if the path has no key or a name in it comes to a list, and otherwise in
place, unless a list would become too long. -/
inductive Ending (st : Store) (owner : Value) (path : List String) (v : Value) : Prop where
  | refused (fault : Fault) (short : fault.ofLength = false) (reason : path = [] ∨ st.Blocked owner path)
      (written : st.write owner path v = ⟨owner, st, some fault⟩)
  | admitted (free : ¬ (path = [] ∨ st.Blocked owner path))
      (onlyLong : ∀ fault, (st.write owner path v).fault = some fault → Overlong path fault)

end Store

end GraphGateway
