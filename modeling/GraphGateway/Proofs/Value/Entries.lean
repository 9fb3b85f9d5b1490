import GraphGateway.Value.Entries

/-!
# Names as keys

A text is one key with no other value, so what is put into a list of entries is found under its name, and changes
nothing under another.
-/

namespace GraphGateway

namespace Store

theorem look_empty_ne_text {v : Value} {s : String} (other : v ≠ .text s) : Store.empty.look v ≠ .text s := by
  cases v with
  | shared h => exact nofun
  | part h which => cases which <;> exact nofun
  | _ => exact other

theorem equalWithin_text {v : Value} {s : String} (other : v ≠ .text s) (asKeys : Bool) (n : Nat) :
    Store.empty.equalWithin asKeys n v (.text s) = false ∧ Store.empty.equalWithin asKeys n (.text s) v = false := by
  cases n with
  | zero => exact ⟨rfl, rfl⟩
  | succ n =>
      have looked := look_empty_ne_text other
      unfold equalWithin
      generalize Store.empty.look v = w at looked
      cases w with
      | text t =>
          have apart : t ≠ s := fun same => looked (same ▸ rfl)
          simp [look, apart, apart.symm]
      | _ => simp [look, Value.entries?, numbersEqual, Value.number?]

theorem sameKey_text_self (s : String) : Store.empty.sameKey (.text s) (.text s) = true := by
  have depth : Store.empty.depth (.text s) + Store.empty.depth (.text s) = 1 + 1 := rfl
  simp only [sameKey, depth, equalWithin, look]
  simp

theorem sameKey_of_ne_text {v : Value} {s : String} (other : v ≠ .text s) :
    Store.empty.sameKey v (.text s) = false ∧ Store.empty.sameKey (.text s) v = false := by
  have unequal := equalWithin_text other true
  have apart : identical v (.text s) = false ∧ identical (.text s) v = false := by
    cases v with
    | text t =>
        have apart : t ≠ s := fun same => other (same ▸ rfl)
        simp [identical, apart, apart.symm]
    | _ => exact ⟨rfl, rfl⟩
  simp only [sameKey, apart, unequal, Bool.or_self, and_self]

theorem sameKey_text_iff {v : Value} {s : String} : Store.empty.sameKey v (.text s) = true ↔ v = .text s := by
  constructor
  · intro same
    refine Classical.byContradiction fun other => ?_
    rw [(sameKey_of_ne_text other).1] at same
    cases same
  · rintro rfl
    exact sameKey_text_self s

theorem sameKey_names {a b : Value} (same : Store.empty.sameKey a b = true) (s : String) :
    Store.empty.sameKey a (.text s) = Store.empty.sameKey b (.text s) := by
  rw [Bool.eq_iff_iff, sameKey_text_iff, sameKey_text_iff]
  constructor
  · rintro rfl
    refine Classical.byContradiction fun other => ?_
    rw [(sameKey_of_ne_text other).2] at same
    cases same
  · rintro rfl
    exact sameKey_text_iff.mp same

theorem find_cons (e : Value × α) (rest : List (Value × α)) (key : Value) :
    Store.empty.find? (e :: rest) key =
      if Store.empty.sameKey e.1 key then some e.2 else Store.empty.find? rest key := by
  simp only [find?, List.find?_cons]
  cases Store.empty.sameKey e.1 key <;> rfl

theorem find_append (before after : List (Value × α)) (key : Value) :
    Store.empty.find? (before ++ after) key = (Store.empty.find? before key).or (Store.empty.find? after key) := by
  simp only [find?, List.find?_append]
  cases before.find? fun e => Store.empty.sameKey e.1 key <;> rfl

theorem find_insert (entries : List (Value × α)) (key : Value) (value : α) (s : String) :
    Store.empty.find? (Value.insert entries key value) (.text s) =
      if Store.empty.sameKey key (.text s) then some value else Store.empty.find? entries (.text s) := by
  induction entries with
  | nil => rw [Value.insert, find_cons]
  | cons e rest ih =>
      rw [Value.insert]
      split
      · rename_i same
        rw [find_cons, find_cons, sameKey_names same]
        cases Store.empty.sameKey key (.text s) <;> rfl
      · rename_i other
        rw [find_cons, find_cons, ih]
        cases found : Store.empty.sameKey e.1 (.text s) with
        | false => rfl
        | true =>
            have apart : key ≠ .text s := fun named => other (named ▸ found)
            rw [(sameKey_of_ne_text apart).1]
            rfl

end Store

namespace Value

/-- A value unless it is null. -/
def given? : Value → Option Value
  | .null => none
  | v => some v

theorem given?_of_ne_null {v : Value} (something : v ≠ .null) : v.given? = some v := by
  cases v with
  | null => exact absurd rfl something
  | _ => rfl

theorem entries_of_falsy {v : Value} (falsy : v.truthy = false) : v.entries?.getD [] = [] := by
  cases v with
  | map entries | external entries _ _ _ | environment entries =>
      rw [List.isEmpty_iff.mp (Bool.not_eq_eq_eq_not.mp falsy)]
      rfl
  | _ => rfl

theorem lookup_insert (entries : List (Value × Value)) (key : String) (v : Value) (name : String) :
    lookup name (insert entries (.text key) v) = if key = name then some v else lookup name entries := by
  induction entries with
  | nil => simp [insert, lookup]
  | cons e rest ih =>
      obtain ⟨k, w⟩ := e
      rw [insert]
      split
      · rename_i same
        obtain rfl : k = .text key := Store.sameKey_text_iff.mp same
        simp only [lookup]
        split <;> rfl
      · rename_i other
        cases k with
        | text k =>
            have apart : k ≠ key := fun same => other (same ▸ Store.sameKey_text_self k)
            simp only [lookup, ih]
            split
            · rename_i same
              rw [if_neg fun found => apart (same.trans found.symm)]
            · rfl
        | _ => exact ih

/-- A key that is put in comes behind the others, unless it is there. -/
theorem keys_insert (entries : List (Value × α)) (key : String) (v : α) :
    (.text key ∈ entries.map (·.1) ∧ (insert entries (.text key) v).map (·.1) = entries.map (·.1)) ∨
      (.text key ∉ entries.map (·.1) ∧
        (insert entries (.text key) v).map (·.1) = entries.map (·.1) ++ [.text key]) := by
  induction entries with
  | nil => exact .inr ⟨nofun, rfl⟩
  | cons e rest ih =>
      rw [insert]
      split
      · rename_i same
        exact .inl ⟨by simp [Store.sameKey_text_iff.mp same], rfl⟩
      · rename_i other
        have apart : .text key ≠ e.1 := fun same => other (Store.sameKey_text_iff.mpr same.symm)
        rcases ih with ⟨there, kept⟩ | ⟨absent, added⟩
        · exact .inl ⟨List.mem_cons_of_mem _ there, by simp [kept]⟩
        · exact .inr ⟨by simpa [apart] using absent, by simp [added]⟩

theorem lookup_isSome_iff (entries : List (Value × Value)) (name : String) :
    (lookup name entries).isSome = true ↔ .text name ∈ entries.map (·.1) := by
  induction entries with
  | nil => simp [lookup]
  | cons e rest ih =>
      obtain ⟨k, v⟩ := e
      cases k with
      | text k =>
          simp only [lookup, List.map_cons, List.mem_cons, text.injEq]
          by_cases same : k = name
          · simp [same]
          · simpa [same, Ne.symm same] using ih
      | _ => simpa [lookup] using ih

theorem lookup_cons_self (name : String) (v : Value) (rest : List (Value × Value)) :
    lookup name ((.text name, v) :: rest) = some v := by
  simp [lookup]

theorem lookup_cons_of_ne {key : Value} {name : String} (other : key ≠ .text name) (v : Value)
    (rest : List (Value × Value)) : lookup name ((key, v) :: rest) = lookup name rest := by
  cases key with
  | text k =>
      have apart : k ≠ name := fun same => other (congrArg text same)
      simp [lookup, apart]
  | _ => rfl

theorem lookup_append (before after : List (Value × Value)) (name : String) :
    lookup name (before ++ after) = (lookup name before).or (lookup name after) := by
  induction before with
  | nil => rfl
  | cons e rest ih =>
      obtain ⟨key, v⟩ := e
      rw [List.cons_append]
      by_cases same : key = .text name
      · rw [same, lookup_cons_self, lookup_cons_self]
        rfl
      · rw [lookup_cons_of_ne same, lookup_cons_of_ne same, ih]

theorem mem_of_lookup {entries : List (Value × Value)} {name : String} {v : Value}
    (found : lookup name entries = some v) : (.text name, v) ∈ entries := by
  induction entries with
  | nil => cases found
  | cons e rest ih =>
      obtain ⟨k, w⟩ := e
      by_cases same : k = .text name
      · subst same
        rw [lookup_cons_self] at found
        cases found
        exact List.mem_cons_self
      · rw [lookup_cons_of_ne same] at found
        exact List.mem_cons_of_mem _ (ih found)

theorem lookup_pairwise {R : Value → Value → Prop} (symm : ∀ v w, R v w → R w v) {entries : List (Value × Value)}
    (apart : (entries.map (·.2)).Pairwise R) {first second : String} (differ : first ≠ second) {v w : Value}
    (found : lookup first entries = some v) (other : lookup second entries = some w) : R v w := by
  induction entries with
  | nil => cases found
  | cons e rest ih =>
      obtain ⟨k, x⟩ := e
      obtain ⟨here, later⟩ := List.pairwise_cons.mp apart
      have held : ∀ {name u}, lookup name rest = some u → R x u := fun found =>
        here _ (List.mem_map_of_mem (f := (·.2)) (mem_of_lookup found))
      by_cases atFirst : k = .text first
      · have notSecond : k ≠ .text second := by
          rintro rfl
          exact differ (text.inj atFirst).symm
        rw [atFirst, lookup_cons_self] at found
        rw [lookup_cons_of_ne notSecond] at other
        obtain rfl := Option.some.inj found
        exact held other
      · rw [lookup_cons_of_ne atFirst] at found
        by_cases atSecond : k = .text second
        · rw [atSecond, lookup_cons_self] at other
          obtain rfl := Option.some.inj other
          exact symm _ _ (held found)
        · rw [lookup_cons_of_ne atSecond] at other
          exact ih later found other

theorem lookup_of_mem {entries : List (Value × Value)} (distinct : (entries.map (·.1)).Nodup) {name : String}
    {v : Value} (member : (.text name, v) ∈ entries) : lookup name entries = some v := by
  induction entries with
  | nil => cases member
  | cons e rest ih =>
      obtain ⟨k, w⟩ := e
      obtain ⟨absent, others⟩ := List.nodup_cons.mp distinct
      rcases List.mem_cons.mp member with here | later
      · obtain ⟨rfl, rfl⟩ := Prod.mk.inj here
        simp [lookup]
      · have apart : k ≠ .text name := fun same => absent (List.mem_map.mpr ⟨_, later, same.symm⟩)
        cases k with
        | text k =>
            have other : k ≠ name := fun same => apart (congrArg text same)
            simpa [lookup, other] using ih others later
        | _ => exact ih others later

end Value

end GraphGateway
