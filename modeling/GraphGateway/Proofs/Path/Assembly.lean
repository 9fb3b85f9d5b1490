import GraphGateway.Proofs.Path.Landing
import GraphGateway.Proofs.Path.Numeral
import GraphGateway.Proofs.Value.Entries

/-!
# What values at paths assemble to

Values are written at paths into one mapping, which makes mappings and lists on the way. `Assembled` says of a value,
without a write, that it is what parts at paths assemble to: under every key it is what the parts below that key
assemble to. A write of one more part makes of what the others assemble to what all of them do. What `Assembled` says
does not depend on the order of the parts, which shows in nothing but the order of the entries of mappings.
-/

namespace GraphGateway

namespace Path

open Number Text

/-- What is left of a path behind its first key, if that is a given one. -/
def strip (key : String) : List String → Option (List String)
  | [] => none
  | k :: rest => if k = key then some rest else none

theorem strip_eq_some {key : String} {path rest : List String} :
    strip key path = some rest ↔ path = key :: rest := by
  cases path with
  | nil => simp [strip]
  | cons k rest' =>
      by_cases same : k = key
      · simp [strip, same]
      · simp [strip, same]

/-- The parts below a key, with what is left of their paths. -/
def below (key : String) (parts : List (List String × Value)) : List (List String × Value) :=
  parts.filterMap fun part => (strip key part.1).map (·, part.2)

section Below

variable {key : String} {rest : List String} {v : Value} {parts : List (List String × Value)}

theorem mem_below : (rest, v) ∈ below key parts ↔ (key :: rest, v) ∈ parts := by
  simp only [below, List.mem_filterMap, Option.map_eq_some_iff, strip_eq_some]
  constructor
  · rintro ⟨⟨path, w⟩, member, _, rfl, same⟩
    obtain ⟨rfl, rfl⟩ := Prod.mk.inj same
    exact member
  · intro member
    exact ⟨_, member, rest, rfl, rfl⟩

@[simp] theorem below_cons_self : below key ((key :: rest, v) :: parts) = (rest, v) :: below key parts := by
  simp [below, strip]

theorem below_cons_of_ne {other : String} (apart : key ≠ other) :
    below other ((key :: rest, v) :: parts) = below other parts := by
  simp [below, strip, apart]

theorem paths_below : (below key parts).map (·.1) = (parts.map (·.1)).filterMap (strip key) := by
  simp only [below, List.map_filterMap, List.filterMap_map]
  congr 1
  funext part
  simp [Option.map_map, Function.comp_def]

theorem below_perm {parts' : List (List String × Value)} (perm : parts.Perm parts') :
    (below key parts).Perm (below key parts') :=
  perm.filterMap _

theorem below_ne_nil_of_mem (member : (key :: rest, v) ∈ parts) : below key parts ≠ [] :=
  List.ne_nil_of_mem (mem_below.mpr member)

theorem exists_first (inside : ∀ part ∈ parts, part.1 ≠ []) (some : parts ≠ []) :
    ∃ key rest v, (key :: rest, v) ∈ parts := by
  obtain ⟨⟨path, v⟩, member⟩ := List.exists_mem_of_ne_nil parts some
  obtain ⟨key, rest, rfl⟩ := List.exists_cons_of_ne_nil (inside _ member)
  exact ⟨key, rest, v, member⟩

end Below

/-- Whether paths can be written along in any order: none leads through the end of another one, and the keys that
follow one stem are all numerals or all none. At the top, where there is a mapping, they may be mixed. -/
structure Fits (top : Bool) (paths : List (List String)) : Prop where
  apart : paths.Pairwise fun p q => ¬ p <+: q ∧ ¬ q <+: p
  uniform : ∀ stem, (top = true → stem ≠ []) →
    (∀ p ∈ paths, ∀ key, stem ++ [key] <+: p → IsNumeral key) ∨
      ∀ p ∈ paths, ∀ key, stem ++ [key] <+: p → isDigits key.toList = false

namespace Fits

variable {top : Bool} {paths paths' : List (List String)}

theorem perm (fits : Fits top paths) (perm : paths.Perm paths') : Fits top paths' where
  apart := (perm.pairwise_iff And.symm).mp fits.apart
  uniform stem inside := (fits.uniform stem inside).imp (fun all p member => all p (perm.mem_iff.mpr member))
    fun all p member => all p (perm.mem_iff.mpr member)

theorem sublist (fits : Fits top paths) (sublist : paths'.Sublist paths) : Fits top paths' where
  apart := fits.apart.sublist sublist
  uniform stem inside := (fits.uniform stem inside).imp (fun all p member => all p (sublist.subset member))
    fun all p member => all p (sublist.subset member)

theorem below (fits : Fits top paths) (key : String) : Fits false (paths.filterMap (strip key)) where
  apart := by
    refine List.pairwise_filterMap.mpr (fits.apart.imp fun {p q} apart p' first q' second => ?_)
    obtain rfl := strip_eq_some.mp first
    obtain rfl := strip_eq_some.mp second
    simpa [List.cons_prefix_cons] using apart
  uniform stem _ := by
    have onward : ∀ p ∈ paths.filterMap (strip key), ∀ k, stem ++ [k] <+: p →
        ∃ q ∈ paths, (key :: stem) ++ [k] <+: q := by
      intro p member k leads
      obtain ⟨q, member, stripped⟩ := List.mem_filterMap.mp member
      obtain rfl := strip_eq_some.mp stripped
      exact ⟨_, member, List.cons_prefix_cons.mpr ⟨rfl, leads⟩⟩
    rcases fits.uniform (key :: stem) (by simp) with numerals | names
    · refine .inl fun p member k leads => ?_
      obtain ⟨q, member, leads⟩ := onward p member k leads
      exact numerals q member k leads
    · refine .inr fun p member k leads => ?_
      obtain ⟨q, member, leads⟩ := onward p member k leads
      exact names q member k leads

section Cons

variable {key : String} {rest : List String} {parts : List (List String × Value)}
  (fits : Fits top ((key :: rest) :: parts.map (·.1)))
include fits

theorem inside : ∀ part ∈ parts, part.1 ≠ [] := by
  intro part member ended
  have apart := (List.pairwise_cons.mp fits.apart).1 part.1 (List.mem_map_of_mem member)
  exact apart.2 (ended ▸ List.nil_prefix)

theorem onward : Fits false (rest :: (Path.below key parts).map (·.1)) := by
  have stripped := fits.below key
  have first : strip key (key :: rest) = some rest := strip_eq_some.mpr rfl
  rwa [List.filterMap_cons_some first, ← paths_below] at stripped

theorem vacant (last : rest = []) : Path.below key parts = [] := by
  refine List.eq_nil_iff_forall_not_mem.mpr fun part member => ?_
  have apart := (List.pairwise_cons.mp fits.onward.apart).1 part.1 (List.mem_map_of_mem member)
  exact apart.1 (last ▸ List.nil_prefix)

end Cons

end Fits

/-- What a mapping has to do with the parts below its names. -/
structure Named (top : Bool) (parts : List (List String × Value)) (entries : List (Value × Value)) : Prop where
  inside : ∀ part ∈ parts, part.1 ≠ []
  named : ∀ key ∈ entries.map (·.1), ∃ name, key = .text name
  distinct : (entries.map (·.1)).Nodup
  occupied : ∀ name, (Value.lookup name entries).isSome = true ↔ below name parts ≠ []
  nondigital : top = false → ∀ name, below name parts ≠ [] → isDigits name.toList = false

/-- What a list has to do with the parts below its numerals. It is no longer than they need it to be. -/
structure Numbered (parts : List (List String × Value)) (items : List Value) : Prop where
  inside : ∀ part ∈ parts, part.1 ≠ []
  numbered : ∀ key, below key parts ≠ [] → ∃ i < items.length, i < maxFill ∧ key = numeral i
  gap : ∀ i, below (numeral i) parts = [] → items[i]?.getD .null = .null
  last : ∀ i, items.length = i + 1 → below (numeral i) parts ≠ []

/-- Whether a value is what parts at their paths assemble to, at the top or below it. -/
inductive Assembled : Bool → List (List String × Value) → Value → Prop
  | value (v : Value) : Assembled false [([], v)] v
  | map {top : Bool} {parts : List (List String × Value)} {entries : List (Value × Value)}
      (named : Named top parts entries)
      (fields : ∀ name v, Value.lookup name entries = some v → Assembled false (below name parts) v) :
      Assembled top parts (.map entries)
  | list {parts : List (List String × Value)} {items : List Value} (numbered : Numbered parts items)
      (each : ∀ i, below (numeral i) parts ≠ [] →
        Assembled false (below (numeral i) parts) (items[i]?.getD .null)) :
      Assembled false parts (.list items)

/-- Whether a value is a container that a key can be written into. -/
def Takes (top : Bool) (key : String) : Value → Prop
  | .map _ => top = true ∨ isDigits key.toList = false
  | .list _ => IsNumeral key
  | _ => False

/-- A list with an item put in, which is filled up with null as far as needed. -/
def withItem (items : List Value) (i : Nat) (v : Value) : List Value :=
  (items ++ List.replicate (i + 1 - items.length) Value.null).set i v

section Writing

variable {top : Bool} {key : String} {parts : List (List String × Value)} {owner v w : Value} {rest : List String}

theorem length_withItem (items : List Value) (i : Nat) (v : Value) :
    (withItem items i v).length = max items.length (i + 1) := by
  simp [withItem]
  omega

theorem getD_withItem (items : List Value) (i j : Nat) (v : Value) :
    (withItem items i v)[j]?.getD .null = if i = j then v else items[j]?.getD .null := by
  by_cases same : i = j
  · subst same
    have inside : i < (items ++ List.replicate (i + 1 - items.length) Value.null).length := by
      simp
      omega
    rw [withItem, List.getElem?_set, if_pos rfl, if_pos inside, if_pos rfl]
    rfl
  · rw [withItem, List.getElem?_set, if_neg same, if_neg same, List.getElem?_append]
    split
    · rfl
    · rename_i beyond
      rw [List.getElem?_eq_none (Nat.le_of_not_lt beyond), List.getElem?_replicate]
      split <;> rfl

theorem assign_numeral (items : List Value) {i : Nat} (inside : i < maxFill) (v : Value) :
    assign (.list items) (numeral i) v = .ok (.list (withItem items i v)) := by
  have fill : ¬ maxFill < i + 1 - items.length := by omega
  have short : ¬ Nat.pow 2 63 ≤ i + 1 - items.length := by
    have less : maxFill < Nat.pow 2 63 := by decide
    omega
  have placed : setItem items i v = .ok (withItem items i v) := by
    rw [setItem, if_neg short, if_neg fill]
    rfl
  simp only [assign, index_numeral inside, placed, bind, Except.bind, pure, Except.pure]

theorem Takes.container (takes : Takes top key owner) :
    (∃ entries, owner = .map entries) ∨ ∃ items, owner = .list items := by
  cases owner with
  | map entries => exact .inl ⟨entries, rfl⟩
  | list items => exact .inr ⟨items, rfl⟩
  | _ => exact takes.elim

theorem Takes.assigns (takes : Takes top key owner) (w : Value) : ∃ after, assign owner key w = .ok after := by
  cases owner with
  | map entries => exact ⟨_, rfl⟩
  | list items =>
      obtain ⟨i, inside, rfl⟩ := takes
      exact ⟨_, assign_numeral items inside w⟩
  | _ => exact takes.elim

theorem takes_containerFor (either : IsNumeral key ∨ isDigits key.toList = false) :
    Takes false key (containerFor key) := by
  rcases either with numeral | name
  · obtain ⟨i, _, rfl⟩ := id numeral
    rw [containerFor, if_pos (isDigits_numeral i)]
    exact numeral
  · rw [containerFor, name]
    exact .inr name

theorem assembled_containerFor (key : String) : Assembled false [] (containerFor key) := by
  rcases containerFor_cases key with made | made
  · rw [made]
    refine .list ⟨by simp, fun key some => absurd rfl some, fun i _ => rfl, nofun⟩ fun i some => absurd rfl some
  · rw [made]
    refine .map ⟨by simp, by simp, .nil, ?_, fun _ name some => absurd rfl some⟩ nofun
    simp [Value.lookup, below]

/-- What stands under a key is null if there are no parts below it, and else what these assemble to. -/
theorem next_assembled (assembled : Assembled top parts owner) (inside : ∀ part ∈ parts, part.1 ≠ [])
    (takes : Takes top key owner) :
    ∃ v, next owner key = .ok v ∧
      (below key parts = [] ∧ v = .null ∨ below key parts ≠ [] ∧ Assembled false (below key parts) v) := by
  cases assembled with
  | value v => exact absurd rfl (inside _ List.mem_cons_self)
  | @map _ _ entries named fields =>
      refine ⟨_, rfl, ?_⟩
      cases found : Value.lookup key entries with
      | none =>
          refine .inl ⟨Classical.byContradiction fun some => ?_, rfl⟩
          have there := (named.occupied key).mpr some
          simp [found] at there
      | some v => exact .inr ⟨(named.occupied key).mp (by simp [found]), fields key v found⟩
  | @list _ items numbered each =>
      obtain ⟨i, inside, rfl⟩ := takes
      refine ⟨_, by simp only [next, index_numeral inside]; rfl, ?_⟩
      by_cases vacant : below (numeral i) parts = []
      · exact .inl ⟨vacant, numbered.gap i vacant⟩
      · exact .inr ⟨vacant, each i vacant⟩

theorem Named.put {entries : List (Value × Value)} (named : Named top parts entries)
    (name : top = true ∨ isDigits key.toList = false) (rest : List String) (v w : Value) :
    Named top ((key :: rest, v) :: parts) (Value.insert entries (.text key) w) where
  inside part member := by
    rcases List.mem_cons.mp member with rfl | before
    · simp
    · exact named.inside part before
  named k member := by
    rcases Value.keys_insert entries key w with ⟨_, same⟩ | ⟨_, added⟩
    · exact named.named k (same ▸ member)
    · rw [added] at member
      rcases List.mem_append.mp member with before | last
      · exact named.named k before
      · exact ⟨key, List.mem_singleton.mp last⟩
  distinct := by
    rcases Value.keys_insert entries key w with ⟨_, same⟩ | ⟨absent, added⟩
    · exact same ▸ named.distinct
    · rw [added]
      refine List.nodup_append.mpr ⟨named.distinct, by simp, fun k member l last same => absent ?_⟩
      exact (same.trans (List.mem_singleton.mp last)) ▸ member
  occupied other := by
    rw [Value.lookup_insert]
    by_cases same : key = other
    · subst same
      simp
    · rw [if_neg same, below_cons_of_ne same]
      exact named.occupied other
  nondigital below_top other some := by
    by_cases same : key = other
    · subst same
      exact name.resolve_left (by simp [below_top])
    · rw [below_cons_of_ne same] at some
      exact named.nondigital below_top other some

theorem Numbered.put {items : List Value} (numbered : Numbered parts items) {i : Nat} (inside : i < maxFill)
    (rest : List String) (v w : Value) :
    Numbered ((numeral i :: rest, v) :: parts) (withItem items i w) where
  inside part member := by
    rcases List.mem_cons.mp member with rfl | before
    · simp
    · exact numbered.inside part before
  numbered other some := by
    rw [length_withItem]
    by_cases same : numeral i = other
    · exact ⟨i, by omega, inside, same.symm⟩
    · rw [below_cons_of_ne same] at some
      obtain ⟨j, short, small, rfl⟩ := numbered.numbered other some
      exact ⟨j, by omega, small, rfl⟩
  gap j vacant := by
    rw [getD_withItem]
    by_cases same : i = j
    · subst same
      simp at vacant
    · rw [if_neg same]
      rw [below_cons_of_ne fun equal => same (numeral_injective equal)] at vacant
      exact numbered.gap j vacant
  last j length := by
    rw [length_withItem] at length
    by_cases same : i = j
    · subst same
      simp
    · rw [below_cons_of_ne fun equal => same (numeral_injective equal)]
      exact numbered.last j (by omega)

theorem assign_assembled (assembled : Assembled top parts owner) (inside : ∀ part ∈ parts, part.1 ≠ [])
    (takes : Takes top key owner) (added : Assembled false ((rest, v) :: below key parts) w) :
    ∃ after, assign owner key w = .ok after ∧ Assembled top ((key :: rest, v) :: parts) after := by
  cases assembled with
  | value v => exact absurd rfl (inside _ List.mem_cons_self)
  | @map _ _ entries named fields =>
      refine ⟨_, rfl, .map (named.put takes rest v w) fun other x found => ?_⟩
      rw [Value.lookup_insert] at found
      by_cases same : key = other
      · subst same
        rw [if_pos rfl] at found
        obtain rfl := Option.some.inj found
        simpa using added
      · rw [if_neg same] at found
        rw [below_cons_of_ne same]
        exact fields other x found
  | @list _ items numbered each =>
      obtain ⟨i, small, rfl⟩ := takes
      refine ⟨_, assign_numeral items small w, .list (numbered.put small rest v w) fun j some => ?_⟩
      rw [getD_withItem]
      by_cases same : i = j
      · subst same
        simpa using added
      · have apart : numeral i ≠ numeral j := fun equal => same (numeral_injective equal)
        rw [below_cons_of_ne apart] at some ⊢
        rw [if_neg same]
        exact each j some

theorem Fits.either {path : List String} {paths : List (List String)} (fits : Fits false ((key :: path) :: paths)) :
    IsNumeral key ∨ isDigits key.toList = false :=
  (fits.uniform [] nofun).imp (fun numerals => numerals _ List.mem_cons_self key (by simp))
    fun names => names _ List.mem_cons_self key (by simp)

theorem takes_assembled (assembled : Assembled false parts w) (some : parts ≠ [])
    (fits : Fits false ((key :: rest) :: parts.map (·.1))) : Takes false key w := by
  obtain ⟨first, after, x, member⟩ := exists_first fits.inside some
  have occupied := below_ne_nil_of_mem member
  have listed : first :: after ∈ (key :: rest) :: parts.map (·.1) :=
    List.mem_cons_of_mem _ (List.mem_map_of_mem (f := (·.1)) member)
  cases assembled with
  | value v => exact absurd rfl (fits.inside _ List.mem_cons_self)
  | map named _ =>
      have name := named.nondigital rfl first occupied
      rcases fits.uniform [] nofun with numerals | names
      · obtain ⟨i, _, rfl⟩ := numerals _ listed first (by simp)
        rw [isDigits_numeral] at name
        cases name
      · exact .inr (names _ List.mem_cons_self key (by simp))
  | list numbered _ =>
      obtain ⟨i, _, _, rfl⟩ := numbered.numbered first occupied
      rcases fits.uniform [] nofun with numerals | names
      · exact numerals _ List.mem_cons_self key (by simp)
      · have name := names _ listed (numeral i) (by simp)
        rw [isDigits_numeral] at name
        cases name

end Writing

end Path

open GraphGateway.Path

namespace Store

variable (st : Store) {top : Bool} {key : String} {owner : Value}

section Steps

variable (takes : Takes top key owner) {key' : String} {rest : List String} {v inner after : Value}
include takes

theorem assignIn_taken (assigned : assign owner key inner = .ok after) :
    st.assignIn owner key inner = ⟨after, st, none⟩ := by
  rcases takes.container with ⟨entries, rfl⟩ | ⟨items, rfl⟩
  · simp only [assignIn, assigned]
  · simp only [assignIn, assigned]

/-- Where nothing stands under a key, a container is made, which the rest of the path is written into. -/
theorem write_vacant (stands : next owner key = .ok .null)
    (wrote : st.write (containerFor key') (key' :: rest) v = ⟨inner, st, none⟩)
    (assigned : assign owner key inner = .ok after) :
    st.write owner (key :: key' :: rest) v = ⟨after, st, none⟩ := by
  have looked : st.look owner = owner := by
    rcases takes.container with ⟨entries, rfl⟩ | ⟨items, rfl⟩ <;> rfl
  have nothing : isContainer (st.look .null) = false := rfl
  obtain ⟨_, free⟩ := takes.assigns .null
  simp [write, looked, stands, nothing, free, wrote, st.assignIn_taken takes assigned]

theorem write_onward {found : Value} (stands : next owner key = .ok found) (takes' : Takes false key' found)
    (wrote : st.write found (key' :: rest) v = ⟨inner, st, none⟩) (assigned : assign owner key inner = .ok after) :
    st.write owner (key :: key' :: rest) v = ⟨after, st, none⟩ := by
  have looked : st.look owner = owner := by
    rcases takes.container with ⟨entries, rfl⟩ | ⟨items, rfl⟩ <;> rfl
  have back : putBack owner key inner = after := by
    rcases takes.container with ⟨entries, rfl⟩ | ⟨items, rfl⟩
    · simp only [putBack, assigned, Except.toOption, Option.getD_some]
    · simp only [putBack, assigned, Except.toOption, Option.getD_some]
  have container : isContainer (st.look found) = true := by
    rcases takes'.container with ⟨entries, rfl⟩ | ⟨items, rfl⟩ <;> rfl
  simp only [write, looked, stands, container, wrote, back, if_true]
  rcases takes'.container with ⟨entries, rfl⟩ | ⟨items, rfl⟩ <;> rfl

end Steps

/-- A write into a container that takes the first key, along a path that fits with those of the parts that are there,
touches nothing that is shared, and the container is afterwards what the parts assemble to together with the value. -/
theorem write_assembled {rest : List String} {v : Value} {parts : List (List String × Value)}
    (assembled : Assembled top parts owner) (takes : Takes top key owner)
    (fits : Fits top ((key :: rest) :: parts.map (·.1))) :
    ∃ after, st.write owner (key :: rest) v = ⟨after, st, none⟩ ∧
      Assembled top ((key :: rest, v) :: parts) after := by
  induction rest generalizing key top parts owner with
  | nil =>
      have alone : Assembled false (([], v) :: below key parts) v := by
        rw [fits.vacant rfl]
        exact .value v
      obtain ⟨after, assigned, grown⟩ := assign_assembled assembled fits.inside takes alone
      exact ⟨after, st.assignIn_taken takes assigned, grown⟩
  | cons key' rest ih =>
      obtain ⟨found, stands, ⟨vacant, rfl⟩ | ⟨some, there⟩⟩ := next_assembled assembled fits.inside takes
      · have alone : Fits false [key' :: rest] := fits.onward.sublist (by simp)
        obtain ⟨inner, wrote, made⟩ := ih (assembled_containerFor key') (takes_containerFor alone.either) alone
        obtain ⟨after, assigned, grown⟩ := assign_assembled assembled fits.inside takes (vacant ▸ made)
        exact ⟨after, st.write_vacant takes stands wrote assigned, grown⟩
      · have takes' := takes_assembled there some fits.onward
        obtain ⟨inner, wrote, more⟩ := ih there takes' fits.onward
        obtain ⟨after, assigned, grown⟩ := assign_assembled assembled fits.inside takes more
        exact ⟨after, st.write_onward takes stands takes' wrote assigned, grown⟩

end Store

end GraphGateway
