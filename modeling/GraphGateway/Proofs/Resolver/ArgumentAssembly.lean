import GraphGateway.Proofs.Path.Contents
import GraphGateway.Proofs.Resolver.ArgumentSharing

/-!
# What arguments are built

Templates are filled and written at their paths one after the other. Where no path leads through the end of another
one, and where the keys that follow each other call for the same containers, the arguments have every value at its
path, and come out the same in whichever order the paths are described.
-/

namespace GraphGateway

open GraphGateway.Path

/-- The keys of a path, none if it has none that can be read. -/
def Store.keysAlong (st : Store) (path : Value) : List String :=
  (st.pathKeys path).toOption.getD []

namespace Resolver

/-- Whether paths can be described side by side. Below the top, where the arguments are a mapping, the keys that follow
a common stem are all numerals, or all no digits. -/
structure Compatible (paths : List (List String)) : Prop where
  nonempty : ∀ p ∈ paths, p ≠ []
  fits : Fits true paths

variable (environment : List (String × String)) (request : Request) (st : Store)

theorem exists_filled (template : Value) : ∃ v, st.interpolate environment (.request request) template = .ok v := by
  cases template with
  | text s => exact ⟨_, rfl⟩
  | _ => exact ⟨_, rfl⟩

/-- What is written for a path and its template. -/
def partOf (e : Value × Value) : List String × Value :=
  (st.keysAlong e.1, (st.interpolate environment (.request request) e.2).toOption.getD .null)

theorem fillEntry_assembled {e : Value × Value} {parts : List (List String × Value)} {built : Value}
    (assembled : Assembled true parts built) (some : st.keysAlong e.1 ≠ [])
    (fits : Fits true (st.keysAlong e.1 :: parts.map (·.1))) :
    ∃ after, fillEntry environment request e.1 e.2 built st = ⟨after, st, none⟩ ∧
      Assembled true (partOf environment request st e :: parts) after := by
  obtain ⟨v, filled⟩ := exists_filled environment request st e.2
  obtain ⟨key, rest, along⟩ := List.exists_cons_of_ne_nil some
  have readable : st.pathKeys e.1 = .ok (key :: rest) := by
    cases read : st.pathKeys e.1 with
    | error fault => simp [Store.keysAlong, read, Except.toOption] at some
    | ok keys =>
        rw [← along, Store.keysAlong, read]
        rfl
  have part : partOf environment request st e = (key :: rest, v) := by
    rw [partOf, along, filled]
    rfl
  have takes : Takes true key built := by
    cases assembled with
    | map => exact .inl rfl
  obtain ⟨after, wrote, grown⟩ := st.write_assembled assembled takes (along ▸ fits)
  exact ⟨after, by rw [fillEntry, filled, readable]; exact wrote, part ▸ grown⟩

/-- Filling paths that fit with those of the parts that are there adds the parts that they are for. -/
theorem fillPaths_assembled {entries : List (Value × Value)} {parts : List (List String × Value)} {built : Value}
    (assembled : Assembled true parts built) (some : ∀ e ∈ entries, st.keysAlong e.1 ≠ [])
    (fits : Fits true (entries.map (st.keysAlong ·.1) ++ parts.map (·.1))) :
    ∃ after, fillPaths environment request entries built st = ⟨.ok after, st⟩ ∧
      Assembled true ((entries.map (partOf environment request st)).reverse ++ parts) after := by
  induction entries generalizing parts built with
  | nil => exact ⟨built, rfl, assembled⟩
  | cons e rest ih =>
      have whole : st.keysAlong e.1 ≠ [] := some e List.mem_cons_self
      have first : Fits true (st.keysAlong e.1 :: parts.map (·.1)) :=
        fits.sublist (.cons_cons _ (List.sublist_append_right _ _))
      obtain ⟨middle, filled, more⟩ := fillEntry_assembled environment request st assembled whole first
      have later : Fits true (rest.map (st.keysAlong ·.1) ++ (partOf environment request st e :: parts).map (·.1)) :=
        fits.perm List.perm_middle.symm
      obtain ⟨after, filled', grown⟩ := ih more (fun e member => some e (List.mem_cons_of_mem _ member)) later
      refine ⟨after, ?_, ?_⟩
      · rw [fillPaths_cons, filled]
        exact filled'
      · simpa using grown

theorem buildArguments_mapping (host : Host) (args : Value) {entries : List (Value × Value)}
    (mapping : (st.look args).entries? = some entries) :
    buildArguments host environment st request args = fillPaths environment request entries (.map []) st := by
  have called : (st.look args).callable = false := by
    cases found : st.look args <;> first | rfl | simp [found, Value.entries?] at mapping
  cases truthy : (st.look args).truthy with
  | true => simp [buildArguments, called, truthy, mapping]
  | false =>
      have none := entries_of_unfilled (.inr truthy)
      rw [mapping] at none
      obtain rfl : entries = [] := none
      simp [buildArguments, called, truthy, fillPaths]

/-- Whether a value is what one of some templates is filled to. -/
def IsFilled (entries : List (Value × Value)) (v : Value) : Prop :=
  ∃ e ∈ entries, st.interpolate environment (.request request) e.2 = .ok v

theorem buildArguments_assembled (host : Host) (args : Value) {entries : List (Value × Value)}
    (mapping : (st.look args).entries? = some entries)
    (compatible : Compatible (entries.map (st.keysAlong ·.1))) :
    ∃ built, buildArguments host environment st request args = ⟨.ok (.map built), st⟩ ∧
      Assembled true (entries.map (partOf environment request st)).reverse (.map built) := by
  have empty : Assembled true [] (.map []) :=
    .map ⟨by simp, by simp, .nil, by simp [Value.lookup, below], nofun⟩ nofun
  have some : ∀ e ∈ entries, st.keysAlong e.1 ≠ [] := fun e member =>
    compatible.nonempty _ (List.mem_map_of_mem (f := (st.keysAlong ·.1)) member)
  obtain ⟨whole, filled, assembled⟩ :=
    fillPaths_assembled environment request st empty some (by simpa using compatible.fits)
  rw [List.append_nil] at assembled
  cases assembled with
  | map named fields =>
      exact ⟨_, (buildArguments_mapping environment request st host args mapping).trans filled, .map named fields⟩

/-- A mapping whose paths can be described side by side gives arguments, without touching what the request holds. Each
template's value stands at its path, and nothing but these values stands anywhere. The order of the paths decides of
nothing but the order of entries: the very same values stand at the same places, so that the arguments are equal if
each of the values counts as the same as itself. -/
theorem buildArguments_assembles (host : Host) (args : Value) {entries : List (Value × Value)}
    (mapping : (st.look args).entries? = some entries)
    (compatible : Compatible (entries.map (st.keysAlong ·.1))) :
    ∃ built, buildArguments host environment st request args = ⟨.ok (.map built), st⟩ ∧
      (∀ e ∈ entries, st.interpolate environment (.request request) e.2 =
        .ok (st.read (.map built) (st.keysAlong e.1))) ∧
      Composed (IsFilled environment request st entries) (.map built) ∧
      ∀ args' entries', (st.look args').entries? = some entries' → entries.Perm entries' →
        ∃ built', buildArguments host environment st request args' = ⟨.ok (.map built'), st⟩ ∧
          Reordered (IsFilled environment request st entries) (.map built) (.map built') ∧
          ((∀ v, IsFilled environment request st entries v → st.Reflexive v) →
            st.equal (.map built) (.map built') = true) := by
  obtain ⟨built, done, assembled⟩ := buildArguments_assembled environment request st host args mapping compatible
  have filled : ∀ part ∈ (entries.map (partOf environment request st)).reverse,
      IsFilled environment request st entries part.2 := by
    intro part member
    obtain ⟨e, described, rfl⟩ := List.mem_map.mp (List.mem_reverse.mp member)
    obtain ⟨v, filled⟩ := exists_filled environment request st e.2
    exact ⟨e, described, by simp [partOf, filled, Except.toOption]⟩
  refine ⟨built, done, fun e member => ?_, composed assembled filled, fun args' entries' mapping' perm => ?_⟩
  · have part := List.mem_reverse.mpr (List.mem_map_of_mem (f := partOf environment request st) member)
    obtain ⟨v, filled⟩ := exists_filled environment request st e.2
    have read : st.read (.map built) (st.keysAlong e.1) = (partOf environment request st e).2 :=
      st.read_assembled assembled _ part
    rw [read, partOf, filled]
    rfl
  · have compatible' : Compatible (entries'.map (st.keysAlong ·.1)) :=
      ⟨fun p member => compatible.nonempty p ((perm.map _).mem_iff.mpr member), compatible.fits.perm (perm.map _)⟩
    obtain ⟨built', done', assembled'⟩ :=
      buildArguments_assembled environment request st host args' mapping' compatible'
    have parts : (entries.map (partOf environment request st)).reverse.Perm
        (entries'.map (partOf environment request st)).reverse :=
      (List.reverse_perm _).trans ((perm.map _).trans (List.reverse_perm _).symm)
    have same := reordered assembled assembled' parts (.inl rfl) filled
    exact ⟨built', done', same, fun reflexive => st.equal_of_reordered reflexive same⟩

/-- A request for the orders of a customer. -/
def ordered : Request where
  root := .null
  args := .map [(.text "id", .int 7)]
  context := .null
  info := .null

/-- A description of two items of a list, the second one first, and of a mapping beside it. -/
def ordering : List (Value × Value) :=
  [(.text "items[1].id", .text "{args.id}"), (.text "where.open", .bool true), (.text "items[0]", .text "all")]

theorem ordering_compatible : Compatible (ordering.map (Store.empty.keysAlong ·.1)) := by
  have paths : ordering.map (Store.empty.keysAlong ·.1) =
      [["items", "1", "id"], ["where", "open"], ["items", "0"]] := by
    decide
  rw [paths]
  refine ⟨by decide, by decide, fun stem inside => ?_⟩
  have one : IsNumeral "1" := ⟨1, by decide, by decide⟩
  have zero : IsNumeral "0" := ⟨0, by decide, by decide⟩
  have opened : Text.isDigits ['o', 'p', 'e', 'n'] = false := by decide
  have identified : Text.isDigits ['i', 'd'] = false := by decide
  rcases stem with _ | ⟨first, _ | ⟨second, _ | ⟨third, tail⟩⟩⟩
  · exact absurd rfl (inside rfl)
  · by_cases items : first = "items"
    · simp [items, one, zero]
    · simp [items, opened]
  · exact .inr (by simp +contextual [identified])
  · simp

theorem ordering_assembled :
    ∃ built built',
      buildArguments Host.empty [] Store.empty ordered (.map ordering) = ⟨.ok (.map built), Store.empty⟩ ∧
      buildArguments Host.empty [] Store.empty ordered (.map ordering.reverse) = ⟨.ok (.map built'), Store.empty⟩ ∧
      Store.empty.read (.map built) ["items", "1", "id"] = .int 7 ∧
      Store.empty.equal (.map built) (.map built') = true := by
  obtain ⟨built, done, read, _, permuted⟩ :=
    buildArguments_assembles [] ordered Store.empty Host.empty (.map ordering) rfl ordering_compatible
  obtain ⟨built', done', _, equal⟩ := permuted (.map ordering.reverse) _ rfl (List.reverse_perm ordering).symm
  refine ⟨built, built', done, done', ?_, equal ?_⟩
  · have value := read (.text "items[1].id", .text "{args.id}") (by simp [ordering])
    exact (Except.ok.inj value).symm
  · rintro v ⟨e, member, filled⟩
    simp only [ordering, List.mem_cons, List.not_mem_nil, or_false] at member
    rcases member with rfl | rfl | rfl
    · obtain rfl := Except.ok.inj filled
      exact fun n => rfl
    · obtain rfl := Except.ok.inj filled
      exact fun n => rfl
    · obtain rfl := Except.ok.inj filled
      exact fun n => rfl

end Resolver

end GraphGateway
