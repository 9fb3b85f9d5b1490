import GraphGateway.Proofs.Filter.Dotted
import GraphGateway.Proofs.Store.Loading
import GraphGateway.Proofs.Template.Filling

/-!
# Paths in filters and in templates

A path that begins with a part of a request means the same in a filter, as a chain of attributes, and in a template, as
a placeholder. The two go their ways apart, the one with values that are told apart by identity; they meet wherever no
key is applied to a list or tuple, which have indices for templates and attributes for filters.
-/

namespace GraphGateway

open GraphGateway.Filter GraphGateway.Template

variable {st after : Store} {request : Request} {name : String} {path : List String} {origin v w c c' : Value}

namespace Path

theorem isKeyChar_of_isWordChar {c : Char} (inside : isWordChar c = true) : isKeyChar c = true := by
  have point : c ≠ '.' := ne_of_isWordChar inside (by decide)
  have opened : c ≠ '[' := ne_of_isWordChar inside (by decide)
  have closed : c ≠ ']' := ne_of_isWordChar inside (by decide)
  simp [isKeyChar, point, opened, closed]

theorem keys_identifier {key : String} (identifier : Text.isIdentifier key.toList = true) : keys key = [key] := by
  refine keys_whole ?_ fun c member => isKeyChar_of_isWordChar (characters_of_identifier identifier c member).1
  intro empty
  rw [empty] at identifier
  cases identifier

theorem keys_pathText (identifiers : ∀ word ∈ name :: path, Text.isIdentifier word.toList = true) :
    keys (pathText name path) = name :: path := by
  obtain ⟨first, later⟩ := List.forall_mem_cons.mp identifiers
  have onward : ∀ start, keys (pathText start path) = keys start ++ path := by
    clear identifiers
    induction path with
    | nil => exact fun start => (List.append_nil _).symm
    | cons key rest ih =>
        intro start
        have joined : keys (start ++ "." ++ key) = keys start ++ [key] := by
          rw [keys_append, keys_identifier (later key List.mem_cons_self)]
        have more := ih (fun other member => later other (List.mem_cons_of_mem key member)) (start ++ "." ++ key)
        rwa [joined, List.append_assoc] at more
  rw [onward, keys_identifier first, List.singleton_append]

end Path

namespace Template

def placeholder (name : String) (path : List String) : String :=
  "\x7b" ++ pathText name path ++ "\x7d"

theorem whole?_placeholder (identifiers : ∀ word ∈ name :: path, Text.isIdentifier word.toList = true) :
    whole? (placeholder name path).toList = some (pathText name path).toList := by
  have text : (placeholder name path).toList = '{' :: ((pathText name path).toList ++ ['}']) := by
    simp [placeholder]
  have visible := isBlank_pathText identifiers
  have braces : ∀ brace, isWordChar brace = false → brace ≠ '.' → brace ∉ (pathText name path).toList := by
    intro brace outside undotted
    rw [toList_pathText]
    exact not_mem_dotted outside undotted (identifiers_pathText identifiers)
  rw [text, whole?_eq_some, Text.trim, Text.trimBy_of_none]
  · refine ⟨⟨[], [], by simp, by simp, by simp⟩, ?_, fun c member => ⟨visible c member, ?_, ?_⟩⟩
    · intro empty
      have words := identifiers name List.mem_cons_self
      rw [toList_pathText, dotted, List.append_eq_nil_iff] at empty
      rw [empty.1] at words
      cases words
    · rintro rfl
      exact braces '{' (by decide) (by decide) member
    · rintro rfl
      exact braces '}' (by decide) (by decide) member
  · simp only [List.mem_cons, List.mem_append, List.not_mem_nil, or_false]
    rintro c (rfl | member | rfl)
    · decide
    · exact visible c member
    · decide

end Template

namespace Store

theorem lookup_texts (names : List (String × Value)) (name : String) :
    Value.lookup name (names.map fun n => (.text n.1, n.2)) = names.lookup name := by
  induction names with
  | nil => rfl
  | cons n rest ih =>
      rw [List.map_cons, List.lookup_cons, Value.lookup, ih]
      by_cases here : n.1 = name
      · rw [if_pos here, beq_iff_eq.mpr here.symm]
      · rw [if_neg here, beq_eq_false_iff_ne.mpr (Ne.symm here)]

/-- A placeholder stands for what its path leads to from the part of the request that it names. -/
theorem interpolate_placeholder (environment : List (String × String))
    (identifiers : ∀ word ∈ name :: path, Text.isIdentifier word.toList = true)
    (named : request.names.lookup name = some origin) :
    st.interpolate environment (.request request) (.text (placeholder name path)) = .ok (st.read origin path) := by
  have mapping : Source.entries? st (.request request) = some request.entries := rfl
  obtain ⟨scope, made, names⟩ := scope_mapping mapping environment
  have bound : Value.lookup name scope = some origin := by
    rw [names name, Request.entries, lookup_texts, named, Option.some_or]
  have keys := Path.keys_pathText identifiers
  have start : st.child (.map scope) name = origin := by
    rw [child_entry rfl, bound, Option.getD_some]
  simp only [interpolate, made, bind, Except.bind, pure, Except.pure, fill, whole?_placeholder identifiers, hole,
    String.ofList_toList, keys, read_cons, start]

theorem Closed.read (closed : st.Closed v) (path : List String) : st.Closed (st.read v path) := by
  induction path generalizing v with
  | nil => rwa [read_nil]
  | cons key rest ih =>
      rw [read_cons]
      exact ih (closed.child key)

theorem StandsIn.truthy {base : Nat} (stands : StandsIn base after c c') : c'.truthy = c.truthy := by
  have emptiness : ∀ {α β : Type} {R : α → β → Prop} {l : List α} {l' : List β}, List.Forall₂ R l l' →
      l'.isEmpty = l.isEmpty := by
    intro α β R l l' each
    cases each <;> rfl
  cases stands with
  | same | record | fieldError => rfl
  | list each | tuple each | map each | external each => simp only [Value.truthy, emptiness each]

theorem Individual.truthy (individual : st.Individual after) (closed : st.Closed w)
    (same : after.bare v = st.bare w) : (after.look v).truthy = (st.look w).truthy := by
  have bare : after.bare v = after.bare w := same.trans (individual.bare closed).symm
  rw [← after.truthy_bare v, bare, after.truthy_bare w]
  exact (individual.look closed.own).truthy

end Store

namespace Filter

theorem name_individuate (named : request.names.lookup name = some origin) (closed : st.Closed origin) :
    let scope := st.individuate request.names
    ∃ v, (Expr.name name).eval scope.2 scope.1 = .ok v ∧ scope.2.bare v = st.bare origin := by
  intro scope
  obtain ⟨parts, cells⟩ := st.individuate_stands request.names
  have individual : st.Individual scope.2 := cells
  have related := Store.lookup_stands parts name
  rw [named] at related
  cases bound : scope.1.lookup name with
  | none =>
      rw [bound] at related
      cases related
  | some v =>
      rw [bound] at related
      cases related with
      | some stands =>
          refine ⟨v, ?_, individual.stands closed stands⟩
          simp only [Expr.eval, nameOf, bound]

/-- A path from a part of a request gives a filter, as a chain of attributes, the value that it gives a template, as a
placeholder, unless a key is applied to a list or tuple. The two values are the same without the identity that the
filter tells scalars apart by. If its names are no keywords, and in normal form, then the text of the path is that
filter, and answers by the truth value of what the template gives. -/
theorem chain_gives_placeholder (host : Host) (environment : List (String × String))
    (named : (name, origin) ∈ request.names) (closed : st.Closed origin)
    (identifiers : ∀ key ∈ path, Text.isIdentifier key.toList = true)
    (unhidden : ∀ key ∈ path, key.startsWith "_" = false) (unlisted : st.unlisted origin path = true) :
    let scope := st.individuate request.names
    ∃ v w, (chain name path).eval scope.2 scope.1 = .ok v ∧
      st.interpolate environment (.request request) (.text (placeholder name path)) = .ok w ∧
      scope.2.bare v = st.bare w ∧
      ((∀ key ∈ path, key ∉ keywords ∧ normalName key = key) →
        ∃ source, compile (.text (pathText name path)) = .ok (.expression source (chain name path)) ∧
          (Filter.expression source (chain name path)).test host st request = .ok (.bool (st.look w).truthy)) := by
  intro scope
  have bound : name ∈ scopeNames ∧ request.names.lookup name = some origin := by
    simp only [Request.names, List.mem_cons, Prod.mk.injEq, List.not_mem_nil, or_false] at named
    rcases named with ⟨rfl, rfl⟩ | ⟨rfl, rfl⟩ | ⟨rfl, rfl⟩ | ⟨rfl, rfl⟩ <;> exact ⟨by decide, rfl⟩
  have words : ∀ word ∈ name :: path, Text.isIdentifier word.toList = true :=
    List.forall_mem_cons.mpr ⟨(scopeNames_names name bound.1).1, identifiers⟩
  have individual : st.Individual scope.2 := (st.individuate_stands request.names).2
  obtain ⟨v₀, start, same₀⟩ := name_individuate bound.2 closed
  have shown : "__dict__" ∉ path := fun member => absurd (unhidden _ member) (by decide +kernel)
  obtain ⟨v, value, same⟩ := eval_attributes individual start closed same₀ shown unlisted
  refine ⟨v, st.read origin path, value, Store.interpolate_placeholder environment words bound.2, same, ?_⟩
  intro plain
  have normal : path.map normalName = path :=
    (List.map_congr_left fun key member => (plain key member).2).trans path.map_id
  have names : ∀ key ∈ path, IsName key.toList := fun key member =>
    ⟨identifiers key member, by rw [String.ofList_toList]; exact (plain key member).1⟩
  obtain ⟨source, compiled⟩ := compile_pathText bound.1 names fun key member => by
    rw [(plain key member).2]
    exact unhidden key member
  rw [normal] at compiled
  refine ⟨source, compiled, ?_⟩
  have evaluated : truth scope.2 ((chain name path).eval scope.2 scope.1) =
      .ok (st.look (st.read origin path)).truthy := by
    rw [chain, value, truth, Except.map, individual.truthy (closed.read path) same]
  have answered := test_expression host st request source (chain name path)
  simp only at answered
  rw [answered, evaluated]

def authored : Request where
  root := .map [(.text "author", .record [("name", .text "Ada"), ("born", .int 1815)])]
  args := .map []
  context := .null
  info := .null

/-- The filter refers to the year by an identity of its own, where the template has the year itself. -/
theorem birth_agrees :
    let loaded := authored.load .empty
    ("root", .shared 1) ∈ loaded.1.names ∧ loaded.2.Closed (.shared 1) ∧
    (∀ key ∈ ["author", "born"], Text.isIdentifier key.toList = true ∧ key.startsWith "_" = false ∧
      key ∉ keywords ∧ normalName key = key) ∧
    loaded.2.unlisted (.shared 1) ["author", "born"] = true ∧
    (let scope := loaded.2.individuate loaded.1.names
    ∃ v source, (chain "root" ["author", "born"]).eval scope.2 scope.1 = .ok v ∧ scope.2.bare v = .int 1815 ∧
      loaded.2.interpolate [] (.request loaded.1) (.text "\x7broot.author.born\x7d") = .ok (.int 1815) ∧
      compile (.text "root.author.born") = .ok (.expression source (chain "root" ["author", "born"])) ∧
      (Filter.expression source (chain "root" ["author", "born"])).test Host.empty loaded.2 loaded.1 =
        .ok (.bool true)) := by
  intro loaded
  have named : ("root", .shared 1) ∈ loaded.1.names := List.mem_cons_self
  have whole : ∀ part ∈ authored.names, Store.empty.Holds part.2.handles := by
    simp [authored, Request.names, Value.handles, Value.handlesEntries, Value.handlesFields, Store.Holds]
  have closed := authored.closed_load Store.whole_empty whole _ named
  have plain : ∀ key ∈ ["author", "born"], Text.isIdentifier key.toList = true ∧ key.startsWith "_" = false ∧
      key ∉ keywords ∧ normalName key = key := by decide +kernel
  have unlisted : loaded.2.unlisted (.shared 1) ["author", "born"] = true := by decide
  refine ⟨named, closed, plain, unlisted, ?_⟩
  obtain ⟨v, w, value, filled, same, text⟩ := chain_gives_placeholder Host.empty [] named closed
    (fun key member => (plain key member).1) (fun key member => (plain key member).2.1) unlisted
  obtain ⟨source, compiled, answers⟩ := text fun key member => (plain key member).2.2
  have year : loaded.2.interpolate [] (.request loaded.1) (.text (placeholder "root" ["author", "born"])) =
      .ok (.int 1815) := rfl
  obtain rfl : .int 1815 = w := Except.ok.inj (year.symm.trans filled)
  exact ⟨v, source, value, same, filled, compiled, answers⟩

end Filter

end GraphGateway
