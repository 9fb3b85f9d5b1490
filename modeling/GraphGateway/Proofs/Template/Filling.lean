import GraphGateway.Template.Interpolate
import GraphGateway.Proofs.Value.Entries
import Mathlib.Data.List.TakeWhile

/-!
# What templates are filled with

A placeholder has its braces at its two ends and none between them, so that no two placeholders of a template overlap.
A template falls into all of its placeholders and the texts between them, and filling it puts the texts of the values
where the placeholders stand.
-/

namespace GraphGateway

open Text

namespace Template

variable {s occurrence occurrence' before after body rest rest' path path' : List Char} {c : Char}

/-- Whether a text is a placeholder with a path: a brace, white space, a text without braces or white space, which is
the path, white space and a brace. -/
structure IsPlaceholder (s path : List Char) : Prop where
  shape : ∃ before after, s = '{' :: (before ++ path ++ after ++ ['}']) ∧
    (∀ c ∈ before, isBlank c = true) ∧ ∀ c ∈ after, isBlank c = true
  nonempty : path ≠ []
  plain : ∀ c ∈ path, isBlank c = false ∧ c ≠ '{' ∧ c ≠ '}'

theorem isPathChar_iff : isPathChar c = true ↔ isBlank c = false ∧ c ≠ '{' ∧ c ≠ '}' := by
  simp [isPathChar, and_assoc]

theorem takeWhile_run {p : Char → Bool} {run : List Char} (all : ∀ c ∈ run, p c = true) (stop : p c = false)
    (rest : List Char) : (run ++ c :: rest).takeWhile p = run ∧ (run ++ c :: rest).dropWhile p = c :: rest := by
  rw [List.takeWhile_append_of_pos all, List.dropWhile_append_of_pos all]
  simp [stop]

theorem isPlaceholder_of_read (read : placeholder? s = some (path, rest)) :
    ∃ body, s = body ++ rest ∧ IsPlaceholder ('{' :: body) path := by
  unfold placeholder? at read
  simp only at read
  split at read
  · rename_i ended
    split at read
    · cases read
    · rename_i nonempty
      obtain ⟨rfl, rfl⟩ := Prod.mk.inj (Option.some.inj read)
      refine ⟨s.takeWhile isBlank ++ (s.dropWhile isBlank).takeWhile isPathChar ++
        ((s.dropWhile isBlank).dropWhile isPathChar).takeWhile isBlank ++ ['}'], ?_, ⟨_, _, rfl, ?_, ?_⟩, ?_, ?_⟩
      · simp only [List.append_assoc, List.singleton_append, ← ended, List.takeWhile_append_dropWhile]
      · exact fun c member => List.mem_takeWhile_imp member
      · exact fun c member => List.mem_takeWhile_imp member
      · simpa using nonempty
      · exact fun c member => isPathChar_iff.mp (List.mem_takeWhile_imp member)
  · cases read

theorem IsPlaceholder.read (found : IsPlaceholder ('{' :: body) path) (rest : List Char) :
    placeholder? (body ++ rest) = some (path, rest) := by
  obtain ⟨⟨before, after, shape, blanks, blanks'⟩, nonempty, plain⟩ := found
  obtain ⟨first, others, rfl⟩ := List.exists_cons_of_ne_nil nonempty
  obtain rfl := (List.cons.inj shape).2
  have start := (takeWhile_run blanks (plain first List.mem_cons_self).1 (others ++ after ++ '}' :: rest)).2
  have chars : ∀ c ∈ first :: others, isPathChar c = true := fun c member => isPathChar_iff.mpr (plain c member)
  have ended : (after ++ '}' :: rest).dropWhile isBlank = '}' :: rest := (takeWhile_run blanks' (by decide) rest).2
  have stop : ∃ c rest', after ++ '}' :: rest = c :: rest' ∧ isPathChar c = false := by
    cases after with
    | nil => exact ⟨_, _, rfl, by decide⟩
    | cons c more =>
        have blank : isBlank c = true := blanks' c List.mem_cons_self
        exact ⟨_, _, rfl, by simp [isPathChar, blank]⟩
  obtain ⟨c, rest', same, stop⟩ := stop
  have run := takeWhile_run chars stop rest'
  simp only [placeholder?, List.append_assoc, List.cons_append, List.nil_append] at start ⊢
  rw [start, same, ← List.cons_append, run.1, run.2, ← same, ended]
  simp

theorem scanFrom_eq (skip : Nat) (s : List Char) : scanFrom skip s = scan (s.drop skip) := by
  induction s generalizing skip with
  | nil => cases skip <;> rfl
  | cons c rest ih =>
      cases skip with
      | zero => rfl
      | succ skip => exact ih skip

theorem scan_placeholder (found : IsPlaceholder occurrence path) (rest : List Char) :
    scan (occurrence ++ rest) = .hole path :: scan rest := by
  obtain ⟨before, after, rfl, _⟩ := found.shape
  rw [scan, List.cons_append, scanFrom, if_pos rfl, found.read rest]
  simp only
  rw [scanFrom_eq, List.length_append, Nat.add_sub_cancel, List.drop_left]

theorem scan_char (none : ∀ occurrence path, IsPlaceholder occurrence path → ¬ occurrence <+: c :: rest) :
    scan (c :: rest) = .char c :: scan rest := by
  rw [scan, scanFrom]
  split
  · rename_i brace
    split
    · rename_i read
      obtain ⟨body, rfl, found⟩ := isPlaceholder_of_read read
      exact absurd (by rw [brace]; exact List.prefix_append ('{' :: body) _) (none _ _ found)
    · rfl
  · rfl

theorem IsPlaceholder.ends (found : IsPlaceholder s path) :
    ∃ inner, s = '{' :: (inner ++ ['}']) ∧ '{' ∉ inner ∧ '}' ∉ inner := by
  obtain ⟨⟨before, after, rfl, blanks, blanks'⟩, _, plain⟩ := found
  have nowhere : ∀ brace, isBlank brace = false → brace ∉ path → brace ∉ before ++ path ++ after := by
    intro brace visible outside member
    rcases List.mem_append.mp member with member | member
    · rcases List.mem_append.mp member with member | member
      · exact Bool.false_ne_true (visible.symm.trans (blanks brace member))
      · exact outside member
    · exact Bool.false_ne_true (visible.symm.trans (blanks' brace member))
  exact ⟨before ++ path ++ after, rfl, nowhere '{' (by decide) fun member => (plain _ member).2.1 rfl,
    nowhere '}' (by decide) fun member => (plain _ member).2.2 rfl⟩

theorem IsPlaceholder.path_eq (found : IsPlaceholder s path) (found' : IsPlaceholder s path') : path = path' := by
  obtain ⟨inner, rfl, _⟩ := found.ends
  exact congrArg Prod.fst (Option.some.inj ((found.read []).symm.trans (found'.read [])))

theorem IsPlaceholder.same (found : IsPlaceholder occurrence path) (found' : IsPlaceholder occurrence' path')
    (whole : occurrence ++ rest = occurrence' ++ rest') : occurrence = occurrence' := by
  obtain ⟨inner, rfl, _, unclosed⟩ := found.ends
  obtain ⟨inner', rfl, _, unclosed'⟩ := found'.ends
  have behind : inner ++ '}' :: rest = inner' ++ '}' :: rest' := by simpa using whole
  have upTo : ∀ inner rest, '}' ∉ inner → (inner ++ '}' :: rest).takeWhile (· != '}') = inner := by
    intro inner rest unclosed
    have other : ∀ c ∈ inner, (c != '}') = true := fun c member => bne_iff_ne.mpr fun brace => unclosed (brace ▸ member)
    exact (takeWhile_run other rfl rest).1
  rw [← upTo inner rest unclosed, behind, upTo inner' rest' unclosed']

theorem IsPlaceholder.apart (found : IsPlaceholder occurrence path) (found' : IsPlaceholder occurrence' path')
    (whole : occurrence ++ rest = before ++ (occurrence' ++ rest')) (behind : before ≠ []) : occurrence <+: before := by
  rcases List.append_eq_append_iff.mp whole with ⟨between, rfl, _⟩ | ⟨common, rfl, overlapping⟩
  · exact List.prefix_append occurrence between
  · cases common with
    | nil => exact ⟨[], by simp⟩
    | cons c common =>
        -- The text that the two have in common begins with a brace, and stands inside the first one.
        obtain ⟨inner, shape, unopened, _⟩ := found.ends
        obtain ⟨inner', rfl, _⟩ := found'.ends
        obtain ⟨rfl, _⟩ := List.cons.inj overlapping
        obtain ⟨first, before, rfl⟩ := List.exists_cons_of_ne_nil behind
        have inside : '{' ∈ inner ++ ['}'] := by
          rw [← (List.cons.inj shape).2]
          simp
        simp [unopened] at inside

/-- Whether a text has no placeholder in it. -/
def Free (s : List Char) : Prop :=
  ∀ occurrence path, IsPlaceholder occurrence path → ¬ occurrence <:+: s

theorem Free.mono (free : Free s) (inside : body <:+: s) : Free body :=
  fun occurrence path found within => free occurrence path found (within.trans inside)

theorem free_of_missing_brace (missing : '{' ∉ s ∨ '}' ∉ s) : Free s := by
  intro occurrence path found inside
  obtain ⟨inner, rfl, _⟩ := found.ends
  have opened : '{' ∈ s := inside.subset (by simp)
  have closed : '}' ∈ s := inside.subset (by simp)
  exact missing.elim (· opened) (· closed)

theorem scan_free (free : Free s)
    (onward : rest = [] ∨ ∃ occurrence path, IsPlaceholder occurrence path ∧ occurrence <+: rest) :
    scan (s ++ rest) = s.map .char ++ scan rest := by
  induction s with
  | nil => rfl
  | cons c s ih =>
      rw [List.cons_append, scan_char, ih (free.mono (List.suffix_cons c s).isInfix), List.map_cons, List.cons_append]
      intro occurrence path found begins
      refine free occurrence path found (List.IsPrefix.isInfix ?_)
      rcases onward with rfl | ⟨occurrence', path', found', after', rfl⟩
      · rwa [List.append_nil] at begins
      · obtain ⟨after, whole⟩ := begins
        exact found.apart found' whole (List.cons_ne_nil c s)

/-- A placeholder of a template with its path and the text between the placeholder before it and itself. -/
structure Part where
  gap : List Char
  occurrence : List Char
  path : List Char

/-- Whether a template falls into some placeholders, with texts without placeholders before them, and an ending. -/
inductive Cut : List Char → List Part → List Char → Prop where
  | ending {s : List Char} (free : Free s) : Cut s [] s
  | part {s gap occurrence path ending : List Char} {parts : List Part} (free : Free gap)
      (found : IsPlaceholder occurrence path) (onward : Cut s parts ending) :
      Cut (gap ++ (occurrence ++ s)) (⟨gap, occurrence, path⟩ :: parts) ending

variable {parts : List Part} {ending : List Char}

theorem Cut.extend (cut : Cut s parts ending)
    (nothing : ∀ occurrence path, IsPlaceholder occurrence path → ¬ occurrence <+: c :: s) :
    ∃ parts ending, Cut (c :: s) parts ending := by
  have extended : ∀ gap, gap <+: s → Free gap → Free (c :: gap) := by
    intro gap starts free occurrence path found inside
    rcases List.infix_cons_iff.mp inside with begins | inside
    · exact nothing occurrence path found (begins.trans (List.cons_prefix_cons.mpr ⟨rfl, starts⟩))
    · exact free occurrence path found inside
  cases cut with
  | ending free => exact ⟨[], c :: s, .ending (extended s List.prefix_rfl free)⟩
  | part free found onward =>
      exact ⟨_ :: _, ending, .part (extended _ (List.prefix_append ..) free) found onward⟩

theorem exists_cut (s : List Char) : ∃ parts ending, Cut s parts ending := by
  induction length : s.length using Nat.strong_induction_on generalizing s with
  | _ n ih =>
      cases s with
      | nil => exact ⟨[], [], .ending (free_of_missing_brace (.inl List.not_mem_nil))⟩
      | cons c s =>
          by_cases first : ∃ occurrence path, IsPlaceholder occurrence path ∧ occurrence <+: c :: s
          · obtain ⟨occurrence, path, found, rest, whole⟩ := first
            obtain ⟨inner, shape, _⟩ := found.ends
            have shorter : rest.length < n := by
              rw [← length, ← whole, shape, List.length_append, List.length_cons]
              omega
            obtain ⟨parts, ending, cut⟩ := ih rest.length shorter rest rfl
            have nothing : Free [] := free_of_missing_brace (.inl List.not_mem_nil)
            exact ⟨⟨[], occurrence, path⟩ :: parts, ending, whole ▸ .part nothing found cut⟩
          · obtain ⟨parts, ending, cut⟩ := ih s.length (length ▸ Nat.lt_succ_self s.length) s rfl
            exact cut.extend fun occurrence path found begins => first ⟨occurrence, path, found, begins⟩

theorem Cut.scan_eq (cut : Cut s parts ending) :
    scan s = (parts.flatMap fun part => part.gap.map .char ++ [.hole part.path]) ++ ending.map .char := by
  induction cut with
  | @ending s free =>
      have whole := scan_free free (.inl rfl)
      rwa [List.append_nil, show scan [] = [] from rfl, List.append_nil] at whole
  | part free found onward ih =>
      rw [scan_free free (.inr ⟨_, _, found, List.prefix_append ..⟩), scan_placeholder found, ih]
      simp

/-- Every placeholder of a template is one of those that it is cut into. -/
theorem Cut.meets (cut : Cut s parts ending) (found : IsPlaceholder occurrence path)
    (whole : s = before ++ (occurrence ++ after)) :
    ∃ sooner part later, parts = sooner ++ part :: later ∧ occurrence = part.occurrence ∧ path = part.path ∧
      before = (sooner.flatMap fun part => part.gap ++ part.occurrence) ++ part.gap := by
  induction cut generalizing before with
  | ending free => exact absurd ⟨before, after, by rw [whole, List.append_assoc]⟩ (free occurrence path found)
  | @part s' _ _ _ _ _ free found' onward ih =>
      rcases List.append_eq_append_iff.mp whole with ⟨between, rfl, onwards⟩ | ⟨between, shape, onwards⟩
      · by_cases here : between = []
        · subst here
          obtain rfl := found.same found' onwards.symm
          exact ⟨[], _, _, rfl, rfl, found.path_eq found', by simp⟩
        · obtain ⟨between', rfl⟩ := found'.apart found onwards here
          have later : s' = between' ++ (occurrence ++ after) := by simpa using onwards
          obtain ⟨sooner, part, later, rfl, same, path_eq, start⟩ := ih later
          exact ⟨_ :: sooner, part, later, rfl, same, path_eq, by simp [start]⟩
      · by_cases here : between = []
        · subst here
          obtain rfl := found.same found' onwards
          exact ⟨[], _, _, rfl, rfl, found.path_eq found', by simpa using shape.symm⟩
        · obtain ⟨between', rfl⟩ := found.apart found' onwards here
          exact absurd ⟨before, between', by rw [shape, List.append_assoc]⟩ (free occurrence path found)

theorem whole?_eq_some : whole? s = some path ↔ IsPlaceholder (trim s) path := by
  unfold whole?
  generalize trim s = trimmed
  constructor
  · intro read
    split at read
    · split at read
      · rename_i found
        obtain rfl := Option.some.inj read
        obtain ⟨body, rfl, placeholder⟩ := isPlaceholder_of_read found
        rwa [List.append_nil]
      · cases read
    · cases read
  · intro found
    obtain ⟨inner, rfl, _⟩ := found.ends
    have read := found.read []
    rw [List.append_nil] at read
    simp only [read]

/-- The entries of a source that is a mapping. -/
def Source.entries? (st : Store) : Source → Option (List (Value × Value))
  | .request r => some r.entries
  | .plain v => (st.look v).entries?

end Template

namespace Store

open Template

variable {st : Store} {environment : List (String × String)} {source : Source} {entries : List (Value × Value)}

/-- The text that a value puts into a template; null has none. -/
def inserted (st : Store) : Value → List Char
  | .null => []
  | v => (st.text v).toList

theorem pieceText_hole (st : Store) (scope : Value) (path : List Char) :
    st.pieceText scope (.hole path) = st.inserted (st.read scope (Path.keys (String.ofList path))) := by
  rw [pieceText, hole]
  cases st.read scope (Path.keys (String.ofList path)) <;> rfl

/-- A cut template with the texts of the values in the places of the placeholders. -/
def filled (st : Store) (scope : Value) (parts : List Part) (ending : List Char) : List Char :=
  (parts.flatMap fun part => part.gap ++ st.inserted (st.read scope (Path.keys (String.ofList part.path)))) ++ ending

theorem filled_eq (st : Store) (scope : Value) {s : List Char} {parts : List Part} {ending : List Char}
    (cut : Cut s parts ending) : (scan s).flatMap (st.pieceText scope) = st.filled scope parts ending := by
  have chars : ∀ s : List Char, (s.map Piece.char).flatMap (st.pieceText scope) = s := by
    intro s
    rw [List.flatMap_map]
    exact List.flatMap_singleton' s
  rw [cut.scan_eq, List.flatMap_append, List.flatMap_assoc, chars, filled]
  simp only [List.flatMap_append, chars, List.flatMap_singleton, pieceText_hole]

/-- The scope of a mapping has the entries of the mapping, and the variables of the process, unless the mapping names
them. -/
theorem scope_mapping (mapping : source.entries? st = some entries) (environment : List (String × String)) :
    ∃ scope, source.scope st environment = .ok (.map scope) ∧
      ∀ name, Value.lookup name scope =
        (Value.lookup name entries).or (if name = "env" then some (.environment environment) else none) := by
  have made : source.scope st environment = .ok (.map (if (Value.lookup "env" entries).isSome then entries
      else entries ++ [(.text "env", .environment environment)])) := by
    cases source with
    | request r =>
        obtain rfl := Option.some.inj mapping
        rfl
    | plain v =>
        have mapping : (st.look v).entries? = some entries := mapping
        simp only [Source.scope, entriesOf, mapping, bind, Except.bind, pure, Except.pure]
  refine ⟨_, made, fun name => ?_⟩
  by_cases env : name = "env"
  · subst env
    split
    · rename_i named
      rw [Option.or_of_isSome named]
    · rw [Value.lookup_append]
      rfl
  · have unnamed : Value.lookup name [(.text "env", .environment environment)] = none :=
      Value.lookup_cons_of_ne (fun same => env (Value.text.inj same).symm) _ []
    rw [if_neg env, Option.or_none]
    split
    · rfl
    · rw [Value.lookup_append, unnamed, Option.or_none]

/-- A template that is a placeholder, but for white space around it, stands for the value at its path. Any other one is
filled: it is cut into all of its placeholders and the texts between them, and the texts of the values are put into the
places of the placeholders, as they are. The values are those of a mapping, with the variables of the process beside
them; nothing is put into the mapping itself, and only a value is given back. -/
theorem interpolate_fills (mapping : source.entries? st = some entries) (environment : List (String × String))
    (template : String) :
    ∃ scope, source.scope st environment = .ok (.map scope) ∧
      (∀ name, Value.lookup name scope =
        (Value.lookup name entries).or (if name = "env" then some (.environment environment) else none)) ∧
      (∀ path, IsPlaceholder (Text.trim template.toList) path →
        st.interpolate environment source (.text template) =
          .ok (st.read (.map scope) (Path.keys (String.ofList path)))) ∧
      ((∀ path, ¬ IsPlaceholder (Text.trim template.toList) path) →
        (∃ parts ending, Cut template.toList parts ending) ∧
          ∀ parts ending, Cut template.toList parts ending →
            (∀ before occurrence after path, template.toList = before ++ (occurrence ++ after) →
              IsPlaceholder occurrence path →
              ∃ sooner part later, parts = sooner ++ part :: later ∧ occurrence = part.occurrence ∧ path = part.path ∧
                before = (sooner.flatMap fun part => part.gap ++ part.occurrence) ++ part.gap) ∧
            st.interpolate environment source (.text template) =
              .ok (.text (String.ofList (st.filled (.map scope) parts ending)))) := by
  obtain ⟨scope, made, names⟩ := scope_mapping mapping environment
  have filled : st.interpolate environment source (.text template) = .ok (st.fill (.map scope) template) := by
    simp only [interpolate, made, bind, Except.bind, pure, Except.pure]
  refine ⟨scope, made, names, fun path lone => ?_, fun text => ⟨exists_cut _, fun parts ending cut => ⟨?_, ?_⟩⟩⟩
  · rw [filled, fill, whole?_eq_some.mpr lone]
    rfl
  · exact fun before occurrence after path whole found => cut.meets found whole
  · have several : whole? template.toList = none :=
      Option.eq_none_iff_forall_ne_some.mpr fun path lone => text path (whole?_eq_some.mp lone)
    rw [filled, fill, several, st.filled_eq (.map scope) cut]

/-- A request whose argument reads like a placeholder. -/
def lookalike : Request where
  root := .null
  args := .map [(.text "id", .int 42), (.text "name", .text "\x7bargs.id\x7d")]
  context := .null
  info := .null

/-- The text of an argument is not read again, braces around placeholders are text, and a lone placeholder stands for a
number. -/
theorem lookalike_filled :
    Source.entries? .empty (.request lookalike) = some lookalike.entries ∧
      IsPlaceholder (Text.trim " \x7bargs.id \x7d".toList) "args.id".toList ∧
      Store.empty.interpolate [] (.request lookalike) (.text " \x7bargs.id \x7d") = .ok (.int 42) ∧
      (∀ path, ¬ IsPlaceholder (Text.trim "\x7b \x7bargs.name\x7d\x7b args.id\x7d \x7d".toList) path) ∧
      Cut "\x7b \x7bargs.name\x7d\x7b args.id\x7d \x7d".toList
        [⟨['{', ' '], "\x7bargs.name\x7d".toList, "args.name".toList⟩,
          ⟨[], "\x7b args.id\x7d".toList, "args.id".toList⟩]
        [' ', '}'] ∧
      Store.empty.interpolate [] (.request lookalike) (.text "\x7b \x7bargs.name\x7d\x7b args.id\x7d \x7d") =
        .ok (.text "\x7b \x7bargs.id\x7d42 \x7d") := by
  have mapping : Source.entries? .empty (.request lookalike) = some lookalike.entries := rfl
  have lone : IsPlaceholder (Text.trim " \x7bargs.id \x7d".toList) "args.id".toList := whole?_eq_some.mp (by decide)
  have text : ∀ path, ¬ IsPlaceholder (Text.trim "\x7b \x7bargs.name\x7d\x7b args.id\x7d \x7d".toList) path := by
    intro path found
    have several : whole? "\x7b \x7bargs.name\x7d\x7b args.id\x7d \x7d".toList = none := by decide
    rw [whole?_eq_some.mpr found] at several
    cases several
  have plain : ∀ {path : List Char}, path.all isPathChar = true →
      ∀ c ∈ path, Text.isBlank c = false ∧ c ≠ '{' ∧ c ≠ '}' :=
    fun all c member => isPathChar_iff.mp (List.all_eq_true.mp all c member)
  have name : IsPlaceholder "\x7bargs.name\x7d".toList "args.name".toList :=
    ⟨⟨[], [], by decide, by simp, by simp⟩, by decide, plain (by decide)⟩
  have id : IsPlaceholder "\x7b args.id\x7d".toList "args.id".toList :=
    ⟨⟨[' '], [], by decide, List.forall_mem_singleton.mpr (by decide), by simp⟩, by decide, plain (by decide)⟩
  have free : Free ['{', ' '] ∧ Free [] ∧ Free [' ', '}'] :=
    ⟨free_of_missing_brace (by decide), free_of_missing_brace (by decide), free_of_missing_brace (by decide)⟩
  have cut := Cut.part free.1 name (.part free.2.1 id (.ending free.2.2))
  obtain ⟨_, made, _, value, _⟩ := interpolate_fills mapping [] " \x7bargs.id \x7d"
  obtain ⟨_, made', _, _, filled⟩ := interpolate_fills mapping [] "\x7b \x7bargs.name\x7d\x7b args.id\x7d \x7d"
  cases made
  cases made'
  exact ⟨mapping, lone, (value _ lone).trans rfl, text, cut, ((filled text).2 _ _ cut).2.trans rfl⟩

end Store

end GraphGateway
