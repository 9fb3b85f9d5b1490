import GraphGateway.Loading.Loader
import GraphGateway.Proofs.Package.Search

/-!
# Modules that are remembered

A module that was loaded from a file is remembered by its path from the root. While files come, change and go, an
identifier of that path gives this very module, and nothing is run again. Otherwise the first file that is there is run,
and what cannot be loaded is not remembered, so that it is tried again.
-/

namespace GraphGateway.Loader

/-- A call of the importer: how the files are when it is made, and what it asks for. -/
structure Call where
  files : FileTree
  identifier : String

/-- Whether a call asks for the module of a path from the root. -/
def Call.asksFor (directory path : String) (c : Call) : Bool :=
  isPathIdentifier c.identifier && Location.absolute directory c.identifier = path

/-- What a call gives, and what is remembered then. -/
def Call.answer (directory : String) (c : Call) (m : Memory) : Except Fault Module × Memory :=
  importer c.files directory c.identifier m

def memoryAfter (directory : String) (m : Memory) : List Call → Memory
  | [] => m
  | c :: rest => memoryAfter directory (c.answer directory m).2 rest

/-- The module that the first of some calls gets which asks for a path and gets one. -/
def firstLoaded? (directory path : String) (m : Memory) : List Call → Option Module
  | [] => none
  | c :: rest =>
    (if c.asksFor directory path then (c.answer directory m).1.toOption else none).or
      (firstLoaded? directory path (c.answer directory m).2 rest)

/-- The file that is taken for a path: the one of the path itself, or the one with the suffix, or that of a directory. -/
inductive Takes (t : FileTree) (path : String) : String → Content → Prop
  | itself {content : Content} (there : t.content? path = some content) : Takes t path path content
  | suffixed {content : Content} (bare : t.content? path = none) (there : t.content? (path ++ ".py") = some content) :
      Takes t path (path ++ ".py") content
  | package {content : Content} (bare : t.content? path = none) (suffixed : t.content? (path ++ ".py") = none)
      (there : t.content? (Location.join path "__init__.py") = some content) :
      Takes t path (Location.join path "__init__.py") content

/-- Whether no file is there for a path, or the one that is taken has a suffix of no module. -/
inductive Unloadable (t : FileTree) (path : String) : Prop
  | missing (bare : t.content? path = none) (suffixed : t.content? (path ++ ".py") = none)
      (package : t.content? (Location.join path "__init__.py") = none)
  | formless {file : String} {content : Content} (taken : Takes t path file content) (formless : form? file = none)

theorem locate_cases (t : FileTree) (path : String) :
    (locate t path = none ∧ t.content? path = none ∧ t.content? (path ++ ".py") = none ∧
        t.content? (Location.join path "__init__.py") = none) ∨
      ∃ file content, locate t path = some (file, content) ∧ Takes t path file content := by
  simp only [locate, choices, List.findSome?_cons, List.findSome?_nil]
  cases bare : t.content? path with
  | some content => exact .inr ⟨_, _, rfl, .itself bare⟩
  | none =>
      cases suffixed : t.content? (path ++ ".py") with
      | some content => exact .inr ⟨_, _, rfl, .suffixed bare suffixed⟩
      | none =>
          cases package : t.content? (Location.join path "__init__.py") with
          | some content => exact .inr ⟨_, _, rfl, .package bare suffixed package⟩
          | none => exact .inl ⟨rfl, rfl, rfl, rfl⟩

section Call

variable {directory : String} {c : Call} {m : Memory}

theorem asksFor_iff {path : String} : c.asksFor directory path = true ↔
    isPathIdentifier c.identifier = true ∧ Location.absolute directory c.identifier = path := by
  simp only [Call.asksFor, Bool.and_eq_true, decide_eq_true_eq]

/-- A call for a path recalls its module, or is refused, or loads it from a file. -/
theorem answer_cases {path : String} (asks : c.asksFor directory path = true) :
    (∃ found, m.modules.lookup path = some found ∧ c.answer directory m = (.ok found, m)) ∨
      m.modules.lookup path = none ∧
        ((Unloadable c.files path ∧ c.answer directory m = (.error (notFound c.identifier), m)) ∨
          ∃ file content form, Takes c.files path file content ∧ form? file = some form ∧
            c.answer directory m = loadFile path file form content m) := by
  obtain ⟨named, rfl⟩ := asksFor_iff.mp asks
  rw [Call.answer, importer, if_pos named, importFile]
  cases known : m.modules.lookup (Location.absolute directory c.identifier) with
  | some found => exact .inl ⟨found, rfl, rfl⟩
  | none =>
      refine .inr ⟨rfl, ?_⟩
      dsimp only
      rcases locate_cases c.files (Location.absolute directory c.identifier) with
        ⟨nowhere, bare, suffixed, package⟩ | ⟨file, content, located, taken⟩
      · rw [nowhere]
        exact .inl ⟨.missing bare suffixed package, rfl⟩
      · rw [located]
        dsimp only
        cases formed : form? file with
        | none => exact .inl ⟨.formless taken formed, rfl⟩
        | some form => exact .inr ⟨file, content, form, taken, formed, rfl⟩

theorem answer_dotted (dotted : isPathIdentifier c.identifier = false) :
    c.answer directory m = (Dotted.load c.identifier, m) := by
  rw [Call.answer, importer, if_neg (Bool.eq_false_iff.mp dotted)]

/-- Loading a file runs it once. The module is remembered if that succeeds. -/
theorem loadFile_cases (path file : String) (form : Form) (content : Content) (m : Memory) :
    (∃ exports, run file form content = .ok exports ∧
        loadFile path file form content m =
          let found : Module := ⟨moduleName file, exports, some file, some m.runs.length⟩
          (.ok found, ⟨m.modules ++ [(path, found)], m.runs ++ [file]⟩)) ∨
      ∃ fault, run file form content = .error fault ∧
        loadFile path file form content m = (.error fault.ofTask, ⟨m.modules, m.runs ++ [file]⟩) := by
  rw [loadFile]
  cases run file form content with
  | ok exports => exact .inl ⟨exports, rfl, rfl⟩
  | error fault => exact .inr ⟨fault, rfl, rfl⟩

theorem lookup_answer_of_other {path other : String} (asks : c.asksFor directory path = true) (apart : other ≠ path) :
    (c.answer directory m).2.modules.lookup other = m.modules.lookup other := by
  rcases answer_cases asks with
    ⟨found, _, recalled⟩ | ⟨unknown, ⟨_, refused⟩ | ⟨file, content, form, _, _, loaded⟩⟩
  · rw [recalled]
  · rw [refused]
  · rw [loaded]
    rcases loadFile_cases path file form content m with ⟨exports, _, ran⟩ | ⟨fault, _, failed⟩
    · have missed : (other == path) = false := beq_eq_false_iff_ne.mpr apart
      rw [ran, List.lookup_append, List.lookup_cons, missed, List.lookup_nil, Option.or_none]
    · rw [failed]

theorem lookup_answer_of_asks {path : String} (asks : c.asksFor directory path = true) :
    (c.answer directory m).2.modules.lookup path =
      (m.modules.lookup path).or (c.answer directory m).1.toOption := by
  rcases answer_cases asks with
    ⟨found, known, recalled⟩ | ⟨unknown, ⟨_, refused⟩ | ⟨file, content, form, _, _, loaded⟩⟩
  · rw [recalled, known, Option.some_or]
  · rw [refused, unknown]
    rfl
  · rw [loaded]
    rcases loadFile_cases path file form content m with ⟨exports, _, ran⟩ | ⟨fault, _, failed⟩
    · rw [ran, List.lookup_append, List.lookup_cons_self]
      rfl
    · rw [failed, unknown]
      rfl

theorem lookup_answer (directory path : String) (c : Call) (m : Memory) :
    (c.answer directory m).2.modules.lookup path = (m.modules.lookup path).or
      (if c.asksFor directory path then (c.answer directory m).1.toOption else none) := by
  cases asks : c.asksFor directory path with
  | true => exact lookup_answer_of_asks asks
  | false =>
      rw [if_neg Bool.false_ne_true, Option.or_none]
      cases named : isPathIdentifier c.identifier with
      | false => rw [answer_dotted named]
      | true =>
          have own : c.asksFor directory (Location.absolute directory c.identifier) = true :=
            asksFor_iff.mpr ⟨named, rfl⟩
          refine lookup_answer_of_other own fun same => ?_
          rw [same, own] at asks
          cases asks

end Call

theorem lookup_memoryAfter (directory path : String) (m : Memory) (calls : List Call) :
    (memoryAfter directory m calls).modules.lookup path =
      (m.modules.lookup path).or (firstLoaded? directory path m calls) := by
  induction calls generalizing m with
  | nil => rw [memoryAfter, firstLoaded?, Option.or_none]
  | cons c rest ih => rw [memoryAfter, ih, lookup_answer, firstLoaded?, Option.or_assoc]

theorem firstLoaded?_concat (directory path : String) (m : Memory) (before : List Call) (c : Call) :
    firstLoaded? directory path m (before ++ [c]) = (firstLoaded? directory path m before).or
      (if c.asksFor directory path then (c.answer directory (memoryAfter directory m before)).1.toOption else none) := by
  induction before generalizing m with
  | nil => simp only [List.nil_append, firstLoaded?, memoryAfter, Option.none_or, Option.or_none]
  | cons d rest ih => rw [List.cons_append, firstLoaded?, ih, firstLoaded?, memoryAfter, Option.or_assoc]

/-- Whether every module that is remembered was made by one of the runs, which was of its file. -/
def Memory.Made (m : Memory) : Prop :=
  ∀ e ∈ m.modules, ∃ n file, e.2.run = some n ∧ e.2.file = some file ∧ m.runs[n]? = some file

theorem Memory.Made.answer {m : Memory} (made : m.Made) (directory : String) (c : Call) :
    (c.answer directory m).2.Made := by
  cases named : isPathIdentifier c.identifier with
  | false =>
      rw [answer_dotted named]
      exact made
  | true =>
      rcases answer_cases (m := m) (asksFor_iff.mpr ⟨named, rfl⟩ : c.asksFor directory _ = true) with
        ⟨found, _, recalled⟩ | ⟨unknown, ⟨_, refused⟩ | ⟨file, content, form, _, _, loaded⟩⟩
      · rw [recalled]
        exact made
      · rw [refused]
        exact made
      · -- A run that is added keeps the numbers of those before it.
        have kept : ∀ e ∈ m.modules, ∃ n of, e.2.run = some n ∧ e.2.file = some of ∧ (m.runs ++ [file])[n]? = some of := by
          intro e member
          obtain ⟨n, of, number, origin, ran⟩ := made e member
          exact ⟨n, of, number, origin, List.getElem?_append_left (List.getElem?_eq_some_iff.mp ran).1 ▸ ran⟩
        rw [loaded]
        rcases loadFile_cases (Location.absolute directory c.identifier) file form content m with
          ⟨exports, _, ran⟩ | ⟨fault, _, failed⟩
        · rw [ran]
          intro e member
          rcases List.mem_append.mp member with earlier | new
          · exact kept e earlier
          · obtain rfl := List.mem_singleton.mp new
            exact ⟨_, file, rfl, rfl, List.getElem?_concat_length⟩
        · rw [failed]
          exact kept

theorem Memory.Made.after {m : Memory} (made : m.Made) (directory : String) (calls : List Call) :
    (memoryAfter directory m calls).Made := by
  induction calls generalizing m with
  | nil => exact made
  | cons c rest ih => exact ih (made.answer directory c)

theorem missingModule_notFound {identifier : String} (named : isPathIdentifier identifier = true) :
    (notFound identifier).missingModule? = some identifier := by
  refine if_neg fun empty => ?_
  rw [String.isEmpty_iff.mp empty] at named
  cases named

/-- A search goes on behind an identifier of a path that nothing is loaded for. -/
theorem probe_notFound {directory : String} {c : Call} {m : Memory} (named : isPathIdentifier c.identifier = true)
    (refused : c.answer directory m = (.error (notFound c.identifier), m)) (category name : String)
    (fallbacks rest : List String) :
    Package.probe (importer c.files directory) category name fallbacks (c.identifier :: rest) m =
      let later := Package.probe (importer c.files directory) category name fallbacks rest m
      { later with attempts := c.identifier :: later.attempts } := by
  have awaited : Package.awaited (importer c.files directory) c.identifier m = (.error (notFound c.identifier), m) := by
    rw [Package.awaited]
    show ((c.answer directory m).1.mapError Fault.ofTask, (c.answer directory m).2) = _
    rw [refused]
    rfl
  have missing := (Package.isMissing_of_named (missingModule_notFound named)).mpr (.inl (Eq.refl c.identifier))
  simp only [Package.probe_cons, awaited, missing, if_true]

/-- In any run of calls, while the files change between them, an identifier of a path gives the module of the first call
that got one for its path, and then nothing is run or remembered. If there was none, the file that is taken for the path
is run once, and its module is a new one, which is remembered if the run succeeds; a run that fails leaves what is
remembered. If no file is there that can be loaded, nothing changes either, and the failure reads as that of a missing
module, so that a search goes on behind it. -/
theorem import_recalls_or_loads (directory : String) (before : List Call) (c : Call)
    (named : isPathIdentifier c.identifier = true) :
    let path := Location.absolute directory c.identifier
    let m := memoryAfter directory {} before
    let known := firstLoaded? directory path {}
    let answer := (c.answer directory m).1
    let next := (c.answer directory m).2
    m.modules.lookup path = known before ∧
    (∀ found, known before = some found → answer = .ok found ∧ next = m) ∧
    (known before = none →
      (Unloadable c.files path ∧ next = m ∧ known (before ++ [c]) = none ∧ ∃ fault, answer = .error fault ∧
        fault.kind = "ModuleNotFoundError" ∧ Package.isMissing fault c.identifier = true ∧
        ∀ category name fallbacks rest,
          Package.probe (importer c.files directory) category name fallbacks (c.identifier :: rest) m =
            let later := Package.probe (importer c.files directory) category name fallbacks rest m
            { later with attempts := c.identifier :: later.attempts }) ∨
      ∃ file content form, Takes c.files path file content ∧ form? file = some form ∧ next.runs = m.runs ++ [file] ∧
        ((∃ found : Module, run file form content = .ok found.exports ∧ found.file = some file ∧
            (∀ e ∈ m.modules, e.2 ≠ found) ∧ answer = .ok found ∧ next.modules = m.modules ++ [(path, found)] ∧
            known (before ++ [c]) = some found) ∨
          ∃ fault, run file form content = .error fault ∧ answer = .error fault.ofTask ∧
            next.modules = m.modules ∧ known (before ++ [c]) = none)) := by
  intro path m known answer next
  have asks : c.asksFor directory path = true := asksFor_iff.mpr ⟨named, rfl⟩
  have remembered : m.modules.lookup path = known before := lookup_memoryAfter directory path {} before
  have later : known (before ++ [c]) = (known before).or answer.toOption :=
    (firstLoaded?_concat directory path {} before c).trans (by rw [if_pos asks])
  refine ⟨remembered, fun found first => ?_, fun none => ?_⟩
  · rcases answer_cases (m := m) asks with ⟨other, there, recalled⟩ | ⟨unknown, _⟩
    · obtain rfl := Option.some.inj ((there.symm.trans remembered).trans first)
      exact Prod.mk.inj recalled
    · cases (unknown.symm.trans remembered).trans first
  · rw [none, Option.none_or] at later
    rcases answer_cases (m := m) asks with
      ⟨other, there, _⟩ | ⟨_, ⟨unloadable, refused⟩ | ⟨file, content, form, taken, formed, loaded⟩⟩
    · cases (there.symm.trans remembered).trans none
    · obtain ⟨fails, keeps⟩ : answer = .error (notFound c.identifier) ∧ next = m := Prod.mk.inj refused
      have missing := (Package.isMissing_of_named (missingModule_notFound named)).mpr (.inl (Eq.refl c.identifier))
      rw [fails] at later
      exact .inl ⟨unloadable, keeps, later, _, fails, rfl, missing, probe_notFound named refused⟩
    · refine .inr ⟨file, content, form, taken, formed, ?_⟩
      rcases loadFile_cases path file form content m with ⟨exports, ran, made⟩ | ⟨fault, failed, kept⟩
      · obtain ⟨gives, leaves⟩ : answer = .ok _ ∧ next = _ := Prod.mk.inj (loaded.trans made)
        rw [gives] at later
        rw [leaves]
        refine ⟨rfl, .inl ⟨_, ran, rfl, fun e member same => ?_, gives, rfl, later⟩⟩
        -- What was remembered before has the number of an earlier run.
        obtain ⟨n, of, number, _, earlier⟩ := Memory.Made.after (m := {}) nofun directory before e member
        have inside := (List.getElem?_eq_some_iff.mp earlier).1
        rw [same] at number
        exact absurd (Option.some.inj number) (Nat.ne_of_gt inside)
      · obtain ⟨gives, leaves⟩ : answer = .error fault.ofTask ∧ next = _ := Prod.mk.inj (loaded.trans kept)
        rw [gives] at later
        rw [leaves]
        exact ⟨rfl, .inr ⟨fault, failed, gives, rfl, later⟩⟩

/-- A directory with a plugin of some version. -/
def plugins (version : String) : FileTree where
  directory := "/srv"
  files := [("/srv/plugins/cache.py", .module [("version", .text version)] .completes)]

/-- Calls for a plugin before it is installed, and then. -/
def installing : List Call :=
  [⟨{ directory := "/srv" }, "./plugins/cache"⟩, ⟨plugins "1.0", "plugins/cache"⟩]

/-- The plugin stays the one that was loaded when another version takes the place of its file. -/
theorem installing_recalled :
    let c : Call := ⟨plugins "2.0", "../srv//plugins/cache"⟩
    let m := memoryAfter "/srv" {} installing
    let found : Module := ⟨"_meshwire_file_cache", [("version", .value (.text "1.0"))],
      some "/srv/plugins/cache.py", some 0⟩
    isPathIdentifier c.identifier = true ∧ m.runs = ["/srv/plugins/cache.py"] ∧
      firstLoaded? "/srv" "/srv/plugins/cache" {} installing = some found ∧
      (c.answer "/srv" m).1 = .ok found ∧ (c.answer "/srv" m).2 = m := by
  intro c m found
  have named : isPathIdentifier c.identifier = true := by decide
  have path : Location.absolute "/srv" c.identifier = "/srv/plugins/cache" := by decide +kernel
  have first : firstLoaded? "/srv" "/srv/plugins/cache" {} installing = some found := by rfl
  have recalled := (import_recalls_or_loads "/srv" installing c named).2.1 found (by rw [path]; exact first)
  exact ⟨named, by decide +kernel, first, recalled⟩

end GraphGateway.Loader
