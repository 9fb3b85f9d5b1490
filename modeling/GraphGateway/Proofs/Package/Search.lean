import GraphGateway.Package.Lookup
import GraphGateway.Proofs.Distinct

/-!
# Searching for extensions

A search imports its candidates one after the other, none of them twice, up to the first one that is there or that
fails to load. Which failure ends a search, and which one reads as that of a missing module, is a matter of the name
that the failure gives; of its text only where it gives no name.
-/

namespace GraphGateway.Package

/-- What awaiting an import gives. A failure comes as that of a task. -/
def awaited (importer : Importer μ) (identifier : String) (m : μ) : Except Fault Module × μ :=
  ((importer identifier m).1.mapError Fault.ofTask, (importer identifier m).2)

/-- Whether identifiers that are imported one after the other are all missing, from one memory of the importer to
another. -/
inductive Skips (importer : Importer μ) : List String → μ → μ → Prop
  | nil (m : μ) : Skips importer [] m m
  | cons {c : String} {rest : List String} {m next last : μ} {fault : Fault}
      (failed : awaited importer c m = (.error fault, next)) (missing : isMissing fault c = true)
      (onward : Skips importer rest next last) : Skips importer (c :: rest) m last

/-- Whether an export is the first one of some names that is not nothing, or the module itself if there is none. -/
inductive Offers (m : Module) (names : List String) : Export → Prop
  | named {before after : List String} {name : String} (listed : names = before ++ name :: after)
      (nothing : ∀ n ∈ before, (m.get n).isNull = true) (some : (m.get name).isNull = false) :
      Offers m names (m.get name)
  | itself (nothing : ∀ n ∈ names, (m.get n).isNull = true) : Offers m names (.module m.name)

theorem offers_offered (m : Module) (fallbacks : List String) :
    Offers m ("default" :: fallbacks) (offered m fallbacks) := by
  rw [offered, List.find?_map]
  cases found : ("default" :: fallbacks).find? ((fun e => !e.isNull) ∘ m.get) with
  | none =>
      refine .itself fun n member => ?_
      simpa using List.find?_eq_none.mp found n member
  | some name =>
      obtain ⟨some, before, after, listed, nothing⟩ := List.find?_eq_some_iff_append.mp found
      exact .named listed (by simpa using nothing) (by simpa using some)

section Probe

variable (importer : Importer μ) (category name : String) (fallbacks : List String)

theorem probe_cons (c : String) (rest : List String) (m : μ) :
    probe importer category name fallbacks (c :: rest) m =
      match awaited importer c m with
      | (.ok found, next) => ⟨.ok (offered found fallbacks), [c], next⟩
      | (.error fault, next) =>
        if isMissing fault c then
          let later := probe importer category name fallbacks rest next
          { later with attempts := c :: later.attempts }
        else ⟨.error (.packageLoad category name fault), [c], next⟩ := by
  rw [probe, awaited]
  rcases importer c m with ⟨found | fault, next⟩ <;> rfl

section Skips

variable {importer} {before : List String} {m middle last : μ} (skipped : Skips importer before m middle)
include skipped

theorem Skips.probe (rest : List String) :
    probe importer category name fallbacks (before ++ rest) m =
      let later := probe importer category name fallbacks rest middle
      { later with attempts := before ++ later.attempts } := by
  induction skipped with
  | nil => rfl
  | cons failed missing _ ih => simp [probe_cons, failed, missing, ih]

theorem Skips.exhausts :
    Package.probe importer category name fallbacks before m =
      ⟨.error (.packageNotFound category name), before, middle⟩ := by
  simpa [Package.probe] using skipped.probe category name fallbacks []

theorem Skips.finds {c : String} {found : Module} (there : awaited importer c middle = (.ok found, last))
    (after : List String) :
    Package.probe importer category name fallbacks (before ++ c :: after) m =
      ⟨.ok (offered found fallbacks), before ++ [c], last⟩ := by
  simp only [skipped.probe, probe_cons, there]

theorem Skips.fails {c : String} {fault : Fault} (failed : awaited importer c middle = (.error fault, last))
    (there : isMissing fault c = false) (after : List String) :
    Package.probe importer category name fallbacks (before ++ c :: after) m =
      ⟨.error (.packageLoad category name fault), before ++ [c], last⟩ := by
  simp only [skipped.probe, probe_cons, failed, there, Bool.false_eq_true, if_false]

end Skips

/-- Some candidates are all missing, or there is a first one that is there or fails for another reason. -/
theorem skips_cases (cs : List String) (m : μ) :
    (∃ last, Skips importer cs m last) ∨
      ∃ before c after middle last, cs = before ++ c :: after ∧ Skips importer before m middle ∧
        ((∃ found, awaited importer c middle = (.ok found, last)) ∨
          ∃ fault, awaited importer c middle = (.error fault, last) ∧ isMissing fault c = false) := by
  induction cs generalizing m with
  | nil => exact .inl ⟨m, .nil m⟩
  | cons c rest ih =>
      rcases outcome : awaited importer c m with ⟨fault | found, next⟩
      · cases missing : isMissing fault c with
        | true =>
            rcases ih next with ⟨last, skipped⟩ | ⟨before, d, after, middle, last, rfl, skipped, ended⟩
            · exact .inl ⟨last, .cons outcome missing skipped⟩
            · exact .inr ⟨c :: before, d, after, middle, last, rfl, .cons outcome missing skipped, ended⟩
        | false => exact .inr ⟨[], c, rest, m, next, rfl, .nil m, .inr ⟨fault, outcome, missing⟩⟩
      · exact .inr ⟨[], c, rest, m, next, rfl, .nil m, .inl ⟨found, outcome⟩⟩

end Probe

section Find

variable (importer : Importer μ) (memory : μ) (scope directory : String) (fallbacks : List String)
  (name category : String)

/-- No candidate comes twice. A search imports the candidates in their order, up to and including the first one that is
not missing: if that is there, the search gives the first of its default export and the fallbacks that is not nothing,
or else the module itself, and if it fails, the search fails for that reason. A search finds nothing exactly if all
candidates are missing, and then it has imported all of them. -/
theorem find_takes_first :
    (candidates scope directory name category).Nodup ∧
    let cs := candidates scope directory name category
    let search := find importer memory scope directory fallbacks (.text name) (.text category)
    ((∃ last, Skips importer cs memory last ∧ search = ⟨.error (.packageNotFound category name), cs, last⟩) ∨
      ∃ before c after middle last, cs = before ++ c :: after ∧ Skips importer before memory middle ∧
        search.attempts = before ++ [c] ∧ search.memory = last ∧
        ((∃ found e, awaited importer c middle = (.ok found, last) ∧ Offers found ("default" :: fallbacks) e ∧
            search.result = .ok e) ∨
          ∃ fault, awaited importer c middle = (.error fault, last) ∧ isMissing fault c = false ∧
            search.result = .error (.packageLoad category name fault))) ∧
    (search.result = .error (.packageNotFound category name) ↔ ∃ last, Skips importer cs memory last) := by
  refine ⟨nodup_eraseDups _, ?_⟩
  intro cs search
  have exhausted : ∀ {last}, Skips importer cs memory last →
      search = ⟨.error (.packageNotFound category name), cs, last⟩ :=
    fun skipped => skipped.exhausts category name fallbacks
  rcases skips_cases importer cs memory with
    ⟨last, skipped⟩ | ⟨before, c, after, middle, last, whole, skipped, ⟨found, there⟩ | ⟨fault, failed, there⟩⟩
  · refine ⟨.inl ⟨last, skipped, exhausted skipped⟩, fun _ => ⟨last, skipped⟩, fun _ => ?_⟩
    rw [exhausted skipped]
  · have searched : search = _ := whole ▸ skipped.finds category name fallbacks there after
    refine ⟨.inr ⟨before, c, after, middle, last, whole, skipped, ?_⟩, ?_⟩
    · rw [searched]
      exact ⟨rfl, rfl, .inl ⟨found, _, there, offers_offered found fallbacks, rfl⟩⟩
    · rw [searched]
      refine ⟨nofun, fun ⟨_, all⟩ => ?_⟩
      cases searched.symm.trans (exhausted all)
  · have searched : search = _ := whole ▸ skipped.fails category name fallbacks failed there after
    refine ⟨.inr ⟨before, c, after, middle, last, whole, skipped, ?_⟩, ?_⟩
    · rw [searched]
      exact ⟨rfl, rfl, .inr ⟨fault, failed, there, rfl⟩⟩
    · rw [searched]
      refine ⟨nofun, fun ⟨_, all⟩ => ?_⟩
      cases searched.symm.trans (exhausted all)

end Find

/-- Whether the module of one dotted name lies in that of another, at any depth. -/
def Encloses (outer inner : String) : Prop :=
  ∃ rest, inner = outer ++ "." ++ rest

/-- Whether a part stands somewhere in a text. -/
def Mentions (text part : String) : Prop :=
  ∃ before after, text = before ++ part ++ after

section Missing

variable {fault : Fault} {missing identifier : String}

theorem kind_of_missingModule (named : fault.missingModule? = some missing) : fault.kind = "ModuleNotFoundError" := by
  unfold Fault.missingModule? at named
  split at named
  · rfl
  · rfl
  · cases named

theorem isMissing_of_named (named : fault.missingModule? = some missing) :
    isMissing fault identifier = true ↔ missing = identifier ∨ Encloses missing identifier := by
  simp only [isMissing, named, Bool.or_eq_true, decide_eq_true_eq, List.isPrefixOf_iff_prefix, Encloses,
    eq_comm (a := identifier)]
  refine or_congr_right ⟨fun ⟨rest, whole⟩ => ⟨String.ofList rest, ?_⟩, fun ⟨rest, whole⟩ => ⟨rest.toList, ?_⟩⟩
  · rw [← String.toList_inj, String.toList_append, String.toList_ofList, whole]
  · simp only [← whole, String.toList_append]

theorem isInfix_toList {part text : String} : Text.isInfix part.toList text.toList = true ↔ Mentions text part := by
  rw [Text.isInfix_iff]
  refine ⟨fun ⟨before, after, whole⟩ => ⟨.ofList before, .ofList after, ?_⟩, fun ⟨before, after, whole⟩ =>
    ⟨before.toList, after.toList, ?_⟩⟩
  · simp [← String.toList_inj, whole]
  · simp [whole]

/-- A failure that names no module is taken for that of a missing one by its text alone. -/
theorem isMissing_of_unnamed (unnamed : fault.missingModule? = none) :
    isMissing fault identifier = true ↔ Mentions fault.message ("No module named '" ++ identifier ++ "'") ∨
      Mentions fault.message "Could not locate module" := by
  simp only [isMissing, unnamed, Bool.or_eq_true, isInfix_toList]

end Missing

theorem eq_nil_of_attempts {importer : Importer μ} {category name : String} {fallbacks cs : List String} {m : μ}
    (none : (probe importer category name fallbacks cs m).attempts = []) : cs = [] := by
  cases cs with
  | nil => rfl
  | cons c rest =>
      rw [probe_cons] at none
      split at none
      · cases none
      · split at none <;> cases none

/-- Where an import of a candidate fails, the search fails for that reason and tries no later candidate, or goes on with
the later ones. A failure that names a module ends it exactly if that is neither the candidate nor one that the
candidate lies in, whatever its text says. Any other failure ends it exactly if its text neither says that there is no
module of the candidate's name, nor that some module could not be located. -/
theorem find_stops_iff {importer : Importer μ} {memory : μ} {scope directory : String} {fallbacks : List String}
    {name category : String} {before after : List String} {c : String} {middle last : μ} {fault : Fault}
    (listed : candidates scope directory name category = before ++ c :: after)
    (skipped : Skips importer before memory middle) (failed : awaited importer c middle = (.error fault, last)) :
    let search := find importer memory scope directory fallbacks (.text name) (.text category)
    let stopped : Search Export μ := ⟨.error (.packageLoad category name fault), before ++ [c], last⟩
    let later := probe importer category name fallbacks after last
    (search = stopped ∨ search = { later with attempts := before ++ c :: later.attempts }) ∧
    (∀ missing, fault.missingModule? = some missing → (search = stopped ↔ missing ≠ c ∧ ¬ Encloses missing c)) ∧
    (fault.kind ≠ "ModuleNotFoundError" ∨ fault.missingModule? = none →
      (search = stopped ↔ ¬ Mentions fault.message ("No module named '" ++ c ++ "'") ∧
        ¬ Mentions fault.message "Could not locate module")) := by
  intro search stopped later
  have stops : isMissing fault c = false → search = stopped := by
    intro there
    have searched : search = _ := listed ▸ skipped.fails category name fallbacks failed there after
    exact searched
  have goes : isMissing fault c = true → search = { later with attempts := before ++ c :: later.attempts } := by
    intro missing
    have searched : search = _ := listed ▸ skipped.probe category name fallbacks (c :: after)
    rw [searched, probe_cons]
    simp only [failed, missing, if_true, later]
  have stops_iff : search = stopped ↔ ¬ isMissing fault c = true := by
    refine ⟨fun same missing => ?_, fun there => stops (Bool.not_eq_true _ ▸ there)⟩
    have gone := (goes missing).symm.trans same
    have none : later.attempts = [] := by simpa [stopped] using congrArg Search.attempts gone
    obtain rfl := eq_nil_of_attempts none
    cases congrArg Search.result gone
  refine ⟨?_, fun missing named => ?_, fun other => ?_⟩
  · cases missing : isMissing fault c with
    | false => exact .inl (stops missing)
    | true => exact .inr (goes missing)
  · rw [stops_iff, isMissing_of_named named, not_or]
  · have unnamed : fault.missingModule? = none := by
      refine other.elim (fun other => ?_) id
      cases named : fault.missingModule? with
      | none => rfl
      | some missing => exact absurd (kind_of_missingModule named) other
    rw [stops_iff, isMissing_of_unnamed unnamed, not_or]

/-- An importer of a module that needs a library which is not there, and of one that can stand in for it. -/
def shadowed : Importer Unit := fun identifier m =>
  if identifier = "meshwire.redis" then
    (.error (.raised "ImportError" "Could not locate module 'libredis'" none), m)
  else if identifier = "redis" then (.ok { name := "redis", exports := [] }, m)
  else (.error (.moduleNotFound identifier ("No module named '" ++ identifier ++ "'")), m)

/-- The text of the failure makes the search pass over a module that is there. -/
theorem shadowed_passed_over :
    let search := find shadowed () "meshwire" "/" [] (.text "redis") (.text "cache")
    candidates "meshwire" "/" "redis" "cache" = "meshwire.redis" :: (candidates "meshwire" "/" "redis" "cache").tail ∧
      awaited shadowed "meshwire.redis" () =
        (.error (.raised "ImportError" "Could not locate module 'libredis'" none), ()) ∧
      search ≠ ⟨.error (.packageLoad "cache" "redis" (.raised "ImportError" "Could not locate module 'libredis'" none)),
        ["meshwire.redis"], ()⟩ ∧
      search.attempts = ["meshwire.redis", "meshwire.redis_cache", "meshwire.cache_redis", "redis"] := by
  have listed : candidates "meshwire" "/" "redis" "cache" =
      [] ++ "meshwire.redis" :: (candidates "meshwire" "/" "redis" "cache").tail := by decide +kernel
  have failed : awaited shadowed "meshwire.redis" () =
      (.error (.raised "ImportError" "Could not locate module 'libredis'" none), ()) := rfl
  have stops : find shadowed () "meshwire" "/" [] (.text "redis") (.text "cache") = _ ↔ _ :=
    (find_stops_iff listed (.nil ()) failed).2.2 (.inl (by decide))
  refine ⟨listed, failed, fun stopped => ?_, ?_⟩
  · exact (stops.mp stopped).2 ⟨"", " 'libredis'", by decide⟩
  · decide +kernel

end GraphGateway.Package
