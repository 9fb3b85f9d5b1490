import GraphGateway.Package.Candidates
import GraphGateway.Proofs.Distinct
import GraphGateway.Proofs.Text.Spelling

/-!
# Candidates of one name in many spellings

However a name is spelled, the same modules are tried by convention. Only the name as it stands and its path tell the
spellings apart, and they come last.
-/

namespace GraphGateway

namespace Text

def Word.name (w : Word) : String :=
  String.ofList w.chars

def Spelling.name (s : Spelling) : String :=
  String.ofList s.text

end Text

namespace Package

open Text

theorem casedName_name (s : Spelling) : casedName s.name = "_".intercalate (s.words.map Word.name) := by
  have names : (s.words.map Word.name).map String.toList = s.words.map Word.chars := by
    rw [List.map_map]
    exact List.map_congr_left fun w _ => String.toList_ofList
  rw [← String.toList_inj, casedName, String.toList_ofList, Spelling.name, String.toList_ofList, s.snake_text,
    String.toList_intercalate, names]
  rfl

theorem candidates_split (scope directory name category : String) :
    ∃ own, candidates scope directory name category = (conventional scope name category).eraseDups ++ own ∧
      own.Sublist [name, Location.absolute directory name] := by
  have raw : (if hasSeparator name then [name] else []).Sublist [name] := by
    split
    · exact .refl _
    · exact List.nil_sublist _
  refine ⟨_, by rw [candidates, List.append_assoc, List.eraseDups_append], ?_⟩
  exact (sublist_eraseDups _).trans (List.filter_sublist.trans (raw.append (.refl _)))

/-- Two spellings of the same words have one cased form, the words with underscores between them, and so the same seven
candidates by convention. Their candidates differ in nothing but the names as they stand and their paths. -/
theorem spellings_converge {s t : Spelling} (same : s.words = t.words) (scope directory category : String) :
    let snake := "_".intercalate (s.words.map Word.name)
    let cased := casedName category
    let shared := [scope ++ "." ++ snake, scope ++ "." ++ (snake ++ "_" ++ cased),
      scope ++ "." ++ (cased ++ "_" ++ snake), snake, snake ++ "_" ++ cased, cased ++ "_" ++ snake, cased]
    casedName s.name = snake ∧ casedName t.name = snake ∧
    conventional scope s.name category = shared ∧ conventional scope t.name category = shared ∧
    ∃ own own', candidates scope directory s.name category = shared.eraseDups ++ own ∧
      candidates scope directory t.name category = shared.eraseDups ++ own' ∧
      own.Sublist [s.name, Location.absolute directory s.name] ∧
      own'.Sublist [t.name, Location.absolute directory t.name] := by
  intro snake cased shared
  have first : casedName s.name = snake := casedName_name s
  have second : casedName t.name = snake := by rw [casedName_name, ← same]
  have shares : conventional scope s.name category = shared := by rw [conventional, first]
  have shares' : conventional scope t.name category = shared := by rw [conventional, second]
  obtain ⟨own, split, few⟩ := candidates_split scope directory s.name category
  obtain ⟨own', split', few'⟩ := candidates_split scope directory t.name category
  rw [shares] at split
  rw [shares'] at split'
  exact ⟨first, second, shares, shares', own, own', split, split', few, few'⟩

/-- The words of the name of a cache. -/
def redis : Word := ⟨'r', ['e', 'd', 'i', 's'], by decide, List.all_eq_true.mp rfl, by decide⟩

def v2 : Word := ⟨'v', ['2'], by decide, List.all_eq_true.mp rfl, by decide⟩

def camel : Spelling := ⟨redis, false, [⟨[], v2, true, nofun, by decide⟩]⟩

def parted : Spelling := ⟨redis, true, [⟨['-', '\t', '.'], v2, false, List.all_eq_true.mp rfl, by decide⟩]⟩

theorem camel_parted_converge :
    camel.name = "redisV2" ∧ parted.name = "Redis-\t.v2" ∧ camel.words = parted.words ∧
      casedName camel.name = "redis_v2" ∧ casedName parted.name = "redis_v2" := by
  have converged := spellings_converge (s := camel) (t := parted) rfl "meshwire" "/" "cache"
  exact ⟨by decide, by decide, rfl, converged.1, converged.2.1⟩

end Package

end GraphGateway
