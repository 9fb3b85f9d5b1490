import GraphGateway.Loading.Module
import GraphGateway.Package.Candidates
import GraphGateway.Text.Infix

/-!
# Looking up extensions

The candidates are imported one after the other until one of them is there. A candidate that is there but
fails to load ends the search.
-/

namespace GraphGateway.Package

/-- What a search gives, the identifiers that were imported for it, and the memory of the importer. -/
structure Search (α μ : Type) where
  result : Except Fault α
  attempts : List String
  memory : μ

/-- Whether a failure to import an identifier means that there is no such module, rather than that
something else is missing. -/
def isMissing (fault : Fault) (identifier : String) : Bool :=
  match fault.missingModule? with
  | some name => identifier = name || (name ++ ".").toList.isPrefixOf identifier.toList
  | none =>
    let message := fault.message.toList
    Text.isInfix ("No module named '" ++ identifier ++ "'").toList message ||
      Text.isInfix "Could not locate module".toList message

/-- What a module offers: its default export, or the first of some other exports, or itself. -/
def offered (m : Module) (fallbacks : List String) : Export :=
  (("default" :: fallbacks).map m.get |>.find? fun e => !e.isNull).getD (.module m.name)

/-- Import identifiers one after the other until one is there. -/
def probe (importer : Importer μ) (category name : String) (fallbacks : List String) :
    List String → μ → Search Export μ
  | [], m => ⟨.error (.packageNotFound category name), [], m⟩
  | c :: rest, m =>
    match importer c m with
    | (.ok found, m) => ⟨.ok (offered found fallbacks), [c], m⟩
    | (.error fault, m) =>
      let fault := fault.ofTask
      if isMissing fault c then
        let later := probe importer category name fallbacks rest m
        { later with attempts := c :: later.attempts }
      else ⟨.error (.packageLoad category name fault), [c], m⟩

/-- Search for an extension of a name in a category. -/
def find (importer : Importer μ) (memory : μ) (scope directory : String) (fallbacks : List String)
    (name category : Value) : Search Export μ :=
  match nameOf name, nameOf category with
  | .ok name, .ok category =>
    probe importer category name fallbacks (candidates scope directory name category) memory
  | .error fault, _ | _, .error fault => ⟨.error fault, [], memory⟩

end GraphGateway.Package
