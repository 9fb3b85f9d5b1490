import GraphGateway.Cache.Lru
import GraphGateway.Host
import GraphGateway.Package.Lookup
import GraphGateway.Value.Attribute

/-!
# Backends

The configuration of a gateway names the extensions that it works with: the handler of a source, a cache,
a backend for events, a merger of schemas. Without a name it works with those that it has itself.
-/

namespace GraphGateway.Package

structure Settings where
  scope : String
  cacheMaxSize : Value
  maxSubscribers : Value

/-- What a gateway works with. -/
inductive Backend where
  | offered (e : Export)
  | cache (c : Cache.Lru)
  | broker (maxSubscribers : Value)

/-- Apply what a module offers to a configuration. -/
def apply (host : Host) (settings : Settings) (config : Value) : Export → Except Fault Backend
  | .value (.factory _ name none) => .ok (.offered (.value (.made name config)))
  | .value (.factory _ _ (some (kind, text))) => .error (.raised kind text none)
  | .value (.function id _) => (host.onConfig id config).map fun v => .offered (.value v)
  | .value v => .error (.misuse (.notCallable v.kind))
  | .module _ => .error (.misuse (.notCallable "module"))
  | .createCache => (Cache.Lru.ofConfig config settings.cacheMaxSize).map .cache
  | .stitchingMerger => do
    match ← config.elements with
    | [] => pure (.offered (.value (.other "GraphQLSchema")))
    | source :: _ => .error (.missingAttribute source.owner "schema")

/-- A search whose result is applied to a configuration. -/
private def applied (host : Host) (settings : Settings) (config : Value) (s : Search Export μ) :
    Search Backend μ :=
  { s with result := s.result.bind fun e => (apply host settings config e).mapError Fault.ofTask }

/-- A search that needs no module. -/
private def settled (memory : μ) (result : Except Fault Backend) : Search Backend μ :=
  ⟨result, [], memory⟩

variable (importer : Importer μ) (memory : μ) (host : Host) (settings : Settings) (directory : String)

private def search (fallbacks : List String) (name : Value) (category : String) : Search Export μ :=
  find importer memory settings.scope directory fallbacks (.text name.toText) (.text category)

def handler (name : Value) : Search Backend μ :=
  let s := search importer memory settings directory ["parser"] name "handler"
  { s with result := s.result.map .offered }

/-- The merger of a configuration, or the one that stitches schemas. -/
def merger (config : Value) : Search Backend μ :=
  if config.truthy then
    let s := search importer memory settings directory [] config "merger"
    { s with result := s.result.map .offered }
  else settled memory (.ok (.offered .stitchingMerger))

/-- The name of a cache and its configuration: the first entry of a mapping. -/
private def firstEntry (config : Value) : Except Fault (Value × Value) := do
  match ← config.elements with
  | [] => .error (.outOfRange "list")
  | name :: _ => pure (name, ← Store.empty.require config name)

/-- The cache of a configuration, or one that keeps the entries used last. -/
def cache (config : Value) : Search Backend μ :=
  if config.truthy then
    match firstEntry config with
    | .error fault => settled memory (.error fault)
    | .ok (name, config) =>
      applied host settings config (search importer memory settings directory [] name "cache")
  else settled memory ((Cache.Lru.ofSize settings.cacheMaxSize).map .cache)

/-- The name of a backend for events and its configuration. -/
private def nameAndConfig : Value → Except Fault (Value × Value)
  | .text name => .ok (.text name, .null)
  | v => do
    let name ← Store.empty.require v (.text "name")
    match v.entries? with
    | some entries => pure (name, (Value.lookup "config" entries).getD .null)
    | none => .error (.missingAttribute v.owner "get")

/-- The backend for events of a configuration, or a broker. -/
def pubsub (config : Value) : Search Backend μ :=
  if config.truthy then
    match nameAndConfig config with
    | .error fault => settled memory (.error fault)
    | .ok (name, config) =>
      applied host settings config (search importer memory settings directory [] name "pubsub")
  else settled memory (.ok (.broker settings.maxSubscribers))

end GraphGateway.Package
