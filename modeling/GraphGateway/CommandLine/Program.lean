import GraphGateway.CommandLine.Arguments
import GraphGateway.Defaults
import GraphGateway.Logger
import GraphGateway.Package.Lookup
import GraphGateway.Text.Lines

/-!
# The program

The command line of the gateway: one command lists the modules that are searched for an extension, the
other one searches them. The options of the program stand before the command, those of the command behind
it.
-/

namespace GraphGateway.CommandLine

inductive Outcome where
  | printed (lines : List String)
  /-- The arguments are not understood. -/
  | misused
  /-- The command cannot be carried out. -/
  | refused (message : String)
  /-- The program fails. -/
  | failed (fault : Fault)

namespace Outcome

def exitCode : Outcome → Nat
  | .printed _ => 0
  | .misused => 2
  | .refused _ | .failed _ => 1

/-- The texts that are printed, each of which ends its line. -/
def lines : Outcome → List String
  | .printed lines => lines
  | .refused message => ["Error: " ++ message]
  | .misused | .failed _ => []

/-- The lines that are shown where no styles are. -/
def shown (o : Outcome) : List String :=
  (Text.shownLines (o.lines.flatMap fun line => Text.unstyled line.toList ++ ['\n'])).map String.ofList

end Outcome

inductive Command where
  | candidates
  | find
  deriving Repr, DecidableEq

namespace Command

def all : List Command := [.candidates, .find]

def name : Command → String
  | .candidates => "candidates"
  | .find => "find"

def summary : Command → String
  | .candidates => "List the modules searched for NAME, in order"
  | .find => "Resolve NAME to an importable extension"

def ofName? (name : String) : Option Command :=
  all.find? (·.name = name)

theorem ofName?_name (c : Command) : ofName? c.name = some c := by
  cases c <;> decide +kernel

end Command

def categories : List String := ["handler", "cache", "pubsub", "merger"]

def version : String := "0.1.0"

def versionFlag : String := "--version"
def helpFlag : String := "--help"
def logLevelOption : String := "--log-level"
def scopeOption : String := "--scope"

def programOptions : Options := ⟨[versionFlag, helpFlag], [logLevelOption], false⟩

def commandOptions : Options := ⟨[helpFlag], [scopeOption], true⟩

def programHelp : List String :=
  ["Usage: " ++ Dotted.gateway ++ " [OPTIONS] COMMAND [ARGS]...", "", "Options:",
    "  --version         Show the version and exit.",
    "  --log-level TEXT  Logging level e.g. DEBUG",
    "  --help            Show this message and exit.", "", "Commands:"] ++
  Command.all.map fun c =>
    "  " ++ c.name ++ String.ofList (List.replicate (12 - c.name.length) ' ') ++ c.summary

def commandHelp (c : Command) : List String :=
  ["Usage: " ++ Dotted.gateway ++ " " ++ c.name ++ " [OPTIONS] NAME \x7b" ++
      "|".intercalate categories ++ "\x7d",
    "", "  " ++ c.summary, "", "Options:",
    "  --scope TEXT  Package scope searched first",
    "  --help        Show this message and exit."]

/-- What is printed for a flag of the program. -/
def answerFlag (flag : String) : Outcome :=
  .printed (if flag = versionFlag then [Dotted.gateway ++ ", version " ++ version] else programHelp)

def label : Export → String
  | .value v => v.written
  | .module name => name
  | .stitchingMerger => Dotted.gateway ++ ".gql.merger.stitching_merger"
  | .createCache => Dotted.gateway ++ ".cache_inmemory_lru.create_cache"

structure Context (μ : Type) where
  importer : Importer μ
  memory : μ
  logger : RootLogger
  defaults : Defaults
  directory : String

namespace Command

/-- The other exports that a category is looked for under. -/
def fallbacks (category : String) : List String :=
  if category = "handler" then ["parser"] else []

/-- Carry a command out for a name in a category. -/
def carryOut (context : Context μ) (scope name category : String) : Command → Outcome
  | .candidates => .printed (Package.candidates scope context.directory name category)
  | .find =>
    let search := Package.find context.importer context.memory scope context.directory
      (fallbacks category) (.text name) (.text category)
    match search.result with
    | .ok found => .printed [category ++ " " ++ name ++ ": " ++ label found]
    | .error fault => .refused fault.message

def run (context : Context μ) (c : Command) (arguments : List String) : Outcome :=
  match Arguments.read commandOptions arguments with
  | none => .misused
  | some a =>
    if !a.flags.isEmpty then .printed (commandHelp c)
    else
      match a.rest with
      | [name, category] =>
        if categories.contains category then
          let scope := (a.setting? scopeOption).getD context.defaults.scope
          c.carryOut context scope name category
        else .misused
      | _ => .misused

end Command

/-- Run the program with its arguments. Where no command of a name exists, the flags among the arguments
that start at that name are still answered. -/
def run (context : Context μ) (arguments : List String) : Outcome :=
  match Arguments.read programOptions arguments with
  | none => .misused
  | some a =>
    match a.flags, a.rest with
    | flag :: _, _ => answerFlag flag
    | [], [] => .misused
    | [], name :: more =>
      match Command.ofName? name with
      | none =>
        match Arguments.read programOptions a.rest with
        | some { flags := flag :: _, .. } => answerFlag flag
        | _ => .misused
      | some c =>
        let level := (a.setting? logLevelOption).getD context.defaults.logLevel
        match context.logger.configure (.text level) false with
        | (some fault, _) => .failed fault
        | (none, _) => c.run context more

end GraphGateway.CommandLine
