import GraphGateway.CommandLine.Program
import GraphGateway.Loading.Loader

namespace GraphGateway

def readVariables : IO (List (String × String)) := do
  let names := [Defaults.scopeVariable, Defaults.logLevelVariable, Defaults.maxSubscribersVariable,
    Defaults.cacheMaxSizeVariable]
  let values ← names.mapM fun name => do pure ((← IO.getEnv name).map fun value => (name, value))
  pure (values.filterMap id)

end GraphGateway

open GraphGateway

/-- The command line of the gateway. -/
def main (arguments : List String) : IO UInt32 := do
  match Defaults.ofVariables (← readVariables) with
  | .error fault =>
    IO.eprintln fault.message
    pure 1
  | .ok defaults =>
    let directory := (← IO.currentDir).toString
    let importer := Loader.importer { directory } directory
    let outcome := CommandLine.run ⟨importer, {}, {}, defaults, directory⟩ arguments
    outcome.lines.forM IO.println
    match outcome with
    | .failed fault => IO.eprintln fault.message
    | .misused => CommandLine.programHelp.forM IO.eprintln
    | _ => pure ()
    pure (UInt32.ofNat outcome.exitCode)
