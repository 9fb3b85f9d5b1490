import GraphGateway.Fault
import GraphGateway.Text.Case

/-!
# The root logger

All lines of the log go through one logger, which is set up once: a logger that has a handler is left as
it is, unless it is told to start anew. A level is a number or one of some names, in any case.
-/

namespace GraphGateway

def levelNames : List (String × Int) :=
  [("CRITICAL", 50), ("FATAL", 50), ("ERROR", 40), ("WARN", 30), ("WARNING", 30), ("INFO", 20),
    ("DEBUG", 10), ("NOTSET", 0)]

def readLevel : Value → Except Fault Value
  | .text s =>
    let name := String.ofList (Text.upper s.toList)
    match levelNames.lookup name with
    | some n => .ok (.int n)
    | none => .error (.unknownLevel ("Level " ++ name))
  | .bool b => .ok (.bool b)
  | .int n => .ok (.int n)
  | v => .error (.misuse (.badLevel v.written))

/-- The logger that all others hand their lines to. -/
structure RootLogger where
  level : Value := .int 30
  handlers : Nat := 0

namespace RootLogger

/-- Set a logger up. It gets its handler before its level, so that it has one even where the level is
refused; without a level it keeps its own. -/
def configure (logger : RootLogger) (level : Value) (force : Bool) : Option Fault × RootLogger :=
  if logger.handlers ≠ 0 ∧ !force then (none, logger)
  else
    match level with
    | .null => (none, { logger with handlers := 1 })
    | level =>
      match readLevel level with
      | .ok level => (none, ⟨level, 1⟩)
      | .error fault => (some fault, { logger with handlers := 1 })

end RootLogger

end GraphGateway
