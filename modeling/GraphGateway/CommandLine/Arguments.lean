import GraphGateway.Text.Lines

/-!
# Arguments

The arguments of a command are told apart into options and the rest. An option is a flag or takes a value,
which follows it or is joined to it by an equals sign. Two dashes alone end the options.
-/

namespace GraphGateway.CommandLine

structure Options where
  flags : List String
  /-- The options that take a value. -/
  settings : List String
  /-- Whether options may stand behind other arguments. -/
  interspersed : Bool

structure Arguments where
  flags : List String := []
  settings : List (String × String) := []
  rest : List String := []
  deriving Repr, DecidableEq

def isOption (argument : String) : Bool :=
  match argument.toList with
  | '-' :: _ :: _ => true
  | _ => false

/-- The name of an option, and the value that is joined to it. -/
def nameAndValue (argument : String) : String × Option String :=
  match Text.cut '=' argument.toList with
  | some (name, value) => (String.ofList name, some (String.ofList value))
  | none => (argument, none)

namespace Arguments

/-- Tell arguments apart; nothing where an option is not known, lacks its value, or has one in vain. -/
def read (options : Options) : List String → Option Arguments
  | [] => some {}
  | argument :: more =>
    if argument = "--" then some { rest := more }
    else if isOption argument then
      let (name, value) := nameAndValue argument
      if options.flags.contains name then
        if value.isSome then none
        else (read options more).map fun a => { a with flags := name :: a.flags }
      else if options.settings.contains name then
        match value, more with
        | some value, more | none, value :: more =>
          (read options more).map fun a => { a with settings := (name, value) :: a.settings }
        | none, [] => none
      else none
    else if options.interspersed then
      (read options more).map fun a => { a with rest := argument :: a.rest }
    else some { rest := argument :: more }

def setting? (a : Arguments) (name : String) : Option String :=
  a.settings.reverse.lookup name

end Arguments

end GraphGateway.CommandLine
