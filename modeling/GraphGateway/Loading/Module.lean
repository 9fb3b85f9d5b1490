import GraphGateway.Fault

/-!
# Modules

A module is a named set of exports. How modules are found is up to an importer, which may remember what it
imported.
-/

namespace GraphGateway

/-- What a module exports: a value, a module inside it, or one of the functions that the gateway itself
offers. -/
inductive Export where
  | value (v : Value)
  | module (name : String)
  | stitchingMerger
  | createCache
  deriving Inhabited

namespace Export

def isNull : Export → Bool
  | .value .null => true
  | _ => false

def toValue : Export → Value
  | .value v => v
  | .module _ => .other "module"
  | .stitchingMerger | .createCache => .other "function"

end Export

/-- A module, with the file that it was loaded from, and which of the runs of files made it. -/
structure Module where
  name : String
  exports : List (String × Export)
  file : Option String := none
  run : Option Nat := none
  deriving Inhabited

def Module.get (m : Module) (name : String) : Export :=
  (m.exports.lookup name).getD (.value .null)

/-- A way to import modules by their identifiers, with a memory of some kind. -/
abbrev Importer (μ : Type) := String → μ → Except Fault Module × μ

end GraphGateway
