import GraphGateway.Loading.Dotted
import GraphGateway.Loading.Files
import GraphGateway.Text.Blank
import GraphGateway.Text.Lines

/-!
# Package manifests

What a package declares about itself when it is installed. Its version is read off the lines of its own
file, without loading it: a line `NAME = value` gives a variable.
-/

namespace GraphGateway

open Text

/-- The declaration of a package. -/
structure Manifest where
  name : String
  version : Option String
  /-- The directory that holds the modules of the package. -/
  directory : String
  /-- The modules that are left out. -/
  excluded : List String
  entryPoints : List (String × List String)
  deriving Repr, DecidableEq

namespace Manifest

/-- A value without the quotes around it: single ones first, then double ones. -/
def unquote (value : List Char) : List Char :=
  trimBy (· = '"') (trimBy (· = '\'') value)

/-- The value that a line gives to a variable. Between the name, the sign and the value there is one space
each. -/
def assigned? (key : String) (line : List Char) : Option String := do
  let (name, rest) ← cut ' ' (trim line)
  let (sign, value) ← cut ' ' rest
  if name = key.toList ∧ sign = ['='] then some (String.ofList (unquote value)) else none

/-- The value of a variable in the text of a file: what the first line that sets it gives. -/
def valueOf (key : String) (text : String) : Option String :=
  (lines text.toList).findSome? (assigned? key)

def packageDirectory : String := "src/" ++ Dotted.gateway

def packageFile : String := "__init__.py"

private def pathOf : Value → Except Fault String
  | .text file => .ok (Location.join packageDirectory file)
  | .bytes _ => .error (.misuse .mixedPath)
  | v => .error (.misuse (.notPathPart v.shortKind))

def readVariable (t : FileTree) (root : String) (file : Value) (key : String) :
    Except Fault (Option String) := do
  pure (valueOf key (← t.read root (← pathOf file)))

def read (t : FileTree) (root : String) : Except Fault Manifest := do
  let version ← readVariable t root (.text packageFile) "VERSION"
  pure { name := Dotted.gateway
         version
         directory := "src"
         excluded := ["test", "test.*"]
         entryPoints := [("console_scripts", [Dotted.gateway ++ "=" ++ Dotted.gateway ++ ".cli:main"])] }

end Manifest

end GraphGateway
