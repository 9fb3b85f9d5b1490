import GraphGateway.Loading.Dotted
import GraphGateway.Loading.Files

/-!
# The module loader

An identifier names a file, with or without its suffix, or a directory of a module, or else an installed
module by its dotted name. A module that was loaded from a file is remembered by the path that was asked
for, and its file is not run again.
-/

namespace GraphGateway.Loader

/-- The modules that were loaded from files, by the paths that were asked for, and the files that were run,
also those that failed. -/
structure Memory where
  modules : List (String × Module) := []
  runs : List String := []
  deriving Inhabited

inductive Form where
  | source
  | bytecode
  | library
  deriving Repr, DecidableEq

private def endsIn (suffix path : String) : Bool :=
  suffix.toList.isSuffixOf path.toList

/-- The form of the module that a file may hold, by its suffix. Other files are not run. -/
def form? (file : String) : Option Form :=
  if endsIn ".py" file then some .source
  else if endsIn ".pyc" file then some .bytecode
  else if endsIn ".so" file then some .library
  else none

/-- Whether an identifier names a file. -/
def isPathIdentifier (identifier : String) : Bool :=
  identifier.toList.contains '/' || endsIn ".py" identifier

/-- Whether a value names a file. Bytes do if they start at the root, and otherwise cannot be told. -/
def isPathValue : Value → Except Fault Bool
  | .text s => .ok (isPathIdentifier s)
  | .bytes (47 :: _) => .ok true
  | .bytes _ => .error (.misuse (.notBytes "str"))
  | v => .error (.misuse (.notPath v.shortKind))

def choices (path : String) : List String :=
  [path, path ++ ".py", Location.join path "__init__.py"]

def locate (t : FileTree) (path : String) : Option (String × Content) :=
  (choices path).findSome? fun file => (t.content? file).map fun content => (file, content)

def moduleName (file : String) : String :=
  "_meshwire_file_" ++ Location.stem (Location.base file)

/-- How many bytes a library has at least. -/
def leastLibrary : Nat := 64

/-- Run a text as a module. It exports nothing as source, and is no module in another form. -/
def runText (file s : String) : Form → Except Fault (List (String × Export))
  | .source => .ok []
  | .bytecode =>
    let start := Value.bytes (s.toUTF8.toList.take 4)
    .error (.raised "ImportError"
      ("bad magic number in " ++ Text.quoted (moduleName file) ++ ": " ++ start.written) none)
  | .library =>
    let defect := if s.utf8ByteSize < leastLibrary then "file too short" else "invalid ELF header"
    .error (.raised "ImportError" (file ++ ": " ++ defect) none)

def run (file : String) (form : Form) : Content → Except Fault (List (String × Export))
  | .text s => runText file s form
  | .module exports ending =>
    match ending with
    | .completes => .ok (exports.map fun e => (e.1, .value e.2))
    | .fails kind text => .error (.raised kind text none)
    | .imports name => (Dotted.load name).map fun _ => exports.map fun e => (e.1, .value e.2)
    | .malformed line => .error (.brokenModule (Location.base file) line)

def notFound (identifier : String) : Fault :=
  .moduleNotFound identifier ("No module named '" ++ identifier ++ "'")

/-- Load the module of a path from a file. It is remembered unless running the file fails. -/
def loadFile (path file : String) (form : Form) (content : Content) (m : Memory) :
    Except Fault Module × Memory :=
  let ran := { m with runs := m.runs ++ [file] }
  match run file form content with
  | .error fault => (.error fault.ofTask, ran)
  | .ok exports =>
    let found := { name := moduleName file, exports, file := some file, run := some m.runs.length }
    (.ok found, { ran with modules := ran.modules ++ [(path, found)] })

/-- Import a module by an identifier that names a file. -/
def importFile (t : FileTree) (directory identifier : String) (m : Memory) :
    Except Fault Module × Memory :=
  let path := Location.absolute directory identifier
  match m.modules.lookup path with
  | some found => (.ok found, m)
  | none =>
    match locate t path with
    | none => (.error (notFound identifier), m)
    | some (file, content) =>
      match form? file with
      | none => (.error (notFound identifier), m)
      | some form => loadFile path file form content m

/-- Import modules as the files of a tree give them, relative to a directory. -/
def importer (t : FileTree) (directory : String) : Importer Memory := fun identifier m =>
  if isPathIdentifier identifier then importFile t directory identifier m
  else (Dotted.load identifier, m)

end GraphGateway.Loader
