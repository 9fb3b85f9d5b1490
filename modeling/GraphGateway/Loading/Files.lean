import GraphGateway.Fault
import GraphGateway.Loading.Location

/-!
# Files

A tree of files below a directory. A file holds a text, or a module: what it exports, and how running it
ends.
-/

namespace GraphGateway

/-- How running a module ends. -/
inductive Ending where
  | completes
  | fails (kind text : String)
  /-- The module imports another one. -/
  | imports (name : String)
  /-- The module cannot be run at all, because of a line. -/
  | malformed (line : Nat)
  deriving Inhabited

inductive Content where
  | text (s : String)
  | module (exports : List (String × Value)) (ending : Ending)
  deriving Inhabited

/-- Files by their paths from the root, and a directory that is there in any case. -/
structure FileTree where
  directory : String
  files : List (String × Content) := []
  deriving Inhabited

namespace FileTree

def file? (t : FileTree) (path : String) : Option Content :=
  t.files.lookup path

def write (t : FileTree) (path : String) (content : Content) : FileTree :=
  { t with files := (path, content) :: t.files.filter (·.1 ≠ path) }

def remove (t : FileTree) (path : String) : FileTree :=
  { t with files := t.files.filter (·.1 ≠ path) }

/-- Whether something lies below a path that has no slash at its end. -/
def isDirectory (t : FileTree) (path : String) : Bool :=
  t.directory = path ||
    (t.directory :: t.files.map (·.1)).any fun f => (path ++ "/").toList.isPrefixOf f.toList

/-- What a path leads to: a file, a directory, beyond a file as if that were a directory, or to a name that
is too long for any file. -/
inductive Place where
  | file (content : Content)
  | directory
  | blocked
  | tooLong

def maxName : Nat := 255

def maxPath : Nat := 4095

private def pathTo (reached : List (List Char)) : String :=
  String.ofList (reached.reverse.flatMap fun part => '/' :: part)

/-- Follow a path part by part. Every part but the last has to lead to a directory, and two dots lead back
from it. -/
def follow (t : FileTree) : List (List Char) → List (List Char) → Option Place
  | _, [] => some .directory
  | reached, part :: rest =>
    if part = [] ∨ part = ['.'] then t.follow reached rest
    else if part = ['.', '.'] then t.follow reached.tail rest
    else
      let path := pathTo (part :: reached)
      if maxName < (String.ofList part).utf8ByteSize then some .tooLong
      else
        match t.file? path with
        | some content => some (if rest.isEmpty then .file content else .blocked)
        | none => if t.isDirectory path then t.follow (part :: reached) rest else none

def place? (t : FileTree) (path : String) : Option Place :=
  t.follow [] (Location.parts path.toList)

def content? (t : FileTree) (path : String) : Option Content :=
  if maxPath < path.utf8ByteSize then none
  else
    match t.place? path with
    | some (.file content) => some content
    | _ => none

/-- The text of the file of a path, which counts from a directory. -/
def read (t : FileTree) (directory path : String) : Except Fault String :=
  if path.toList.contains '\x00' then .error .embeddedNull
  else if maxPath < path.utf8ByteSize then .error (.nameTooLong path)
  else
    match t.place? (Location.join directory path) with
    | some (.file (.text s)) => .ok s
    | some (.file (.module ..)) => .ok ""
    | some .directory => .error (.isDirectory path)
    | some .blocked => .error (.notADirectory path)
    | some .tooLong => .error (.nameTooLong path)
    | none => .error (.fileNotFound path)

end FileTree

end GraphGateway
