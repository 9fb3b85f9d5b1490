/-!
# Locations of files

Paths whose parts are separated by slashes. `normalise` leaves out empty parts and dots and lets two dots
take back the part before them; two slashes at the start are kept apart from one.
-/

namespace GraphGateway.Location

def isAbsolute (path : String) : Bool :=
  path.toList.head? = some '/'

/-- Continue a path by another one, which counts from the root if it starts there. -/
def join (base path : String) : String :=
  if isAbsolute path then path
  else if base.isEmpty || base.toList.getLast? = some '/' then base ++ path
  else base ++ "/" ++ path

def parts : List Char → List (List Char)
  | [] => [[]]
  | c :: rest =>
    match parts rest with
    | [] => [[c]]
    | part :: more => if c = '/' then [] :: part :: more else (c :: part) :: more

/-- Resolve the dots among parts, given what came before them, last part first. -/
private def resolve (rooted : Bool) : List (List Char) → List (List Char) → List (List Char)
  | before, [] => before.reverse
  | before, part :: rest =>
    if part = [] ∨ part = ['.'] then resolve rooted before rest
    else if part = ['.', '.'] then
      match before with
      | [] => resolve rooted (if rooted then [] else [part]) rest
      | last :: more => resolve rooted (if last = ['.', '.'] then part :: before else more) rest
    else resolve rooted (part :: before) rest

/-- The slashes that a path starts with, of which three or more count as one. -/
private def leading (path : List Char) : List Char :=
  match path.takeWhile (· = '/') with
  | ['/', '/'] => ['/', '/']
  | [] => []
  | _ => ['/']

def normalise (path : String) : String :=
  let start := leading path.toList
  let body := ['/'].intercalate (resolve (!start.isEmpty) [] (parts path.toList))
  match start ++ body with
  | [] => "."
  | chars => String.ofList chars

def absolute (directory path : String) : String :=
  normalise (join directory path)

def base (path : String) : String :=
  String.ofList ((parts path.toList).getLast?.getD [])

/-- The part of a name before its last dot. Dots that the name starts with do not count. -/
def stem (name : String) : String :=
  let chars := name.toList
  let start := chars.takeWhile (· = '.')
  let reversed := (chars.drop start.length).reverse
  match reversed.dropWhile (· ≠ '.') with
  | [] => name
  | _ :: rest => String.ofList (start ++ rest.reverse)

end GraphGateway.Location
