import GraphGateway.Text.Blank

/-!
# Placeholders

A placeholder is a brace, white space, a path without braces or white space, white space and a closing
brace. A template is read from left to right; a brace that begins no placeholder is text.
-/

namespace GraphGateway.Template

open Text

def isPathChar (c : Char) : Bool :=
  !isBlank c && c ≠ '{' && c ≠ '}'

/-- Read a placeholder after its opening brace: its path and what follows it. -/
def placeholder? (s : List Char) : Option (List Char × List Char) :=
  let body := s.dropWhile isBlank
  let path := body.takeWhile isPathChar
  match (body.dropWhile isPathChar).dropWhile isBlank with
  | '}' :: rest => if path.isEmpty then none else some (path, rest)
  | _ => none

inductive Piece where
  | char (c : Char)
  /-- A placeholder with its path. -/
  | hole (path : List Char)
  deriving Repr, DecidableEq

/-- The parts of a template after a number of characters that are read already. -/
def scanFrom : Nat → List Char → List Piece
  | _, [] => []
  | skip + 1, _ :: rest => scanFrom skip rest
  | 0, c :: rest =>
    if c = '{' then
      match placeholder? rest with
      | some (path, after) => .hole path :: scanFrom (rest.length - after.length) rest
      | none => .char c :: scanFrom 0 rest
    else .char c :: scanFrom 0 rest

def scan (s : List Char) : List Piece :=
  scanFrom 0 s

/-- The path of a template that is one placeholder and nothing else but white space around it. -/
def whole? (s : List Char) : Option (List Char) :=
  match trim s with
  | '{' :: rest =>
    match placeholder? rest with
    | some (path, []) => some path
    | _ => none
  | _ => none

end GraphGateway.Template
