import GraphGateway.Filter.Literal
import GraphGateway.Text.Encoding

/-!
# Expressions given as bytes

An expression that is given as bytes is in UTF-8, unless a comment on one of its first two lines declares
another encoding. A mark of the byte order may stand before it, which allows no other declaration.
-/

namespace GraphGateway.Filter

open Text

/-- The mark of the byte order in UTF-8, and what follows it. -/
private def afterMark : List UInt8 → Option (List UInt8)
  | 0xEF :: 0xBB :: 0xBF :: rest => some rest
  | _ => none

private def isBlankOfLine (c : Char) : Bool :=
  c = ' ' || c = '\t' || c = '\x0c'

private def isNameChar (c : Char) : Bool :=
  c.isAlphanum || c = '-' || c = '_' || c = '.'

/-- The name after the first word `coding` that has a colon or an equals sign, and then a name, after it. -/
def declaredName : List Char → Option (List Char)
  | [] => none
  | c :: rest =>
    match (if "coding".toList.isPrefixOf (c :: rest) then rest.drop 5 else []) with
    | mark :: after =>
      let name := (after.dropWhile fun c => c = ' ' || c = '\t').takeWhile isNameChar
      if (mark = ':' ∨ mark = '=') ∧ !name.isEmpty then some name else declaredName rest
    | [] => declaredName rest

/-- The encoding that a line declares, which holds nothing but a comment. -/
private def declaredIn (line : List Char) : Option (List Char) :=
  match line.dropWhile isBlankOfLine with
  | '#' :: comment => declaredName comment
  | _ => none

/-- Whether a line holds nothing but a comment, or nothing at all. -/
private def isIdle (line : List Char) : Bool :=
  (line.dropWhile isBlankOfLine).head?.all (· = '#')

/-- A line that is ended, and what follows it. -/
private def endedLine (s : List Char) : Option (List Char × List Char) :=
  match s.dropWhile (· ≠ '\n') with
  | _ :: rest => some (s.takeWhile (· ≠ '\n'), rest)
  | [] => none

/-- The name of the encoding that a text declares. -/
def declared (s : List Char) : Option (List Char) := do
  let (first, rest) ← endedLine s
  match declaredIn first with
  | some name => some name
  | none =>
    if isIdle first then do
      let (second, _) ← endedLine rest
      declaredIn second
    else none

/-- A declared name as far as it is told apart from those that begin alike. -/
private def shortName (name : List Char) : String :=
  String.ofList ((name.take 12).map fun c => if c = '_' then '-' else c.toLower)

/-- Whether a declared name is one of a name, with or without something after a hyphen. -/
private def isVariant (name : String) (short : String) : Bool :=
  short = name || short.startsWith (name ++ "-")

private def unifyLineBytes : List UInt8 → List UInt8
  | [] => []
  | 13 :: 10 :: rest => 10 :: unifyLineBytes rest
  | 13 :: rest => 10 :: unifyLineBytes rest
  | b :: rest => b :: unifyLineBytes rest

/-- The text that bytes in UTF-8 stand for, where a byte that encodes no character is kept as a mark. -/
private def readLeniently (bs : List UInt8) : List Char :=
  (Encoding.readUtf8 bs).map (·.getD notCharacter)

/-- The text of an expression that is given as bytes. -/
def decodeSource (bs : List UInt8) : Option (List Char) :=
  let bs := unifyLineBytes bs
  let marked := afterMark bs
  let bs := marked.getD bs
  match declared (bs.map fun b => Char.ofNat b.toNat) with
  | none => some (readLeniently bs)
  | some name =>
    let short := shortName name
    if isVariant "utf-8" short then some (readLeniently bs)
    else if marked.isSome then none
    else if ["latin-1", "iso-8859-1", "iso-latin-1"].any (isVariant · short) then
      some (bs.map fun b => Char.ofNat b.toNat)
    else (Encoding.named? name).bind (·.decode bs)

end GraphGateway.Filter
