/-!
# Type references

The type of a field: a named type, a list, or a type without null.
-/

namespace GraphGateway

inductive TypeRef where
  | named (name : String)
  | list (item : TypeRef)
  | nonNull (type : TypeRef)
  deriving Repr, DecidableEq, Inhabited

namespace TypeRef

def text : TypeRef → String
  | .named name => name
  | .list item => "[" ++ item.text ++ "]"
  | .nonNull type => type.text ++ "!"

/-- The name of the type that a reference leads to, inside lists and without null. -/
def name : TypeRef → String
  | .named name => name
  | .list item => item.name
  | .nonNull type => type.name

/-- The type with null, which a type without null is made from. -/
def nullable : TypeRef → TypeRef
  | .nonNull type => type
  | type => type

def item? : TypeRef → Option TypeRef
  | .list item => some item
  | _ => none

/-- Read a reference off the end of a text that is given last character first. -/
private def readReversed : Nat → List Char → TypeRef
  | 0, s => .named (String.ofList s.reverse)
  | fuel + 1, '!' :: rest => .nonNull (readReversed fuel rest)
  | fuel + 1, ']' :: rest => .list (readReversed fuel rest.dropLast)
  | _, s => .named (String.ofList s.reverse)

def ofText (s : String) : TypeRef :=
  let chars := s.toList.filter (· ≠ ' ')
  readReversed chars.length chars.reverse

end TypeRef

/-- The type of the items of a field whose type is known: that of a list, with or without null. -/
def itemType (type : Option TypeRef) : Option TypeRef :=
  type.bind fun t => t.nullable.item?

end GraphGateway
