import GraphGateway.Text.Infix
import GraphGateway.Value.Entries
import GraphGateway.Value.Member

/-!
# Attributes, subscripts and membership

What a value answers when it is asked for a named attribute, an element or the presence of one.
-/

namespace GraphGateway

/-- The index that a value gives, when it is an integer. -/
def Value.index? : Value → Option Int
  | .bool b => some (if b then 1 else 0)
  | .int n => some n
  | _ => none

/-- The place of an index in a sequence; a negative index counts from the end. -/
def position? (length : Nat) (i : Int) : Option Nat :=
  let k := if i < 0 then i + length else i
  if 0 ≤ k ∧ k < length then some k.toNat else none

namespace Store

/-- A part of an error, which is the same one each time. -/
def partOf (st : Store) (v : Value) (which : ErrorPart) : Value :=
  match v with
  | .shared h => .part h which
  | v => (st.look v).errorPart which

/-- An error of a field as a response gives it. It has no location and no path. -/
def formatted (st : Store) (v : Value) (message : String) (extensions : Value) : Value :=
  let said := if message.isEmpty then .text "An unknown error occurred." else st.partOf v .message
  match (st.look extensions).entries? with
  | some (_ :: _) => .map [(.text "message", said), (.text "extensions", extensions)]
  | _ => .map [(.text "message", said)]

/-- The attribute of a name of a value that is no mapping. A number that is asked for itself is the same one, and a
method is bound to the value. -/
def attribute? (st : Store) (v : Value) (name : String) : Option Value :=
  let object := st.look v
  match object.errorPart? name with
  | some which => some (st.partOf v which)
  | none =>
    if object.isItself name then some v
    else
      match object.response? name with
      | some (message, extensions) => some (st.formatted v message extensions)
      | none => (object.attribute? name).or (if object.methods.contains name then some (.method v name) else none)

def element (sequence : String) (items : List Value) (i : Int) : Except Fault Value :=
  if i < -Int.pow 2 63 ∨ Int.pow 2 63 ≤ i then .error .indexTooLarge
  else
    match (position? items.length i).bind (items[·]?) with
    | some v => .ok v
    | none => .error (.outOfRange sequence)

/-- The element of a value under a key. A mapping answers null for a key that it does not have. -/
def subscript (st : Store) (v key : Value) : Except Fault Value :=
  let container := st.look v
  match container.entries? with
  | some entries => do pure ((← st.findKey entries key).getD .null)
  | none =>
    let k := st.look key
    match container, k.index? with
    | .text s, some i => element "string" (s.toList.map fun c => .text (String.singleton c)) i
    | .illFormed codes, some i => element "string" (codes.map fun c => .ofCodes [c]) i
    | .text _, none | .illFormed _, none => .error (.misuse (.badTextIndex k.kind))
    | .bytes bs, some i => element "bytes" (bs.map fun b => .int b.toNat) i
    | .bytes _, none => .error (.misuse (.badIndex "byte" k.kind))
    | .list items, some i => element "list" items i
    | .list _, none => .error (.misuse (.badIndex "list" k.kind))
    | .tuple items, some i => element "tuple" items i
    | .tuple _, none => .error (.misuse (.badIndex "tuple" k.kind))
    | _, _ => .error (.misuse (.notSubscriptable container.bearer))

/-- The element of a value under a key that a mapping has to have. -/
def require (st : Store) (v key : Value) : Except Fault Value :=
  match (st.look v).entries? with
  | some entries => do
    match ← st.findKey entries key with
    | some found => pure found
    | none => .error (.missingKey key)
  | none => st.subscript v key

/-- Whether a container holds an element, a mapping a key, or a text a part. -/
def contains (st : Store) (v item : Value) : Except Fault Bool :=
  let container := st.look v
  match container.entries? with
  | some entries => do pure (← st.findKey entries item).isSome
  | none =>
    match container, st.look item with
    | .text s, .text part => .ok (Text.isInfix part.toList s.toList)
    | .text _, x | .illFormed _, x =>
      match container.codes?, x.codes? with
      | some whole, some part => .ok (Text.isInfix part whole)
      | _, _ => .error (.misuse (.badSubtext x.kind))
    | .bytes bs, .bytes part => .ok (Text.isInfix part bs)
    | .bytes bs, x =>
      match x.index? with
      | some i =>
        if 0 ≤ i ∧ i < 256 then .ok (bs.any fun b => (b.toNat : Int) = i) else .error .byteOutOfRange
      | none => .error (.misuse (.notBytes x.kind))
    | .list items, _ | .tuple items, _ => .ok (items.any (st.same · item))
    | _, _ => .error (.misuse (.notContainer container.kind))

end Store

end GraphGateway
