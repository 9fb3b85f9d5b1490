import GraphGateway.Number.Decimal
import GraphGateway.Value.Entries

/-!
# Reading JSON

JSON texts, with the words `NaN`, `Infinity` and `-Infinity` as numbers. A number with a fraction or an
exponent is a double, any other an integer. Of entries with one key the last one counts, in the place of
the first.
-/

namespace GraphGateway.Introspection

open Number

/-- Readers give what they read and the text after it. -/
private abbrev Reading := Except Fault

private def isSpace (c : Char) : Bool :=
  c = ' ' || c = '\t' || c = '\n' || c = '\r'

private def skipSpace (s : List Char) : List Char :=
  s.dropWhile isSpace

private def hexDigit? (c : Char) : Option Nat :=
  if c.isDigit then some (c.toNat - '0'.toNat)
  else if 'a' ≤ c ∧ c ≤ 'f' then some (c.toNat - 'a'.toNat + 10)
  else if 'A' ≤ c ∧ c ≤ 'F' then some (c.toNat - 'A'.toNat + 10)
  else none

/-- Four hexadecimal digits. -/
private def unit? : List Char → Option (Nat × List Char)
  | a :: b :: c :: d :: rest => do
    let n := (((← hexDigit? a) * 16 + (← hexDigit? b)) * 16 + (← hexDigit? c)) * 16 + (← hexDigit? d)
    pure (n, rest)
  | _ => none

/-- The character that an escape stands for, after its backslash: two units of a pair make one. -/
private def escaped? : List Char → Option (Char × List Char)
  | '"' :: rest => some ('"', rest)
  | '\\' :: rest => some ('\\', rest)
  | '/' :: rest => some ('/', rest)
  | 'b' :: rest => some ('\x08', rest)
  | 'f' :: rest => some ('\x0c', rest)
  | 'n' :: rest => some ('\n', rest)
  | 'r' :: rest => some ('\r', rest)
  | 't' :: rest => some ('\t', rest)
  | 'u' :: rest => do
    let (high, rest) ← unit? rest
    match rest with
    | '\\' :: 'u' :: more =>
      match unit? more with
      | some (low, after) =>
        if 0xD800 ≤ high ∧ high < 0xDC00 ∧ 0xDC00 ≤ low ∧ low < 0xE000 then
          pure (Char.ofNat (0x10000 + (high - 0xD800) * 0x400 + (low - 0xDC00)), after)
        else pure (Char.ofNat high, rest)
      | none => pure (Char.ofNat high, rest)
    | _ => pure (Char.ofNat high, rest)
  | _ => none

/-- The rest of a text after its opening quote. -/
private def string : Nat → List Char → List Char → Reading (String × List Char)
  | 0, _, _ => .error .notJson
  | _, _, [] => .error .notJson
  | fuel + 1, read, c :: rest =>
    if c = '"' then .ok (String.ofList read.reverse, rest)
    else if c = '\\' then
      match escaped? rest with
      | some (d, rest) => string fuel (d :: read) rest
      | none => .error .notJson
    else if c.toNat < 0x20 then .error .notJson
    else string fuel (c :: read) rest

private def digitRun (s : List Char) : List Char × List Char :=
  (s.takeWhile Char.isDigit, s.dropWhile Char.isDigit)

private def fraction (s : List Char) : List Char × List Char :=
  match s with
  | '.' :: rest =>
    match digitRun rest with
    | ([], _) => ([], s)
    | (ds, rest) => ('.' :: ds, rest)
  | _ => ([], s)

private def exponent (s : List Char) : List Char × List Char :=
  match s with
  | e :: rest =>
    if e = 'e' ∨ e = 'E' then
      let (sign, body) := match rest with
        | '-' :: more => (['-'], more)
        | '+' :: more => ([], more)
        | _ => ([], rest)
      match digitRun body with
      | ([], _) => ([], s)
      | (ds, after) => ('e' :: sign ++ ds, after)
    else ([], s)
  | [] => ([], s)

private def number (sign : List Char) (s : List Char) : Reading (Value × List Char) :=
  let (whole, rest) := match s with
    | '0' :: rest => (['0'], rest)
    | _ => digitRun s
  if whole.isEmpty then .error .notJson
  else
    let (f, rest) := fraction rest
    let (e, rest) := exponent rest
    if f.isEmpty && e.isEmpty then
      match readInt (sign ++ whole) with
      | .ok n => .ok (.int n, rest)
      | .error (.tooLong n) => .error (.numeralTooLong n)
      | .error .malformed => .error .notJson
    else
      match readReal (sign ++ whole ++ f ++ e) with
      | some x => .ok (.real x, rest)
      | none => .error .notJson

private def word (s : List Char) : Option (Value × List Char) :=
  [("null", Value.null), ("true", .bool true), ("false", .bool false), ("NaN", .real .nan),
    ("Infinity", .real (.infinite false)), ("-Infinity", .real (.infinite true))].findSome?
      fun (w, v) => if w.toList.isPrefixOf s then some (v, s.drop w.length) else none

def maxNestedContainers : Nat := 980

mutual

private def value (depth : Nat) : Nat → List Char → Reading (Value × List Char)
  | 0, _ => .error .notJson
  | fuel + 1, s =>
    match s with
    | '"' :: rest => (string (rest.length + 1) [] rest).map fun r => (.text r.1, r.2)
    | '[' :: rest =>
      if maxNestedContainers ≤ depth then .error (.jsonTooDeep "array")
      else
        match skipSpace rest with
        | ']' :: rest => .ok (.list [], rest)
        | rest => (items (depth + 1) fuel rest).map fun r => (.list r.1, r.2)
    | '{' :: rest =>
      if maxNestedContainers ≤ depth then .error (.jsonTooDeep "object")
      else
        match skipSpace rest with
        | '}' :: rest => .ok (.map [], rest)
        | rest => (members (depth + 1) fuel rest).map fun r => (.ofEntries r.1, r.2)
    | _ =>
      match word s with
      | some found => .ok found
      | none =>
        match s with
        | '-' :: rest => number ['-'] rest
        | _ => number [] s

private def items (depth : Nat) : Nat → List Char → Reading (List Value × List Char)
  | 0, _ => .error .notJson
  | fuel + 1, s => do
    let (v, rest) ← value depth fuel s
    match skipSpace rest with
    | ']' :: rest => pure ([v], rest)
    | ',' :: rest =>
      let (vs, rest) ← items depth fuel (skipSpace rest)
      pure (v :: vs, rest)
    | _ => .error .notJson

private def members (depth : Nat) : Nat → List Char → Reading (List (Value × Value) × List Char)
  | 0, _ => .error .notJson
  | fuel + 1, s => do
    match s with
    | '"' :: rest =>
      let (key, rest) ← string (rest.length + 1) [] rest
      match skipSpace rest with
      | ':' :: rest =>
        let (v, rest) ← value depth fuel (skipSpace rest)
        match skipSpace rest with
        | '}' :: rest => pure ([(.text key, v)], rest)
        | ',' :: rest =>
          let (more, rest) ← members depth fuel (skipSpace rest)
          pure ((.text key, v) :: more, rest)
        | _ => .error .notJson
      | _ => .error .notJson
    | _ => .error .notJson

end

def readJson (s : String) : Except Fault Value := do
  let text := s.toList
  let (v, rest) ← value 0 (2 * text.length + 2) (skipSpace text)
  if (skipSpace rest).isEmpty then pure v else .error .notJson

end GraphGateway.Introspection
