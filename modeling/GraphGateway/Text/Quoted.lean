import GraphGateway.Text.Printable

/-!
# Quoted text

The written form of a text or of bytes inside another value: between single quotes, or between double
quotes when it holds a single quote and no double one, with what cannot be shown escaped.
-/

namespace GraphGateway.Text

/-- A number in lower case hexadecimal digits, at least `width` of them. -/
def hex (width n : Nat) : List Char :=
  let digits := Nat.toDigits 16 n
  List.replicate (width - digits.length) '0' ++ digits

/-- The quote that a text is written between. -/
def quoteFor (s : List Char) : Char :=
  if s.contains '\'' && !s.contains '"' then '"' else '\''

private def escapeControl (quote c : Char) : Option (List Char) :=
  if c = quote || c = '\\' then some ['\\', c]
  else if c = '\t' then some ['\\', 't']
  else if c = '\n' then some ['\\', 'n']
  else if c = '\r' then some ['\\', 'r']
  else none

/-- A character as it is written between two quotes. -/
def escape (quote c : Char) : List Char :=
  match escapeControl quote c with
  | some written => written
  | none =>
    if isPrintable c then [c]
    else if c.toNat < 0x100 then ['\\', 'x'] ++ hex 2 c.toNat
    else if c.toNat < 0x10000 then ['\\', 'u'] ++ hex 4 c.toNat
    else ['\\', 'U'] ++ hex 8 c.toNat

def quoted (s : String) : String :=
  let quote := quoteFor s.toList
  String.ofList (quote :: s.toList.flatMap (escape quote) ++ [quote])

private def escapeByte (quote : Char) (b : UInt8) : List Char :=
  let c := Char.ofNat b.toNat
  match escapeControl quote c with
  | some written => written
  | none => if 0x20 ≤ b && b < 0x7F then [c] else ['\\', 'x'] ++ hex 2 b.toNat

def quotedBytes (bytes : List UInt8) : String :=
  let quote := quoteFor (bytes.map fun b => Char.ofNat b.toNat)
  String.ofList ('b' :: quote :: bytes.flatMap (escapeByte quote) ++ [quote])

end GraphGateway.Text
