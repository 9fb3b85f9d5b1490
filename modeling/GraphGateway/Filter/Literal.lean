import GraphGateway.Number.Decimal
import GraphGateway.Text.CharacterName
import GraphGateway.Filter.Token

/-!
# Literals of filter expressions

Numbers with underscores, in base ten, two, eight and sixteen, with fractions and exponents, and
multiples of the imaginary unit; and the escapes of quoted literals. A number may be followed at once by
one of the words that can stand after a number, but by no other identifier.
-/

namespace GraphGateway.Filter

open Number

/-- What stands in an expression in the place of a byte that encodes no character. -/
def notCharacter : Char :=
  Char.ofNat 0

/-- Whether a character belongs to an identifier, before it is known to be a valid one. -/
def isWordChar (c : Char) : Bool :=
  c.isAlphanum || c = '_' || 128 ≤ c.toNat

/-- Whether a character may begin an identifier, before it is known to be a valid one. -/
def isWordStart (c : Char) : Bool :=
  c.isAlpha || c = '_' || 128 ≤ c.toNat

private def beginsWith (word : String) (s : List Char) : Bool :=
  word.toList.isPrefixOf s

def endsNumber (s : List Char) : Bool :=
  match s with
  | [] => true
  | c :: _ =>
    !isWordChar c || ["and", "else", "for", "if", "in", "is", "not", "or"].any (beginsWith · s)

/-- Digits with single underscores between them: the digits, and the text after them. -/
def digitsPart (isDigit : Char → Bool) : Nat → List Char → Option (List Char × List Char)
  | 0, _ => none
  | fuel + 1, s =>
    let run := s.takeWhile isDigit
    if run.isEmpty then none
    else
      match s.dropWhile isDigit with
      | '_' :: rest => (digitsPart isDigit fuel rest).map fun r => (run ++ r.1, r.2)
      | rest => some (run, rest)

private def decimalPart (s : List Char) : Option (List Char × List Char) :=
  digitsPart Char.isDigit (s.length + 1) s

private def startsDigit : List Char → Bool
  | c :: _ => c.isDigit
  | [] => false

private def fractionPart (s : List Char) : Option (List Char × List Char) :=
  match s with
  | '.' :: rest =>
    if startsDigit rest then (decimalPart rest).map fun r => ('.' :: r.1, r.2) else some (['.'], rest)
  | _ => some ([], s)

/-- The exponent of a number. The letter may also begin a word that follows the number. -/
private def exponentPart (s : List Char) : Option (List Char × List Char) :=
  match s with
  | e :: rest =>
    if e = 'e' ∨ e = 'E' then
      match rest with
      | '+' :: more => (decimalPart more).map fun r => ('e' :: '+' :: r.1, r.2)
      | '-' :: more => (decimalPart more).map fun r => ('e' :: '-' :: r.1, r.2)
      | _ =>
        if startsDigit rest then (decimalPart rest).map fun r => ('e' :: r.1, r.2)
        else if endsNumber s then some ([], s) else none
    else some ([], s)
  | [] => some ([], s)

private def hexValue (c : Char) : Nat :=
  if c.isDigit then c.toNat - '0'.toNat
  else if c.isLower then c.toNat - 'a'.toNat + 10
  else c.toNat - 'A'.toNat + 10

private def isHex (c : Char) : Bool :=
  c.isDigit || ('a' ≤ c && c ≤ 'f') || ('A' ≤ c && c ≤ 'F')

/-- A number in a base that its letter names; an underscore may follow the letter. -/
private def basedNumber (base : Nat) (isDigit : Char → Bool) (s : List Char) :
    Option (Value × List Char) := do
  let body := match s with
    | '_' :: rest => rest
    | _ => s
  let (ds, rest) ← digitsPart isDigit (body.length + 1) body
  if startsDigit rest || !endsNumber rest then none
  else some (.int (ofDigits base (ds.map hexValue)), rest)

private def realOf (s : List Char) : Binary64 :=
  (readReal s).getD Binary64.zero

/-- A number in base ten. Zeros stand before another digit only in a number that is no integer, or that the
`e` of a following word ends: such a number is real. -/
private def decimalNumber (s : List Char) : Option (Value × List Char) := do
  let (whole, rest) ← if startsDigit s then decimalPart s else some ([], s)
  let (fraction, rest) ← fractionPart rest
  let (exponent, rest) ← exponentPart rest
  let written := whole ++ fraction ++ exponent
  match rest with
  | 'j' :: after | 'J' :: after =>
    if endsNumber after then some (.imaginary (realOf written), after) else none
  | _ =>
    if !endsNumber rest then none
    else if !fraction.isEmpty || !exponent.isEmpty then some (.real (realOf written), rest)
    else if whole.head? = some '0' && whole.any (· ≠ '0') then
      if rest.head? = some 'e' then some (.real (realOf whole), rest) else none
    else if maxDigits < whole.length && whole.head? ≠ some '0' then none
    else some (.int (ofDigits 10 (whole.map hexValue)), rest)

/-- Read a number, which begins with a digit or with a point and a digit. -/
def readNumber (s : List Char) : Option (Value × List Char) :=
  match s with
  | '0' :: 'x' :: rest | '0' :: 'X' :: rest => basedNumber 16 isHex rest
  | '0' :: 'o' :: rest | '0' :: 'O' :: rest => basedNumber 8 (fun c => '0' ≤ c && c ≤ '7') rest
  | '0' :: 'b' :: rest | '0' :: 'B' :: rest => basedNumber 2 (fun c => c = '0' || c = '1') rest
  | _ => decimalNumber s

private def isOctal (c : Char) : Bool :=
  '0' ≤ c && c ≤ '7'

/-- A name between braces, and the text after them. -/
private def bracedName (s : List Char) : Option (List Char × List Char) :=
  match s with
  | '\x7b' :: rest =>
    match rest.dropWhile (· ≠ '\x7d') with
    | _ :: after => some (rest.takeWhile (· ≠ '\x7d'), after)
    | [] => none
  | _ => none

/-- What an escape stands for, after its backslash: one character or none, and the text after it. A
backslash before any other character stands for itself. -/
private def escape (wide : Bool) (s : List Char) : Option (List Nat × List Char) :=
  let digits := fun (n : Nat) (rest : List Char) =>
    let ds := rest.take n
    if ds.length = n ∧ ds.all isHex then
      let code := ofDigits 16 (ds.map hexValue)
      if code < 0x110000 then some ([code], rest.drop n) else none
    else none
  match s with
  | [] => none
  | '\n' :: rest => some ([], rest)
  | '\\' :: rest => some (['\\'.toNat], rest)
  | '\'' :: rest => some (['\''.toNat], rest)
  | '"' :: rest => some (['"'.toNat], rest)
  | 'a' :: rest => some ([7], rest)
  | 'b' :: rest => some ([8], rest)
  | 't' :: rest => some ([9], rest)
  | 'n' :: rest => some ([10], rest)
  | 'v' :: rest => some ([11], rest)
  | 'f' :: rest => some ([12], rest)
  | 'r' :: rest => some ([13], rest)
  | 'x' :: rest => digits 2 rest
  | c :: rest =>
    if isOctal c then
      let ds := (s.take 3).takeWhile isOctal
      some ([ofDigits 8 (ds.map hexValue)], s.drop ds.length)
    else if wide && c = 'u' then digits 4 rest
    else if wide && c = 'U' then digits 8 rest
    else if wide && c = 'N' then do
      let (name, rest) ← bracedName rest
      pure ([← Text.codeOfName? name], rest)
    else some (['\\'.toNat], s)

/-- The code points that the body of a literal denotes. -/
private def unescape (wide : Bool) : Nat → List Char → Option (List Nat)
  | _, [] => some []
  | 0, _ => none
  | fuel + 1, '\\' :: rest => do
    let (codes, rest) ← escape wide rest
    let more ← unescape wide fuel rest
    pure (codes ++ more)
  | fuel + 1, c :: rest => (unescape wide fuel rest).map (c.toNat :: ·)

/-- The code points of the text that a literal denotes, unless it holds what is no character. -/
def textOf (raw : Bool) (body : List Char) : Option (List Nat) :=
  if body.contains notCharacter then none
  else if raw then some (body.map Char.toNat)
  else unescape true body.length body

/-- The bytes that a literal denotes; it is written in ASCII. -/
def bytesOf (raw : Bool) (body : List Char) : Option (List UInt8) :=
  if body.any fun c => c = notCharacter || 128 ≤ c.toNat then none
  else if raw then some (body.map fun c => UInt8.ofNat c.toNat)
  else (unescape false body.length body).map (·.map UInt8.ofNat)

end GraphGateway.Filter
