import GraphGateway.Filter.Literal
import GraphGateway.Text.Identifier
import GraphGateway.Text.Normal

/-!
# Tokens from text

An expression stands on one line, unless brackets or a backslash at the end of a line continue it.
Comments and blank lines around it count for nothing. Brackets match, and nest to a limited depth.
-/

namespace GraphGateway.Filter

def maxNesting : Nat := 200

def unifyLines : List Char → List Char
  | [] => []
  | '\r' :: '\n' :: rest => '\n' :: unifyLines rest
  | '\r' :: rest => '\n' :: unifyLines rest
  | c :: rest => c :: unifyLines rest

/-- The text after a backslash that continues a line. -/
private def continuation : List Char → Option (List Char)
  | '\n' :: rest => if rest.isEmpty then none else some rest
  | _ => none

def indentation : Nat → Nat → Nat → List Char → Option (Nat × List Char)
  | 0, _, _, _ => none
  | fuel + 1, column, first, s =>
    match s with
    | ' ' :: rest => indentation fuel (column + 1) first rest
    | '\t' :: rest => indentation fuel ((column / 8 + 1) * 8) first rest
    | '\x0c' :: rest => indentation fuel 0 first rest
    | '\\' :: rest => do
      let rest ← continuation rest
      indentation fuel column (if first = 0 then column else first) rest
    | _ => some (if first = 0 then column else first, s)

/-- The letters before a quote that say what a literal denotes, with whether it is raw. -/
private def quotationOf (letters : List Char) : Option (Quotation × Bool) :=
  match String.ofList (letters.map Char.toLower) with
  | "" | "u" => some (.text, false)
  | "r" => some (.text, true)
  | "b" => some (.bytes, false)
  | "br" | "rb" => some (.bytes, true)
  | "f" => some (.formatted, false)
  | "fr" | "rf" => some (.formatted, true)
  | _ => none

/-- The body of a literal up to its closing quotes, and the text after them. -/
private def bodyOf (quote : Char) (triple : Bool) : List Char → List Char → Option (List Char × List Char)
  | _, [] => none
  | read, '\\' :: c :: rest => bodyOf quote triple (c :: '\\' :: read) rest
  | read, c :: rest =>
    if c = quote then
      if !triple then some (read.reverse, rest)
      else
        match rest with
        | d :: e :: after =>
          if d = quote ∧ e = quote then some (read.reverse, after)
          else bodyOf quote triple (c :: read) rest
        | _ => none
    else if c = '\n' ∧ !triple then none
    else bodyOf quote triple (c :: read) rest

private def literal (quotation : Quotation) (raw : Bool) (s : List Char) : Option (Token × List Char) :=
  match s with
  | q :: r :: t :: rest =>
    if r = q ∧ t = q then (bodyOf q true [] rest).map fun b => (.literal quotation raw b.1, b.2)
    else (bodyOf q false [] (r :: t :: rest)).map fun b => (.literal quotation raw b.1, b.2)
  | q :: rest => (bodyOf q false [] rest).map fun b => (.literal quotation raw b.1, b.2)
  | [] => none

def isQuote (c : Char) : Bool :=
  c = '\'' || c = '"'

def word (s : List Char) : Option (Token × List Char) :=
  let letters := s.takeWhile isWordChar
  let rest := s.dropWhile isWordChar
  let id := String.ofList letters
  if keywords.contains id then some (.keyword id, rest)
  else if letters.all (·.toNat < 128) then some (.name id, rest)
  else if Text.isIdentifier letters then
    some (.name (String.ofList (Text.normalize letters)), rest)
  else none

/-- Read a word, or a literal that has letters before its quote. -/
def wordOrLiteral (s : List Char) : Option (Token × List Char) :=
  let letters := (s.take 3).takeWhile Char.isAlpha
  match s.drop letters.length with
  | c :: rest =>
    if isQuote c then
      match quotationOf letters with
      | some (quotation, raw) => literal quotation raw (c :: rest)
      | none => word s
    else word s
  | [] => word s

def symbol (s : List Char) : Option (Token × List Char) :=
  (symbols.find? fun t => t.toList.isPrefixOf s).map fun t => (.symbol t, s.drop t.length)

/-- Read one token that does not begin with a blank. -/
def readToken (s : List Char) : Option (Token × List Char) :=
  match s with
  | [] => none
  | c :: rest =>
    if c.isDigit || (c = '.' && rest.head?.any Char.isDigit) then
      (readNumber s).map fun r => (.number r.1, r.2)
    else if isQuote c then literal .text false s
    else if isWordStart c then wordOrLiteral s
    else symbol s

def nest (opened : List String) : Token → Option (List String)
  | .symbol s =>
    if s = "(" ∨ s = "[" ∨ s = "\x7b" then
      if maxNesting ≤ opened.length then none else some (s :: opened)
    else if s = ")" ∨ s = "]" ∨ s = "\x7d" then
      match opened with
      | o :: outer =>
        if (o = "(" ∧ s = ")") ∨ (o = "[" ∧ s = "]") ∨ (o = "\x7b" ∧ s = "\x7d") then some outer
        else none
      | [] => none
    else some opened
  | _ => some opened

/-- The tokens of a text, from the start of a line or from within one, with the brackets that are open. -/
def tokensFrom : Nat → Bool → List String → List Char → Option (List Token)
  | 0, _, _, _ => none
  | fuel + 1, true, opened, s => do
    let (column, s) ← indentation (s.length + 1) 0 0 s
    match s with
    | '#' :: rest =>
      match rest.dropWhile (· ≠ '\n') with
      | _ :: rest => tokensFrom fuel true opened rest
      | [] => if opened.isEmpty then some [] else none
    | '\n' :: rest => tokensFrom fuel true opened rest
    | s => if opened.isEmpty && column ≠ 0 then none else tokensFrom fuel false opened s
  | fuel + 1, false, opened, s =>
    match s with
    | [] => if opened.isEmpty then some [] else none
    | c :: rest =>
      if c = ' ' ∨ c = '\t' ∨ c = '\x0c' then tokensFrom fuel false opened rest
      else if c = '#' then tokensFrom fuel false opened (rest.dropWhile (· ≠ '\n'))
      else if c = '\n' then
        if opened.isEmpty then (tokensFrom fuel true opened rest).map (.newline :: ·)
        else tokensFrom fuel true opened rest
      else if c = '\\' then do tokensFrom fuel false opened (← continuation rest)
      else do
        let (token, rest) ← readToken s
        let opened ← nest opened token
        let tokens ← tokensFrom fuel false opened rest
        pure (token :: tokens)

def tokens (s : List Char) : Option (List Token) :=
  let s := unifyLines s
  tokensFrom (2 * s.length + 2) true [] s

end GraphGateway.Filter
