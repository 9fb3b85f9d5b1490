import GraphGateway.Filter.Lexer
import GraphGateway.Filter.Syntax

/-!
# Expressions from tokens

The grammar of expressions, from the loosest binding to the tightest: conditional expressions and
lambdas, `or`, `and`, `not`, comparisons, arithmetic, prefix operators, powers, and primaries with their
attributes, subscripts and calls. The whole grammar is read, although the filter language uses little of
it, so that an operation outside the language is told from a text that is no expression.
-/

namespace GraphGateway.Filter

/-- An expression, and whether it could stand where a value is assigned to. -/
structure Term where
  expr : Expr
  target : Bool := false

/-- A reader of tokens: what it read and the tokens after it. -/
abbrev Reader (α : Type) := List Token → Option (α × List Token)

/-- The levels of the grammar that refer to each other. -/
inductive Level where
  | expression
  | disjunction
  | inversion
  | arithmetic
  | factor
  | primary

namespace Grammar

private def foreign (kind : String) : Term := ⟨.foreign kind, false⟩

/-- Go on with a step until it stops or fails. -/
def iterate (step : α → List Token → Option (Option (α × List Token))) : Nat → α → Reader α
  | 0, _, _ => none
  | fuel + 1, a, ts =>
    match step a ts with
    | none => none
    | some none => some (a, ts)
    | some (some (a, ts)) => iterate step fuel a ts

def repeated (step : α → List Token → Option (Option (α × List Token))) (a : α) : Reader α :=
  fun ts => iterate step (ts.length + 1) a ts

def symbol (s : String) : Reader Unit
  | .symbol t :: rest => if t = s then some ((), rest) else none
  | _ => none

def keyword (s : String) : Reader Unit
  | .keyword t :: rest => if t = s then some ((), rest) else none
  | _ => none

/-- What an operator joins: the first operand and the further ones, each with what was read before it. -/
def joined (operator : Reader β) (operand : Reader Term) :
    Reader (Term × List (β × Term)) := fun ts => do
  let (first, ts) ← operand ts
  let (more, ts) ← repeated (fun (found : List (β × Term)) ts =>
    match operator ts with
    | none => some none
    | some (op, ts) => (operand ts).map fun (t, ts) => some ((op, t) :: found, ts)) [] ts
  pure ((first, more.reverse), ts)

def junction (op : Junction) (word : String) (operand : Reader Term) : Reader Term := fun ts => do
  let ((first, more), ts) ← joined (keyword word) operand ts
  if more.isEmpty then pure (first, ts)
  else pure (⟨.junction op (first.expr :: more.map (·.2.expr)), false⟩, ts)

def compareOp : Reader CompareOp
  | .symbol "==" :: rest => some (.eq, rest)
  | .symbol "!=" :: rest => some (.ne, rest)
  | .symbol "<" :: rest => some (.order .lt, rest)
  | .symbol "<=" :: rest => some (.order .le, rest)
  | .symbol ">" :: rest => some (.order .gt, rest)
  | .symbol ">=" :: rest => some (.order .ge, rest)
  | .keyword "in" :: rest => some (.within, rest)
  | .keyword "not" :: .keyword "in" :: rest => some (.notWithin, rest)
  | .keyword "is" :: .keyword "not" :: rest => some (.isNot, rest)
  | .keyword "is" :: rest => some (.is, rest)
  | _ => none

def arithmeticOp : Reader Unit
  | .symbol s :: rest =>
    if ["|", "^", "&", "<<", ">>", "+", "-", "*", "/", "//", "%", "@"].contains s then some ((), rest)
    else none
  | _ => none

def unaryOp : Token → Option UnaryOp
  | .symbol "-" => some .negate
  | .symbol "+" => some .plus
  | .symbol "~" => some .invert
  | _ => none

section Rules

variable (level : Level → Reader Term)

/-- An expression, or an assignment within one. -/
private def named : Reader Term
  | .name _ :: .symbol ":=" :: rest => (level .expression rest).map fun r => (foreign "NamedExpr", r.2)
  | ts => level .expression ts

/-- An element of a display: an expression or a starred one. -/
private def element : Reader (Term × Bool)
  | .symbol "*" :: rest =>
    (level .arithmetic rest).map fun (t, ts) => ((⟨.foreign "Starred", t.target⟩, true), ts)
  | ts => (named level ts).map fun (t, ts) => ((t, false), ts)

private def listed (item : Reader α) (close : String) : Reader (List α × Bool) := fun ts =>
  match symbol close ts with
  | some (_, ts) => some (([], false), ts)
  | none => do
    let ((found, comma, _), ts) ← repeated (fun (found, _, closed) ts =>
      if closed then some none
      else do
        let (a, ts) ← item ts
        match symbol close ts with
        | some (_, ts) => some (some ((a :: found, false, true), ts))
        | none =>
          let (_, ts) ← symbol "," ts
          match symbol close ts with
          | some (_, ts) => some (some ((a :: found, true, true), ts))
          | none => some (some ((a :: found, true, false), ts))) (([] : List α), false, false) ts
    pure ((found.reverse, comma), ts)

/-- A place that a comprehension assigns to. -/
private def target (ts : List Token) : Option (Unit × List Token) := do
  let ts := match ts with
    | .symbol "*" :: rest => rest
    | ts => ts
  let (t, ts) ← level .primary ts
  if t.target then some ((), ts) else none

/-- The places that a comprehension assigns to, up to the word after them. -/
private def targets (ts : List Token) : Option (List Token) := do
  let (_, ts) ← target level ts
  let (_, ts) ← repeated (fun _ ts =>
    match symbol "," ts with
    | none => some none
    | some (_, ts) =>
      match ts with
      | .keyword "in" :: _ => some (some ((), ts))
      | ts => (target level ts).map some) () ts
  pure ts

private def startsClause : List Token → Option (List Token)
  | .keyword "for" :: rest => some rest
  | .keyword "async" :: .keyword "for" :: rest => some rest
  | _ => none

/-- The clauses of a comprehension, of which there is at least one. -/
private def clauses (ts : List Token) : Option (List Token) := do
  let first ← startsClause ts
  let clause := fun ts => do
    let ts ← targets level ts
    let (_, ts) ← keyword "in" ts
    let (_, ts) ← level .disjunction ts
    let (_, ts) ← repeated (fun _ ts =>
      match keyword "if" ts with
      | none => some none
      | some (_, ts) => (level .disjunction ts).map fun r => some ((), r.2)) () ts
    pure ts
  let ts ← clause first
  let (_, ts) ← repeated (fun _ ts =>
    match startsClause ts with
    | none => some none
    | some ts => (clause ts).map fun ts => some ((), ts)) () ts
  pure ts

/-- What follows the first element of a display in round or square brackets: its clauses, or further
elements. -/
private def afterFirst (first : Term × Bool) (close : String) (ts : List Token) :
    Option ((Option (List (Term × Bool)) × Bool) × List Token) :=
  if (startsClause ts).isSome then do
    if first.2 then none
    else
      let ts ← clauses level ts
      let (_, ts) ← symbol close ts
      pure ((none, false), ts)
  else
    match symbol close ts with
    | some (_, ts) => some ((some [first], false), ts)
    | none => do
      let (_, ts) ← symbol "," ts
      let ((more, _), ts) ← listed (element level) close ts
      pure ((some (first :: more), true), ts)

private def display (isTuple : Bool) (items : List (Term × Bool)) : Term :=
  ⟨.display isTuple (items.map (·.1.expr)), items.all (·.1.target)⟩

/-- After an opening round bracket: a group, a tuple, or an expression that yields values. -/
private def round (ts : List Token) : Option (Term × List Token) :=
  match ts with
  | .symbol ")" :: rest => some (⟨.display true [], true⟩, rest)
  | .keyword "yield" :: .keyword "from" :: rest => do
    let (_, rest) ← level .expression rest
    let (_, rest) ← symbol ")" rest
    pure (foreign "YieldFrom", rest)
  | .keyword "yield" :: rest => do
    let (_, rest) ← listed (yielded level) ")" rest
    pure (foreign "Yield", rest)
  | ts => do
    let (first, ts) ← element level ts
    let ((items, comma), ts) ← afterFirst level first ")" ts
    match items, comma with
    | none, _ => pure (foreign "GeneratorExp", ts)
    | some items, true => pure (display true items, ts)
    | some _, false => if first.2 then none else pure (first.1, ts)
where
  /-- A value that is yielded. -/
  yielded (level : Level → Reader Term) : Reader Term
    | .symbol "*" :: rest => level .arithmetic rest
    | ts => level .expression ts

/-- After an opening square bracket: a list. -/
private def square (ts : List Token) : Option (Term × List Token) :=
  match ts with
  | .symbol "]" :: rest => some (⟨.display false [], true⟩, rest)
  | ts => do
    let (first, ts) ← element level ts
    let ((items, _), ts) ← afterFirst level first "]" ts
    match items with
    | none => pure (foreign "ListComp", ts)
    | some items => pure (display false items, ts)

private def entry : Reader Unit
  | .symbol "**" :: rest => (level .arithmetic rest).map fun r => ((), r.2)
  | ts => do
    let (_, ts) ← level .expression ts
    let (_, ts) ← symbol ":" ts
    let (_, ts) ← level .expression ts
    pure ((), ts)

/-- What follows the first element of a display in curly brackets. -/
private def afterFirstCurly (item : Reader Unit) (plain comprehension : String) (starred : Bool)
    (ts : List Token) : Option (Term × List Token) :=
  if (startsClause ts).isSome then do
    if starred then none
    else
      let ts ← clauses level ts
      let (_, ts) ← symbol "\x7d" ts
      pure (foreign comprehension, ts)
  else
    match symbol "\x7d" ts with
    | some (_, ts) => some (foreign plain, ts)
    | none => do
      let (_, ts) ← symbol "," ts
      let (_, ts) ← listed item "\x7d" ts
      pure (foreign plain, ts)

/-- After an opening curly bracket: a mapping or a set. -/
private def curly (ts : List Token) : Option (Term × List Token) :=
  let members : Reader Unit := fun ts => (element level ts).map fun r => ((), r.2)
  match ts with
  | .symbol "\x7d" :: rest => some (foreign "Dict", rest)
  | .symbol "**" :: _ => do
    let (_, ts) ← entry level ts
    afterFirstCurly level (entry level) "Dict" "DictComp" true ts
  | .symbol "*" :: _ => do
    let (_, ts) ← element level ts
    afterFirstCurly level members "Set" "SetComp" true ts
  | .name _ :: .symbol ":=" :: _ => do
    let (_, ts) ← element level ts
    afterFirstCurly level members "Set" "SetComp" false ts
  | ts => do
    let (_, rest) ← level .expression ts
    match symbol ":" rest with
    | none => afterFirstCurly level members "Set" "SetComp" false rest
    | some (_, rest) =>
      let (_, rest) ← level .expression rest
      afterFirstCurly level (entry level) "Dict" "DictComp" false rest

/-- The kinds of arguments that have been read, which decide what may follow. -/
private inductive Phase where
  | positional
  | named
  | unpacked
  deriving DecidableEq

private def argument (phase : Phase) : Reader Phase
  | .symbol "**" :: rest => (level .expression rest).map fun r => (.unpacked, r.2)
  | .symbol "*" :: rest =>
    if phase = .unpacked then none else (level .expression rest).map fun r => (phase, r.2)
  | .name _ :: .symbol "=" :: rest =>
    (level .expression rest).map fun r => (if phase = .unpacked then .unpacked else .named, r.2)
  | ts => if phase = .positional then (named level ts).map fun r => (.positional, r.2) else none

private def afterArgument (phase : Phase) (ts : List Token) : Option (List Token) := do
  let ((_, _), ts) ← repeated (fun (phase, closed) ts =>
    if closed then some none
    else
      match symbol ")" ts with
      | some (_, ts) => some (some ((phase, true), ts))
      | none => do
        let (_, ts) ← symbol "," ts
        match symbol ")" ts with
        | some (_, ts) => some (some ((phase, true), ts))
        | none =>
          let (phase, ts) ← argument level phase ts
          some (some ((phase, false), ts))) (phase, false) ts
  pure ts

private def arguments (ts : List Token) : Option (List Token) := do
  let (phase, ts) ← argument level .positional ts
  afterArgument level phase ts

/-- After the opening bracket of a call: its arguments, or one comprehension. -/
private def call (ts : List Token) : Option (List Token) :=
  match ts with
  | .symbol ")" :: ts => some ts
  | .symbol "*" :: _ | .symbol "**" :: _ | .name _ :: .symbol "=" :: _ => arguments level ts
  | ts => do
    let (_, ts) ← named level ts
    if (startsClause ts).isSome then
      let ts ← clauses level ts
      let (_, ts) ← symbol ")" ts
      pure ts
    else afterArgument level .positional ts

private def endsSlicePart : List Token → Bool
  | .symbol s :: _ => s = ":" || s = "," || s = "]"
  | _ => false

private def slicePart (ts : List Token) : Option (List Token) :=
  if endsSlicePart ts then some ts else (level .expression ts).map (·.2)

private def sliceTail (ts : List Token) : Option (Term × List Token) := do
  let ts ← slicePart level ts
  match symbol ":" ts with
  | none => pure (foreign "Slice", ts)
  | some (_, ts) =>
    let ts ← slicePart level ts
    pure (foreign "Slice", ts)

private def slice : Reader (Term × Bool)
  | .symbol "*" :: rest => (level .expression rest).map fun r => ((foreign "Starred", true), r.2)
  | .symbol ":" :: rest => (sliceTail level rest).map fun r => ((r.1, false), r.2)
  | .name id :: .symbol ":=" :: rest =>
    (named level (.name id :: .symbol ":=" :: rest)).map fun r => ((r.1, false), r.2)
  | ts => do
    let (t, ts) ← level .expression ts
    match symbol ":" ts with
    | none => pure ((t, false), ts)
    | some (_, ts) =>
      let (t, ts) ← sliceTail level ts
      pure ((t, false), ts)

/-- After the opening bracket of a subscript: one index, or several as a tuple. -/
private def indices (ts : List Token) : Option (Expr × List Token) := do
  let ((items, comma), ts) ← listed (slice level) "]" ts
  match items with
  | [] => none
  | [(t, false)] => pure (if comma then .display true [t.expr] else t.expr, ts)
  | items => pure (.display true (items.map (·.1.expr)), ts)

/-- What may stand among the parameters of a lambda at a point. -/
private structure Parameters where
  /-- A parameter has been read. -/
  any : Bool := false
  /-- A parameter with a default has been read. -/
  defaulted : Bool := false
  /-- The mark after the parameters that have no name for callers has been read. -/
  slashed : Bool := false
  /-- A star has been read. -/
  starred : Bool := false
  /-- A bare star has been read, and no parameter after it. -/
  pending : Bool := false
  /-- The parameter for further named arguments has been read. -/
  closed : Bool := false

private def parameter (p : Parameters) : Reader Parameters
  | .symbol "/" :: rest =>
    if p.any && !p.slashed && !p.starred then some ({ p with slashed := true }, rest) else none
  | .symbol "**" :: .name _ :: rest => if p.pending then none else some ({ p with closed := true }, rest)
  | .symbol "*" :: .name _ :: rest => if p.starred then none else some ({ p with starred := true }, rest)
  | .symbol "*" :: rest =>
    if p.starred then none else some ({ p with starred := true, pending := true }, rest)
  | .name _ :: .symbol "=" :: rest =>
    (level .expression rest).map fun r => ({ p with any := true, defaulted := true, pending := false }, r.2)
  | .name _ :: rest =>
    if p.defaulted && !p.starred then none else some ({ p with any := true, pending := false }, rest)
  | _ => none

private def parameters (ts : List Token) : Option (List Token) :=
  match symbol ":" ts with
  | some (_, ts) => some ts
  | none => do
    let ((p, _), ts) ← repeated (fun ((p : Parameters), ended) ts =>
      if ended then some none
      else do
        let (p, ts) ← if p.closed then none else parameter level p ts
        match symbol ":" ts with
        | some (_, ts) => some (some ((p, true), ts))
        | none =>
          let (_, ts) ← symbol "," ts
          match symbol ":" ts with
          | some (_, ts) => some (some ((p, true), ts))
          | none => some (some ((p, false), ts))) (({} : Parameters), false) ts
    if p.pending then none else pure ts

/-- An expression: a lambda, a conditional expression or what binds tighter. -/
def expression : Reader Term
  | .keyword "lambda" :: rest => do
    let ts ← parameters level rest
    let (_, ts) ← level .expression ts
    pure (foreign "Lambda", ts)
  | ts => do
    let (t, ts) ← level .disjunction ts
    match keyword "if" ts with
    | none => pure (t, ts)
    | some (_, ts) =>
      let (_, ts) ← level .disjunction ts
      let (_, ts) ← keyword "else" ts
      let (_, ts) ← level .expression ts
      pure (foreign "IfExp", ts)

def disjunction : Reader Term :=
  junction .or "or" (junction .and "and" (level .inversion))

def inversion : Reader Term
  | .keyword "not" :: rest => (level .inversion rest).map fun (t, ts) => (⟨.unary .not t.expr, false⟩, ts)
  | ts => do
    let ((first, more), ts) ← joined compareOp (level .arithmetic) ts
    if more.isEmpty then pure (first, ts)
    else pure (⟨.compare first.expr (more.map fun (op, t) => (op, t.expr)), false⟩, ts)

def arithmetic (ts : List Token) : Option (Term × List Token) := do
  let ((first, more), ts) ← joined arithmeticOp (level .factor) ts
  pure (if more.isEmpty then first else foreign "BinOp", ts)

def factor (ts : List Token) : Option (Term × List Token) :=
  match ts with
  | [] => none
  | t :: rest =>
    match unaryOp t with
    | some op => (level .factor rest).map fun (t, ts) => (⟨.unary op t.expr, false⟩, ts)
    | none => do
      let (t, ts) ← match keyword "await" ts with
        | some (_, ts) => (level .primary ts).map fun r => (foreign "Await", r.2)
        | none => level .primary ts
      match symbol "**" ts with
      | none => pure (t, ts)
      | some (_, ts) => (level .factor ts).map fun r => (foreign "BinOp", r.2)

/-- Whether a text is an expression that can stand inside a formatted literal. -/
private def isField (s : List Char) : Bool :=
  match tokens (['('] ++ s ++ [')']) with
  | some ts =>
    match level .expression ts with
    | some (_, rest) => rest.isEmpty
    | none => false
  | none => false

/-- What ends a stretch of plain text in a formatted literal. -/
private inductive Stop where
  | atEnd
  | doubled (rest : List Char)
  | opened (rest : List Char)
  | closed (rest : List Char)

/-- The text after the braces of a name, which come first if there are any. -/
private def afterName (s : List Char) : List Char :=
  if s.head? = some '\x7b' then (s.dropWhile (· ≠ '\x7d')).drop 1 else s.drop 1

/-- The plain text up to the next expression of a formatted literal. Braces are doubled to stand for
themselves, except inside a format and around the name of a character. A backslash before a brace that is
not doubled stands for itself. -/
private def plainText (raw nested : Bool) : Nat → List Char → List Char → Option (List Char × Stop)
  | 0, _, _ => none
  | _, read, [] => some (read.reverse, .atEnd)
  | fuel + 1, read, c :: rest =>
    if c = '\\' ∧ !raw then
      match rest with
      | d :: more =>
        if d = '\x7b' ∨ d = '\x7d' then brace ('\\' :: read) ('\\' :: '\\' :: read) d more
        else if d = 'N' then
          let after := afterName more
          plainText raw nested fuel ((more.take (more.length - after.length)).reverse ++ d :: '\\' :: read) after
        else plainText raw nested fuel (d :: '\\' :: read) more
      | [] => some ((c :: read).reverse, .atEnd)
    else if c = '\x7b' ∨ c = '\x7d' then brace read read c rest
    else plainText raw nested fuel (c :: read) rest
where
  /-- At a brace, after what was read if it is doubled and if it is single. -/
  brace (double single : List Char) (c : Char) (rest : List Char) : Option (List Char × Stop) :=
    if !nested && rest.head? = some c then some ((c :: double).reverse, .doubled (rest.drop 1))
    else if c = '\x7b' then some (single.reverse, .opened rest)
    else if nested then some (single.reverse, .closed rest)
    else none

/-- The text of an expression in a formatted literal: up to a conversion, a format or the closing brace
that stands outside brackets and quotes. -/
private def fieldText : Nat → Option (Char × Bool) → List Char → List Char → List Char →
    Option (List Char × List Char)
  | 0, _, _, _, _ => none
  | _, _, _, _, [] => none
  | fuel + 1, quote, opened, read, c :: rest =>
    if c = '\\' then none
    else
      match quote with
      | some (q, false) => fieldText fuel (if c = q then none else quote) opened (c :: read) rest
      | some (q, true) =>
        match rest with
        | d :: e :: more =>
          if c = q ∧ d = q ∧ e = q then fieldText fuel none opened (e :: d :: c :: read) more
          else fieldText fuel quote opened (c :: read) rest
        | _ => none
      | none =>
        if c = '\'' ∨ c = '"' then
          match rest with
          | d :: e :: more =>
            if d = c ∧ e = c then fieldText fuel (some (c, true)) opened (e :: d :: c :: read) more
            else fieldText fuel (some (c, false)) opened (c :: read) rest
          | _ => fieldText fuel (some (c, false)) opened (c :: read) rest
        else if c = '(' ∨ c = '[' ∨ c = '\x7b' then
          if maxNesting ≤ opened.length then none else fieldText fuel none (c :: opened) (c :: read) rest
        else if c = '#' then none
        else
          match opened with
          | [] =>
            if c = '!' ∨ c = ':' ∨ c = '\x7d' ∨ c = '=' ∨ c = '<' ∨ c = '>' then
              match rest with
              | '=' :: more =>
                if c = '!' ∨ c = '=' ∨ c = '<' ∨ c = '>' then fieldText fuel none [] ('=' :: c :: read) more
                else some (read.reverse, c :: rest)
              | _ =>
                if c = '<' ∨ c = '>' then fieldText fuel none [] (c :: read) rest
                else some (read.reverse, c :: rest)
            else if c = ')' ∨ c = ']' then none
            else fieldText fuel none [] (c :: read) rest
          | o :: outer =>
            if c = ')' ∨ c = ']' ∨ c = '\x7d' then
              if (o = '(' ∧ c = ')') ∨ (o = '[' ∧ c = ']') ∨ (o = '\x7b' ∧ c = '\x7d') then
                fieldText fuel none outer (c :: read) rest
              else none
            else fieldText fuel none opened (c :: read) rest

private def isSpaceOfField (c : Char) : Bool :=
  c = ' ' || c = '\t' || c = '\n' || c = '\x0c'

private def isAsciiBlank (c : Char) : Bool :=
  c = ' ' || (9 ≤ c.toNat && c.toNat ≤ 13)

/-- Check a formatted literal, or a format inside one, up to its end; what follows the format. -/
private def formatted (raw : Bool) : Nat → Nat → List Char → Option (List Char)
  | 0, _, _ => none
  | fuel + 1, depth, s => do
    let (plain, stop) ← plainText raw (depth ≠ 0) (s.length + 1) [] s
    let _ ← textOf raw plain
    match stop with
    | .atEnd => if depth = 0 then some [] else none
    | .doubled rest => formatted raw fuel depth rest
    | .closed rest => some ('\x7d' :: rest)
    | .opened rest =>
      if 2 ≤ depth then none
      else
        let (field, rest) ← fieldText (rest.length + 1) none [] [] rest
        if field.all isSpaceOfField || !isField level field then none
        else
          let rest := match rest with
            | '=' :: more => more.dropWhile isAsciiBlank
            | rest => rest
          let rest ← match rest with
            | '!' :: c :: more => if c = 's' ∨ c = 'r' ∨ c = 'a' then some more else none
            | '!' :: [] => none
            | rest => some rest
          let rest ← match rest with
            | ':' :: more => formatted raw fuel (depth + 1) more
            | rest => some rest
          match rest with
          | '\x7d' :: rest => formatted raw fuel depth rest
          | _ => none

/-- A quoted literal by itself. -/
private inductive Piece where
  | text (codes : List Nat)
  | bytes (bs : List UInt8)
  | formatted

private def piece : Token → Option Piece
  | .literal .text raw body => (textOf raw body).map .text
  | .literal .bytes raw body => (bytesOf raw body).map .bytes
  | .literal .formatted raw body => (formatted level raw (2 * body.length + 2) 0 body).map fun _ => .formatted
  | _ => none

private def isLiteral : Token → Bool
  | .literal .. => true
  | _ => false

/-- Literals side by side are one: all of them texts, or all of them bytes. -/
private def literals (ts : List Token) : Option (Term × List Token) := do
  let pieces ← (ts.takeWhile isLiteral).mapM (piece level)
  let rest := ts.dropWhile isLiteral
  let isBytes := fun | Piece.bytes _ => true | _ => false
  let isFormatted := fun | Piece.formatted => true | _ => false
  if pieces.any isBytes then
    if pieces.all isBytes then
      pure (⟨.constant (.bytes (pieces.flatMap fun | .bytes bs => bs | _ => [])), false⟩, rest)
    else none
  else if pieces.any isFormatted then pure (foreign "JoinedStr", rest)
  else
    pure (⟨.constant (.ofCodes (pieces.flatMap fun | .text codes => codes | _ => [])), false⟩, rest)

private def constant (v : Value) : Term := ⟨.constant v, false⟩

/-- A name, a literal, or something in brackets. -/
def atom : Reader Term
  | .name id :: rest => some (⟨.name id, true⟩, rest)
  | .keyword "True" :: rest => some (constant (.bool true), rest)
  | .keyword "False" :: rest => some (constant (.bool false), rest)
  | .keyword "None" :: rest => some (constant .null, rest)
  | .number v :: rest => some (constant v, rest)
  | .symbol "..." :: rest => some (constant .ellipsis, rest)
  | .symbol "(" :: rest => round level rest
  | .symbol "[" :: rest => square level rest
  | .symbol "\x7b" :: rest => curly level rest
  | .literal q raw body :: rest => literals level (.literal q raw body :: rest)
  | _ => none

/-- An atom with the attributes, subscripts and calls after it. -/
def primary (ts : List Token) : Option (Term × List Token) := do
  let (t, ts) ← atom level ts
  repeated (fun (t : Term) ts =>
    match ts with
    | .symbol "." :: .name id :: rest => some (some (⟨.attribute t.expr id, true⟩, rest))
    | .symbol "." :: _ => none
    | .symbol "[" :: rest =>
      (indices level rest).map fun (index, ts) => some (⟨.subscript t.expr index, true⟩, ts)
    | .symbol "(" :: rest => (call level rest).map fun ts => some (foreign "Call", ts)
    | _ => some none) t ts

end Rules

/-- The reader of a level, which goes a limited number of levels down. -/
def level : Nat → Level → Reader Term
  | 0, _ => fun _ => none
  | fuel + 1, l =>
    match l with
    | .expression => expression (level fuel)
    | .disjunction => disjunction (level fuel)
    | .inversion => inversion (level fuel)
    | .arithmetic => arithmetic (level fuel)
    | .factor => factor (level fuel)
    | .primary => primary (level fuel)

/-- A whole text: one expression, or several with commas between them as a tuple. -/
def whole (level : Level → Reader Term) (ts : List Token) : Option Expr := do
  let ((first, more), rest) ← joined (fun ts =>
    match ts with
    | .symbol "," :: t :: rest => (match t with | .newline => none | _ => some ((), t :: rest))
    | _ => none) (level .expression) ts
  let (comma, rest) := match rest with
    | .symbol "," :: rest => (true, rest)
    | rest => (false, rest)
  if rest.all fun | .newline => true | _ => false then
    pure (if comma || !more.isEmpty then .display true (first.expr :: more.map (·.2.expr))
      else first.expr)
  else none

end Grammar

/-- The expression that a text writes. -/
def parse (s : List Char) : Option Expr := do
  let ts ← tokens s
  Grammar.whole (Grammar.level (8 * s.length + 8)) ts

end GraphGateway.Filter
