import GraphGateway.Value.Basic

/-!
# Tokens of filter expressions
-/

namespace GraphGateway.Filter

/-- What a quoted literal denotes. -/
inductive Quotation where
  | text
  | bytes
  /-- A text with expressions in it. -/
  | formatted
  deriving Repr, DecidableEq

inductive Token where
  /-- An identifier, in normal form. -/
  | name (id : String)
  | keyword (word : String)
  /-- A number, given by its value. -/
  | number (v : Value)
  /-- A quoted literal: what it denotes, whether backslashes stand for themselves, and its body. -/
  | literal (quotation : Quotation) (raw : Bool) (body : List Char)
  | symbol (s : String)
  /-- The end of a line that holds something. -/
  | newline

/-- The words that are no identifiers. -/
def keywords : List String :=
  ["False", "None", "True", "and", "as", "assert", "async", "await", "break", "class", "continue",
   "def", "del", "elif", "else", "except", "finally", "for", "from", "global", "if", "import", "in",
   "is", "lambda", "nonlocal", "not", "or", "pass", "raise", "return", "try", "while", "with",
   "yield"]

def symbols : List String :=
  ["**=", "//=", ">>=", "<<=", "...", "!=", "->", ":=", "**", "//", ">>", "<<", "<=", ">=", "==",
   "<>", "+=", "-=", "*=", "/=", "%=", "&=", "|=", "^=", "@=", "+", "-", "*", "/", "%", "@", "&",
   "|", "^", "~", "<", ">", "=", "(", ")", "[", "]", "\x7b", "\x7d", ",", ":", ".", ";"]

end GraphGateway.Filter
