import GraphGateway.Text.Blank
import GraphGateway.Text.Case
import GraphGateway.Text.Digit

/-!
# Snake case

The words of a name in lower case with single underscores between them. Words are parted by white
space, hyphens, underscores and points, and by capitals: a word begins at a capital after a small letter
or a decimal, and at the last capital of a run that a small letter follows.
-/

namespace GraphGateway.Text

def isCapital (c : Char) : Bool :=
  'A' ≤ c && c ≤ 'Z'

def isSmall (c : Char) : Bool :=
  'a' ≤ c && c ≤ 'z'

theorem isCapital_iff {c : Char} : isCapital c = true ↔ 65 ≤ c.toNat ∧ c.toNat ≤ 90 := by
  simp [isCapital, Char.le_def, UInt32.le_iff_toNat_le]

theorem isSmall_iff {c : Char} : isSmall c = true ↔ 97 ≤ c.toNat ∧ c.toNat ≤ 122 := by
  simp [isSmall, Char.le_def, UInt32.le_iff_toNat_le]

/-- Whether a word begins at a character, by the one before it and the one after it. -/
def beginsWord (before : Option Char) (c : Char) (after : Option Char) : Bool :=
  isCapital c &&
    ((before.any isCapital && after.any isSmall) || before.any (fun b => isSmall b || isDecimal b))

/-- Put an underscore before every capital that begins a word, after a given character. -/
def markWords (before : Option Char) : List Char → List Char
  | [] => []
  | c :: rest =>
    (if beginsWord before c rest.head? then ['_', c] else [c]) ++ markWords (some c) rest

def isSeparator (c : Char) : Bool :=
  isBlank c || c = '-' || c = '_' || c = '.'

/-- Replace every run of separators by one underscore; the flag tells that a run has begun. -/
def joinSeparators (inRun : Bool) : List Char → List Char
  | [] => []
  | c :: rest =>
    if isSeparator c then
      if inRun then joinSeparators true rest else '_' :: joinSeparators true rest
    else c :: joinSeparators false rest

def snake (s : List Char) : List Char :=
  lower (trimBy (· = '_') (joinSeparators false (markWords none s)))

end GraphGateway.Text
