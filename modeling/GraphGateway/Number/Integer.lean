import GraphGateway.Text.Blank
import GraphGateway.Text.Digit

/-!
# Reading integers

A written integer is white space, an optional sign, decimals of any system with single underscores
between them, and white space. A numeral has at most `maxDigits` digits. The separators of ASCII are no
white space around a numeral.
-/

namespace GraphGateway.Number

open Text

def maxDigits : Nat := 4300

def isNumeralBlank (c : Char) : Bool :=
  isBlank c && !(0x1C ≤ c.toNat && c.toNat ≤ 0x1F)

def trimNumeral (s : List Char) : List Char :=
  trimBy isNumeralBlank s

/-- The digits of a numeral whose digits may be separated by single underscores. -/
def readDigits (value : Char → Option Nat) : List Char → Option (List Nat)
  | [] => none
  | [c] => (value c).map ([·])
  | c :: '_' :: rest => do
    let d ← value c
    let ds ← readDigits value rest
    pure (d :: ds)
  | c :: rest => do
    let d ← value c
    let ds ← readDigits value rest
    pure (d :: ds)

def ofDigits (base : Nat) (digits : List Nat) : Nat :=
  digits.foldl (fun n d => base * n + d) 0

/-- Why a text is no integer. -/
inductive Unread where
  /-- The text is not a written integer. -/
  | malformed
  /-- The numeral has too many digits. -/
  | tooLong (digits : Nat)
  deriving Repr, DecidableEq

private def isNumeralChar (c : Char) : Bool :=
  isDecimal c || c = '_'

/-- The integer that a text writes. A numeral that is too long is refused whatever comes after it. -/
def readInt (s : List Char) : Except Unread Int :=
  let (negative, body) := match trimNumeral s with
    | '-' :: rest => (true, rest)
    | '+' :: rest => (false, rest)
    | rest => (false, rest)
  match readDigits decimalValue (body.takeWhile isNumeralChar) with
  | none => .error .malformed
  | some ds =>
    if maxDigits < ds.length then .error (.tooLong ds.length)
    else if body.all isNumeralChar then
      let n : Int := ofDigits 10 ds
      .ok (if negative then -n else n)
    else .error .malformed

/-- Decimals with nothing around them are read as the number that they stand for, unless they are too many. -/
theorem readInt_decimals {s : List Char} {digits : List Nat} (trimmed : trimNumeral s = s)
    (decimals : ∀ c ∈ s, isDecimal c = true) (read : readDigits decimalValue s = some digits) :
    readInt s = if maxDigits < digits.length then .error (.tooLong digits.length) else .ok (ofDigits 10 digits) := by
  have whole : ∀ c ∈ s, isNumeralChar c = true := fun c member => by simp [isNumeralChar, decimals c member]
  have taken : s.takeWhile isNumeralChar = s := by
    rw [← List.append_nil s, List.takeWhile_append_of_pos (by simpa using whole), List.takeWhile_nil]
  unfold readInt
  rw [trimmed]
  split
  rename_i negative body signed
  split at signed
  · exact absurd (decimals '-' List.mem_cons_self) (by decide)
  · exact absurd (decimals '+' List.mem_cons_self) (by decide)
  · obtain ⟨rfl, rfl⟩ := Prod.mk.inj signed
    simp only [taken, read, List.all_eq_true.mpr whole]
    rfl

theorem readInt_nonneg {s : List Char} {n : Int} (unsigned : '-' ∉ s) (read : readInt s = .ok n) : 0 ≤ n := by
  unfold readInt at read
  split at read
  rename_i negative body signed
  split at signed
  · rename_i rest trimmed
    have member : '-' ∈ trimNumeral s := trimmed ▸ List.mem_cons_self
    exact absurd ((sublist_trimBy isNumeralBlank s).subset member) unsigned
  all_goals
    obtain ⟨rfl, rfl⟩ := Prod.mk.inj signed
    simp only at read
    split at read
    · cases read
    · split at read
      · cases read
      · split at read
        · cases read
          exact Int.natCast_nonneg _
        · cases read

end GraphGateway.Number
