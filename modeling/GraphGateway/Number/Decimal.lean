import GraphGateway.Number.Integer
import GraphGateway.Number.Binary64

/-!
# Reading decimal fractions

A written decimal is digits with an optional point and exponent; the words for infinity and for no
number are read too. The nearest double is taken.
-/

namespace GraphGateway.Number

open Text

/-- The unsigned decimal `digits . fraction e exponent` as digits and a power of ten. -/
structure Decimal where
  digits : Nat
  power : Int

def Decimal.toBinary64 (d : Decimal) (negative : Bool) : Binary64 :=
  Binary64.ofDecimal negative d.digits d.power

private def readRun (s : List Char) : Option (List Nat) :=
  if s.isEmpty then some [] else readDigits decimalValue s

private def readExponent (s : List Char) : Option Int :=
  let (negative, digits) := match s with
    | '-' :: rest => (true, rest)
    | '+' :: rest => (false, rest)
    | rest => (false, rest)
  (readDigits decimalValue digits).map fun ds =>
    let n : Int := ofDigits 10 ds
    if negative then -n else n

def readDecimal (s : List Char) : Option Decimal := do
  let isMark := fun c => c = 'e' || c = 'E'
  let mantissa := s.takeWhile (!isMark ·)
  let exponent ← match s.dropWhile (!isMark ·) with
    | [] => some 0
    | _ :: rest => readExponent rest
  let whole ← readRun (mantissa.takeWhile (· ≠ '.'))
  let fraction ← readRun ((mantissa.dropWhile (· ≠ '.')).drop 1)
  if whole.isEmpty && fraction.isEmpty then none
  else some ⟨ofDigits 10 (whole ++ fraction), exponent - fraction.length⟩

def readReal (s : List Char) : Option Binary64 :=
  let (negative, body) := match trimNumeral s with
    | '-' :: rest => (true, rest)
    | '+' :: rest => (false, rest)
    | rest => (false, rest)
  let word := String.ofList (body.map Char.toLower)
  if word = "inf" || word = "infinity" then some (.infinite negative)
  else if word = "nan" then some .nan
  else (readDecimal body).map (·.toBinary64 negative)

end GraphGateway.Number
