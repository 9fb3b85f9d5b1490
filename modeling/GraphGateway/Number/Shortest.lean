import GraphGateway.Number.Binary64

/-!
# Shortest decimal text

A finite double is written with the fewest significant digits that read back as it, and among those
with the nearest: for each count of digits the two neighbours of the number on that decimal grid are
tried, in exact arithmetic.
-/

namespace GraphGateway.Number.Binary64

private abbrev Fraction := Nat × Nat

private def Fraction.lt (a b : Fraction) : Bool := a.1 * b.2 < b.1 * a.2

private def timesTwo (m : Nat) (e : Int) : Fraction := ratio m e

private def timesTen (d : Nat) (power : Int) : Fraction :=
  if 0 ≤ power then (d * Nat.pow 10 power.toNat, 1) else (d, Nat.pow 10 (-power).toNat)

/-- Whether a decimal reads back as `m · 2 ^ e`: it lies between the halfway points to the two
neighbours, which count when `m` is even. -/
def readsBack (m : Nat) (e : Int) (d : Nat) (power : Int) : Bool :=
  let x := timesTen d power
  let low :=
    if m = significandBound / 2 ∧ minExponent < e then timesTwo (4 * m - 1) (e - 2)
    else timesTwo (2 * m - 1) (e - 1)
  let high := timesTwo (2 * m + 1) (e - 1)
  if m % 2 = 0 then !Fraction.lt x low && !Fraction.lt high x
  else Fraction.lt low x && Fraction.lt x high

/-- The least power of ten that is greater than `m · 2 ^ e`, counted up from a lower bound. -/
private def decimalPoint (m : Nat) (e : Int) : Nat → Int → Int
  | 0, p => p
  | fuel + 1, p =>
    if Fraction.lt (timesTwo m e) (timesTen 1 p) then p else decimalPoint m e fuel (p + 1)

/-- The digits of `m · 2 ^ e` on the grid of a given number of digits, if one of the two neighbours
there reads back. -/
private def onGrid (m : Nat) (e : Int) (point : Int) (count : Nat) : Option (Nat × Int) :=
  let power := point - count
  let (n, d) := timesTwo m e
  let (num, den) := if 0 ≤ power then (n, d * Nat.pow 10 power.toNat) else (n * Nat.pow 10 (-power).toNat, d)
  let floor := num / den
  let r := num % den
  let nearFloor := 2 * r < den ∨ (2 * r = den ∧ floor % 2 = 0)
  let first := if nearFloor then floor else floor + 1
  let second := if nearFloor then floor + 1 else floor
  if readsBack m e first power then some (first, power)
  else if readsBack m e second power then some (second, power)
  else none

private def search (m : Nat) (e : Int) (point : Int) : Nat → Nat → Nat × Int
  | 0, count => ((onGrid m e point count).getD (0, 0))
  | fuel + 1, count =>
    match onGrid m e point count with
    | some found => found
    | none => search m e point fuel (count + 1)

/-- The shortest decimal `digits · 10 ^ power` that reads back as `m · 2 ^ e`, for `m` not zero. -/
def shortest (m : Nat) (e : Int) : Nat × Int :=
  let bits : Int := m.log2 + e
  let guess := bits * 30103 / 100000 - 1
  search m e (decimalPoint m e 4 guess) 16 1

private def stripZeros (digits : List Char) : List Char :=
  (digits.reverse.dropWhile (· = '0')).reverse

/-- How a finite number is written: positionally when its first digit stands between the fourth place
after the point and the sixteenth before it, and with an exponent of at least two digits otherwise. -/
private def layout (digits : List Char) (point : Int) : List Char :=
  if -4 < point ∧ point ≤ 16 then
    if point ≤ 0 then ['0', '.'] ++ List.replicate (-point).toNat '0' ++ digits
    else
      let whole := digits.take point.toNat
      let fraction := digits.drop point.toNat
      whole ++ List.replicate (point.toNat - whole.length) '0' ++
        ['.'] ++ (if fraction.isEmpty then ['0'] else fraction)
  else
    let exponent := point - 1
    let magnitude := Nat.toDigits 10 exponent.natAbs
    digits.take 1 ++ (if digits.length ≤ 1 then [] else '.' :: digits.drop 1) ++
      ['e', if exponent < 0 then '-' else '+'] ++
      List.replicate (2 - magnitude.length) '0' ++ magnitude

def text : Binary64 → String
  | .nan => "nan"
  | .infinite true => "-inf"
  | .infinite false => "inf"
  | .finite s m e =>
    let body :=
      if m = 0 then ['0', '.', '0']
      else
        let (d, power) := shortest m e
        let written := Nat.toDigits 10 d
        layout (stripZeros written) (power + written.length)
    String.ofList (if s then '-' :: body else body)

end GraphGateway.Number.Binary64
