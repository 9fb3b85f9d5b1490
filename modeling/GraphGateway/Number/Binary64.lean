/-!
# Double precision numbers

Binary floating point numbers of 64 bits as exact data: a finite one is a signed multiple of a power of
two. Every operation is done in integers and rounded once, to the nearest number and on a tie to the
even one.
-/

namespace GraphGateway.Number

inductive Binary64 where
  /-- The number `± significand · 2 ^ exponent`. -/
  | finite (negative : Bool) (significand : Nat) (exponent : Int)
  | infinite (negative : Bool)
  | nan
  deriving Repr, DecidableEq, Inhabited

namespace Binary64

/-- Every finite number is a multiple of `2 ^ minExponent`. -/
def minExponent : Int := -1074

/-- The exponent of the greatest finite numbers. -/
def maxExponent : Int := 971

/-- Significands are below this bound, and from half of it on unless the exponent is the least one. -/
def significandBound : Nat := Nat.pow 2 53

/-- The quotient of two numbers, rounded to the nearest integer, a half to the even one. -/
def roundQuotient (num den : Nat) : Nat :=
  let q := num / den
  let r := num % den
  if den < 2 * r ∨ (den = 2 * r ∧ q % 2 = 1) then q + 1 else q

/-- `num / den / 2 ^ e` as a fraction. -/
def scaleDown (num den : Nat) (e : Int) : Nat × Nat :=
  if 0 ≤ e then (num, den * Nat.pow 2 e.toNat) else (num * Nat.pow 2 (-e).toNat, den)

/-- The number nearest to `± num / den`. -/
def ofRatio (negative : Bool) (num den : Nat) : Binary64 :=
  if num = 0 then .finite negative 0 minExponent
  else
    let guess : Int := (num.log2 : Int) - (den.log2 : Int) - 53
    let scaled := scaleDown num den guess
    let fit := if scaled.1 < significandBound * scaled.2 then guess else guess + 1
    let e := max fit minExponent
    let (n, d) := scaleDown num den e
    let m := roundQuotient n d
    let (m, e) := if m = significandBound then (significandBound / 2, e + 1) else (m, e)
    if maxExponent < e then .infinite negative else .finite negative m e

def ratio (significand : Nat) (exponent : Int) : Nat × Nat :=
  if 0 ≤ exponent then (significand * Nat.pow 2 exponent.toNat, 1) else (significand, Nat.pow 2 (-exponent).toNat)

def ofInt (n : Int) : Binary64 :=
  ofRatio (n < 0) n.natAbs 1

/-- The number nearest to `± digits · 10 ^ power`. -/
def ofDecimal (negative : Bool) (digits : Nat) (power : Int) : Binary64 :=
  if digits = 0 then .finite negative 0 minExponent
  else if 400 < power then .infinite negative
  else if power + (digits.log2 : Int) < -1200 then .finite negative 0 minExponent
  else if 0 ≤ power then ofRatio negative (digits * Nat.pow 10 power.toNat) 1
  else ofRatio negative digits (Nat.pow 10 (-power).toNat)

def zero : Binary64 := .finite false 0 minExponent

def neg : Binary64 → Binary64
  | .finite s m e => .finite (!s) m e
  | .infinite s => .infinite (!s)
  | .nan => .nan

def isZero : Binary64 → Bool
  | .finite _ 0 _ => true
  | _ => false

/-- An extended rational: how numbers of every kind are compared. -/
inductive Exact where
  | below
  | ratio (num : Int) (den : Nat)
  | above
  deriving Repr, DecidableEq

/-- The exact value, none for a NaN. -/
def toExact : Binary64 → Option Exact
  | .finite s m e =>
    let (n, d) := Binary64.ratio m e
    some (.ratio (if s then -(n : Int) else n) d)
  | .infinite true => some .below
  | .infinite false => some .above
  | .nan => none

def Exact.compare : Exact → Exact → Ordering
  | .ratio a b, .ratio c d => Ord.compare (a * d) (c * b)
  | .below, .below => .eq
  | .above, .above => .eq
  | .below, _ => .lt
  | _, .below => .gt
  | .above, _ => .gt
  | _, .above => .lt

def add : Binary64 → Binary64 → Binary64
  | .nan, _ => .nan
  | _, .nan => .nan
  | .infinite s, .infinite t => if s = t then .infinite s else .nan
  | .infinite s, _ => .infinite s
  | _, .infinite s => .infinite s
  | .finite s m e, .finite t n f =>
    let low := min e f
    let a : Int := (m * Nat.pow 2 (e - low).toNat : Nat)
    let b : Int := (n * Nat.pow 2 (f - low).toNat : Nat)
    let sum := (if s then -a else a) + (if t then -b else b)
    if sum = 0 then .finite (s && t) 0 minExponent
    else
      let (num, den) := Binary64.ratio sum.natAbs low
      ofRatio (sum < 0) num den

end Binary64

end GraphGateway.Number
