import GraphGateway.Text.Normal.Table

/-!
# Normal form of identifiers

Compatibility decomposition, canonical ordering of marks, then canonical composition (form KC of
Unicode 14), for texts of identifier characters. Two spellings of a name that differ only in the
form of their characters have one normal form.
-/

namespace GraphGateway.Text

private def hangulSyllable : Nat := 0xAC00
private def hangulLead : Nat := 0x1100
private def hangulVowel : Nat := 0x1161
private def hangulTail : Nat := 0x11A7

def decompose (c : Nat) : List Nat :=
  if c < 0x80 then [c]
  else if hangulSyllable ≤ c && c ≤ 0xD7A3 then
    let i := c - hangulSyllable
    let pair := [hangulLead + i / 588, hangulVowel + i % 588 / 28]
    if i % 28 = 0 then pair else pair ++ [hangulTail + i % 28]
  else
    match multipleDecompositions.find? (·.head? = some c) with
    | some record => record.drop 1
    | none =>
      let single := singleDecompositions.findSome? fun
        | [first, last, step, target] =>
          if first ≤ c && c ≤ last && (c - first) % step = 0 then some (target + (c - first)) else none
        | _ => none
      [single.getD c]

/-- The combining class of a code point, zero for one that combines with nothing before it. -/
def combiningClass (c : Nat) : Nat :=
  if c < 0x300 then 0
  else
    (combiningClasses.findSome? fun
      | [first, last, k] => if first ≤ c && c ≤ last then some k else none
      | _ => none).getD 0

/-- Put a code point behind the marks of no greater class. The text is held last character first. -/
private def placeMark (c : Nat) : List Nat → List Nat
  | [] => [c]
  | d :: rest =>
    if combiningClass c ≠ 0 ∧ combiningClass c < combiningClass d then d :: placeMark c rest
    else c :: d :: rest

/-- The whole that two code points compose to. -/
def composePair (a b : Nat) : Option Nat :=
  if hangulLead ≤ a ∧ a < hangulLead + 19 ∧ hangulVowel ≤ b ∧ b < hangulVowel + 21 then
    some (hangulSyllable + ((a - hangulLead) * 21 + (b - hangulVowel)) * 28)
  else if hangulSyllable ≤ a ∧ a ≤ 0xD7A3 ∧ (a - hangulSyllable) % 28 = 0 ∧
      hangulTail < b ∧ b < hangulTail + 28 then
    some (a + (b - hangulTail))
  else
    compositions.findSome? fun
      | [x, y, whole] => if x = a ∧ y = b then some whole else none
      | _ => none

/-- A text that is being composed: what is finished, the last starter, and the marks after it, both
texts last character first. -/
private structure Composing where
  done : List Nat
  starter : Option Nat
  marks : List Nat

private def Composing.toList (s : Composing) : List Nat :=
  (s.marks ++ s.starter.toList ++ s.done).reverse

private def Composing.push (s : Composing) (c : Nat) : Composing :=
  let k := combiningClass c
  match s.starter with
  | none => if k = 0 then { s with starter := some c } else { s with done := c :: s.done }
  | some a =>
    let blocked := match s.marks with
      | [] => false
      | m :: _ => k ≤ combiningClass m
    match if blocked then none else composePair a c with
    | some whole => { s with starter := some whole }
    | none =>
      if k = 0 then { done := s.marks ++ a :: s.done, starter := some c, marks := [] }
      else { s with marks := c :: s.marks }

def normalize (s : List Char) : List Char :=
  if s.all (·.toNat < 0x80) then s
  else
    let parts := s.flatMap (decompose ·.toNat)
    let ordered := (parts.foldl (fun text c => placeMark c text) []).reverse
    (ordered.foldl Composing.push ⟨[], none, []⟩).toList.map Char.ofNat

end GraphGateway.Text
