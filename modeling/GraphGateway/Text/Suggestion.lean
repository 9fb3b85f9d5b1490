import GraphGateway.Text.Case

/-!
# Suggestions

Names that may have been meant by a name that is not known. Names are compared by the least number of
edits between them: a character put in, left out or replaced, or two neighbours swapped, where no part is
edited twice.
-/

namespace GraphGateway.Text

/-- One row of the table of distances, between the beginnings of a text that end with `c` and all
beginnings of another text. `up` is the row before it, and `before` the character before `c` with the row
before that. -/
private def distances (c : Char) (before : Option (Char × List Nat)) (left diagonal : Nat)
    (last : Option Char) : List Nat → List Char → List Nat
  | up :: ups, d :: ds =>
    let plain := min (min (up + 1) (left + 1)) (diagonal + if c = d then 0 else 1)
    let cell := match before, last with
      | some (b, far :: _), some l => if c = l ∧ b = d then min plain (far + 1) else plain
      | _, _ => plain
    let before := if last.isSome then before.map fun (b, row) => (b, row.tail) else before
    cell :: distances c before cell up (some d) ups ds
  | _, _ => []

private def distanceFrom (target : List Char) (done : Nat) (before : Option (Char × List Nat))
    (row : List Nat) : List Char → Nat
  | [] => row.getLast?.getD 0
  | c :: rest =>
    let next := (done + 1) :: distances c before (done + 1) done none row.tail target
    distanceFrom target (done + 1) (some (c, row)) next rest

/-- The number of edits between two texts. -/
def distance (s target : List Char) : Nat :=
  distanceFrom target 0 none (List.range (target.length + 1)) s

/-- How far two names are apart. Names that differ in case alone are one edit apart, and case does not
count otherwise. -/
def nameDistance (input option : String) : Nat :=
  if input = option then 0
  else
    let a := lower input.toList
    let b := lower option.toList
    if a = b then 1 else distance b a

/-- A name cut where its runs of digits begin and end, from a part that is no run of digits on. A run of
digits comes with the number that it writes. Names are written in ASCII. -/
def naturalParts (name : String) : List (Nat × String) :=
  let runs := name.toList.splitBy fun c d => c.isDigit == d.isDigit
  let parts := runs.map fun run => let part := String.ofList run; (part.toNat?.getD 0, part)
  if name.toList.head?.any Char.isDigit then (0, "") :: parts else parts

/-- Whether a name comes before another one, where numbers inside of names are compared as numbers. -/
def naturallyBefore (a b : String) : Bool :=
  List.lex (naturalParts a) (naturalParts b) fun x y => x.1 < y.1 || (x.1 = y.1 && x.2 < y.2)

/-- The known names that are near a name: at most two fifths of its length and one more edit away, the
nearest first, and those that are equally near in their natural order. -/
def suggestions (input : String) (known : List String) : List String :=
  let limit := input.length * 2 / 5 + 1
  let near := known.eraseDups.filterMap fun option =>
    let n := nameDistance input option
    if n ≤ limit then some (n, option) else none
  (near.mergeSort fun a b =>
    a.1 < b.1 || (a.1 = b.1 && !naturallyBefore b.2 a.2)).map (·.2)

/-- A question after the names that may have been meant, of which the first five are given. -/
def question (names : List String) : String :=
  match (names.take 5).map fun name => "'" ++ name ++ "'" with
  | [] => ""
  | [a] => " Did you mean " ++ a ++ "?"
  | [a, b] => " Did you mean " ++ a ++ " or " ++ b ++ "?"
  | more => " Did you mean " ++ ", ".intercalate more.dropLast ++ ", or " ++ more.getLast?.getD "" ++ "?"

end GraphGateway.Text
