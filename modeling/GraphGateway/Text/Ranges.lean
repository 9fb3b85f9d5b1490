/-!
# Ranges of code points

A character class is a list of closed intervals of code points.
-/

namespace GraphGateway.Text

/-- Closed intervals of code points. -/
abbrev Ranges := List (Nat × Nat)

def Ranges.contains (ranges : Ranges) (c : Nat) : Bool :=
  ranges.any fun r => r.1 ≤ c && c ≤ r.2

theorem Ranges.contains_iff {ranges : Ranges} {c : Nat} :
    ranges.contains c = true ↔ ∃ r ∈ ranges, r.1 ≤ c ∧ c ≤ r.2 := by
  simp [Ranges.contains]

end GraphGateway.Text
