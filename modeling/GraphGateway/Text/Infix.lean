/-!
# Parts of texts
-/

namespace GraphGateway.Text

/-- Whether a list occurs in another one as a run. -/
def isInfix [BEq α] (part : List α) : List α → Bool
  | [] => part.isEmpty
  | c :: rest => part.isPrefixOf (c :: rest) || isInfix part rest

theorem isInfix_iff [BEq α] [LawfulBEq α] {part s : List α} : isInfix part s = true ↔ part <:+: s := by
  induction s with
  | nil => simp [isInfix]
  | cons c rest ih => simp [isInfix, List.infix_cons_iff, ih]

end GraphGateway.Text
