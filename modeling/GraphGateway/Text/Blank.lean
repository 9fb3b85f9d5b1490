import GraphGateway.Text.Ranges

/-!
# Blank characters

The white space of Unicode 14 with the four separators of ASCII, and trimming by it.
-/

namespace GraphGateway.Text

def blanks : Ranges :=
  [(0x9, 0xD), (0x1C, 0x20), (0x85, 0x85), (0xA0, 0xA0), (0x1680, 0x1680), (0x2000, 0x200A),
   (0x2028, 0x2029), (0x202F, 0x202F), (0x205F, 0x205F), (0x3000, 0x3000)]

def isBlank (c : Char) : Bool :=
  blanks.contains c.toNat

theorem isBlank_of_isWhitespace {c : Char} (h : c.isWhitespace = true) : isBlank c = true := by
  simp only [Char.isWhitespace, Bool.or_eq_true, decide_eq_true_eq] at h
  rcases h with (((rfl | rfl) | rfl) | rfl) <;> decide

/-- A text without the characters of a class at either end. -/
def trimBy (p : Char → Bool) (s : List Char) : List Char :=
  ((s.dropWhile p).reverse.dropWhile p).reverse

theorem sublist_trimBy (p : Char → Bool) (s : List Char) : (trimBy p s).Sublist s := by
  have ended := (List.dropWhile_sublist p (l := (s.dropWhile p).reverse)).reverse
  rw [List.reverse_reverse] at ended
  exact ended.trans (List.dropWhile_sublist p)

theorem trimBy_of_none {p : Char → Bool} {s : List Char} (none : ∀ c ∈ s, p c = false) : trimBy p s = s := by
  have kept : ∀ {s : List Char}, (∀ c ∈ s, p c = false) → s.dropWhile p = s := by
    intro s none
    cases s with
    | nil => rfl
    | cons c rest => simp [none c List.mem_cons_self]
  rw [trimBy, kept none, kept fun c member => none c (List.mem_reverse.mp member), List.reverse_reverse]

def trim (s : List Char) : List Char :=
  trimBy isBlank s

end GraphGateway.Text
