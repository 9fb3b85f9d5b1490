/-!
# Lines and words

Cutting texts. A line ends at a line feed, at a carriage return, or at both in this order.
-/

namespace GraphGateway.Text

/-- The lines of a text, without their ends. An end at the end of the text starts no further line. -/
def lines : List Char → List (List Char)
  | [] => []
  | '\r' :: '\n' :: rest | '\r' :: rest | '\n' :: rest => [] :: lines rest
  | c :: rest =>
    match lines rest with
    | [] => [[c]]
    | line :: more => (c :: line) :: more

/-- Whether a character ends a line where lines are shown. -/
def endsShownLine (c : Char) : Bool :=
  ['\n', '\r', '\x0b', '\x0c', '\x1c', '\x1d', '\x1e', '\u0085', '\u2028', '\u2029'].contains c

/-- The lines of a text as they are shown, without their ends: further marks than line feed and carriage
return end one. -/
def shownLines : List Char → List (List Char)
  | [] => []
  | '\r' :: '\n' :: rest => [] :: shownLines rest
  | c :: rest =>
    if endsShownLine c then [] :: shownLines rest
    else
      match shownLines rest with
      | [] => [[c]]
      | line :: more => (c :: line) :: more

/-- The text after the sequence of a style, given what follows its escape and bracket. -/
private def afterStyle : List Char → Option (List Char)
  | [] => none
  | c :: rest =>
    if c = ';' || c = '?' || c.isDigit then afterStyle rest
    else if c.isAlpha then some rest
    else none

/-- A text without the sequences that style it on a terminal, which a number of steps may look for. -/
private def unstyledWithin : Nat → List Char → List Char
  | 0, s => s
  | _, [] => []
  | n + 1, c :: rest =>
    match c, rest with
    | '\x1b', '[' :: more =>
      match afterStyle more with
      | some after => unstyledWithin n after
      | none => c :: unstyledWithin n rest
    | _, _ => c :: unstyledWithin n rest

/-- A text without the sequences that style it on a terminal. -/
def unstyled (s : List Char) : List Char :=
  unstyledWithin s.length s

def cut (mark : Char) : List Char → Option (List Char × List Char)
  | [] => none
  | c :: rest =>
    if c = mark then some ([], rest) else (cut mark rest).map fun (before, after) => (c :: before, after)

theorem append_of_cut {mark : Char} {s before after : List Char} (h : cut mark s = some (before, after)) :
    s = before ++ mark :: after := by
  induction s generalizing before with
  | nil => simp [cut] at h
  | cons c rest ih =>
    by_cases hc : c = mark
    · simp_all [cut]
    · simp only [cut, hc, if_false, Option.map_eq_some_iff] at h
      obtain ⟨⟨b, a⟩, hb, he⟩ := h
      simp only [Prod.mk.injEq] at he
      obtain ⟨rfl, rfl⟩ := he
      simp [ih hb]

end GraphGateway.Text
