import GraphGateway.Text.Case.Table

/-!
# Upper and lower case

Case mapping of whole texts. A capital sigma is lowered by its neighbours: the final form stands after a
letter that no letter follows. Every other character is mapped by itself.
-/

namespace GraphGateway.Text

def CaseRun.target? (run : CaseRun) (c : Nat) : Option Nat :=
  if run.first ≤ c && c ≤ run.last && (c - run.first) % run.step = 0 then
    some (run.target + (c - run.first))
  else none

private def mapBy (runs : List CaseRun) (c : Char) : Char :=
  match runs.findSome? (·.target? c.toNat) with
  | some d => Char.ofNat d
  | none => c

/-- Whether the nearest neighbour that is not skipped has a case. -/
private def meetsLetter (neighbours : List Char) : Bool :=
  match neighbours.dropWhile (caseIgnorable.contains ·.toNat) with
  | [] => false
  | c :: _ => cased.contains c.toNat

/-- Lower case of one character, between the text before it, last character first, and the text after
it. -/
def lowerChar (before : List Char) (c : Char) (after : List Char) : List Char :=
  if c = 'Σ' then
    if meetsLetter before && !meetsLetter after then ['ς'] else ['σ']
  else if c = 'İ' then ['i', Char.ofNat 0x307]
  else [mapBy lowerRuns c]

private def lowerFrom (before : List Char) : List Char → List Char
  | [] => []
  | c :: after => lowerChar before c after ++ lowerFrom (c :: before) after

def lower (s : List Char) : List Char :=
  lowerFrom [] s

private theorem target_ascii {n : Nat} (ascii : n < 128) :
    lowerRuns.findSome? (·.target? n) = CaseRun.target? ⟨0x41, 0x5A, 1, 0x61⟩ n := by
  have above : ∀ run ∈ lowerRuns.tail, 128 ≤ run.first := by decide +kernel
  have none : lowerRuns.tail.findSome? (·.target? n) = none := by
    rw [List.findSome?_eq_none_iff]
    intro run member
    have beyond : ¬ run.first ≤ n := by
      have far := above run member
      omega
    simp [CaseRun.target?, beyond]
  have split : lowerRuns = ⟨0x41, 0x5A, 1, 0x61⟩ :: lowerRuns.tail := rfl
  rw [split, List.findSome?_cons, none]
  cases CaseRun.target? ⟨0x41, 0x5A, 1, 0x61⟩ n <;> rfl

private theorem lowerChar_ascii {c : Char} (ascii : c.toNat < 128) (before after : List Char) :
    lowerChar before c after = [c.toLower] := by
  have sigma : c ≠ 'Σ' := by
    rintro rfl
    exact absurd ascii (by decide)
  have dotted : c ≠ 'İ' := by
    rintro rfl
    exact absurd ascii (by decide)
  have mapped : ∀ n < 128, ((CaseRun.target? ⟨0x41, 0x5A, 1, 0x61⟩ n).map Char.ofNat).getD (Char.ofNat n) =
      (Char.ofNat n).toLower := by decide
  have plain := mapped c.toNat ascii
  rw [Char.ofNat_toNat, ← target_ascii ascii] at plain
  rw [lowerChar, if_neg sigma, if_neg dotted, ← plain, mapBy]
  cases lowerRuns.findSome? (·.target? c.toNat) <;> rfl

theorem lower_ascii {s : List Char} (ascii : ∀ c ∈ s, c.toNat < 128) : lower s = s.map Char.toLower := by
  have lowered : ∀ before, lowerFrom before s = s.map Char.toLower := by
    induction s with
    | nil => exact fun _ => rfl
    | cons c rest ih =>
        intro before
        rw [lowerFrom, lowerChar_ascii (ascii c List.mem_cons_self),
          ih fun d member => ascii d (List.mem_cons_of_mem c member)]
        rfl
  exact lowered []

/-- Lower case of a character: a capital sigma and a dotted capital i are spelled out, what a run holds goes where the
run leads, and anything else stays. -/
theorem lowerChar_cases (before : List Char) (c : Char) (after : List Char) :
    (c = 'Σ' ∨ c = 'İ') ∧ lowerChar before c after ∈ [['ς'], ['σ'], ['i', Char.ofNat 0x307]] ∨
    (∃ run ∈ lowerRuns, ∃ d, run.target? c.toNat = some d ∧ lowerChar before c after = [Char.ofNat d]) ∨
    (c ≠ 'Σ' ∧ c ≠ 'İ' ∧ ∀ run ∈ lowerRuns, run.target? c.toNat = none) ∧ lowerChar before c after = [c] := by
  by_cases sigma : c = 'Σ'
  · refine .inl ⟨.inl sigma, ?_⟩
    rw [lowerChar, if_pos sigma]
    split <;> simp
  by_cases dotted : c = 'İ'
  · refine .inl ⟨.inr dotted, ?_⟩
    rw [lowerChar, if_neg sigma, if_pos dotted]
    simp
  rw [lowerChar, if_neg sigma, if_neg dotted, mapBy]
  cases found : lowerRuns.findSome? (·.target? c.toNat) with
  | some d =>
      obtain ⟨run, member, leads⟩ := List.exists_of_findSome?_eq_some found
      exact .inr (.inl ⟨run, member, d, leads, rfl⟩)
  | none => exact .inr (.inr ⟨⟨sigma, dotted, List.findSome?_eq_none_iff.mp found⟩, rfl⟩)

theorem lower_induction {motive : List Char → List Char → Prop} (nil : motive [] [])
    (cons : ∀ before c after rest, motive after rest → motive (c :: after) (lowerChar before c after ++ rest))
    (s : List Char) : motive s (lower s) := by
  have onward : ∀ before, motive s (lowerFrom before s) := by
    induction s with
    | nil => exact fun _ => nil
    | cons c after ih => exact fun before => cons before c after _ (ih (c :: before))
  exact onward []

def upperChar (c : Char) : List Char :=
  match upperExpansions.find? (·.1 = c.toNat) with
  | some (_, parts) => parts.map Char.ofNat
  | none => [mapBy upperRuns c]

def upper (s : List Char) : List Char :=
  s.flatMap upperChar

end GraphGateway.Text
