import GraphGateway.Text.Snake

/-!
# Lower case lasts

What lower case gives is left alone by lower case: no run of the case table leads back into a run. Nothing that it gives
is a capital of ASCII, and it makes no separators.
-/

namespace GraphGateway.Text

/-- Whether lower case leaves a character as it is, wherever it stands. -/
def IsLowered (c : Char) : Prop :=
  ∀ before after, lowerChar before c after = [c]

namespace CaseRun

variable {run other : CaseRun} {c d : Nat}

theorem target?_eq_some_iff :
    run.target? c = some d ↔
      (run.first ≤ c ∧ c ≤ run.last ∧ (c - run.first) % run.step = 0) ∧ d = run.target + (c - run.first) := by
  rw [target?, Option.ite_none_right_eq_some, Option.some_inj, @eq_comm _ _ d]
  simp only [Bool.and_eq_true, decide_eq_true_eq, and_assoc]

/-- Whether a run leads outside of an interval. -/
def avoids (run : CaseRun) (first last : Nat) : Bool :=
  last.blt run.target || (run.target + (run.last - run.first)).blt first

theorem outside_of_avoids {first last : Nat} (avoids : run.avoids first last = true) (leads : run.target? c = some d) :
    d < first ∨ last < d := by
  obtain ⟨held, rfl⟩ := target?_eq_some_iff.mp leads
  simp only [CaseRun.avoids, Bool.or_eq_true, Nat.blt_eq] at avoids
  omega

/-- Whether a run leads past another one, or between the code points that it holds if it holds every other one. -/
def escapes (run other : CaseRun) : Bool :=
  run.avoids other.first other.last ||
    (other.step == 2 && (run.step == 2 || run.first == run.last) && (run.target + other.first) % 2 == 1)

theorem target?_of_escapes (escapes : run.escapes other = true) (leads : run.target? c = some d) :
    other.target? d = none := by
  rw [Option.eq_none_iff_forall_ne_some]
  intro e again
  obtain ⟨inside, -⟩ := target?_eq_some_iff.mp again
  simp only [CaseRun.escapes, Bool.or_eq_true, Bool.and_eq_true, beq_iff_eq] at escapes
  rcases escapes with avoids | ⟨⟨double, between⟩, odd⟩
  · have outside := outside_of_avoids avoids leads
    omega
  · obtain ⟨held, rfl⟩ := target?_eq_some_iff.mp leads
    rw [double] at inside
    rcases between with step | single
    · rw [step] at held
      omega
    · omega

end CaseRun

theorem lowerRuns_escape : ∀ run ∈ lowerRuns, ∀ other ∈ lowerRuns, run.escapes other = true := by
  -- There are many pairs; as one Boolean they are gone through faster than as propositions.
  have all : (lowerRuns.all fun run => lowerRuns.all run.escapes) = true := by decide +kernel
  exact fun run listed => List.all_eq_true.mp (List.all_eq_true.mp all run listed)

theorem lowerRuns_avoid : ∀ run ∈ lowerRuns,
    97 ≤ run.target ∧ run.avoids 0xD800 0xDFFF = true ∧ run.target + (run.last - run.first) < 0x110000 ∧
    (∀ n ∈ ['Σ'.toNat, 'İ'.toNat], run.avoids n n = true) ∧ ∀ r ∈ blanks, run.avoids r.1 r.2 = true := by
  decide +kernel

section Characters

variable {before after : List Char} {c d : Char}

theorem isLowered_of (sigma : c ≠ 'Σ') (dotted : c ≠ 'İ') (idle : ∀ run ∈ lowerRuns, run.target? c.toNat = none) :
    IsLowered c := by
  intro before after
  rcases lowerChar_cases before c after with ⟨special, -⟩ | ⟨run, member, d, leads, -⟩ | ⟨-, same⟩
  · exact absurd special (by simp [sigma, dotted])
  · rw [idle run member] at leads
    cases leads
  · exact same

section Targets

variable {run : CaseRun} {n e : Nat}

theorem toNat_target (listed : run ∈ lowerRuns) (leads : run.target? n = some e) : (Char.ofNat e).toNat = e := by
  obtain ⟨-, surrogates, below, -⟩ := lowerRuns_avoid run listed
  have outside := CaseRun.outside_of_avoids surrogates leads
  obtain ⟨held, rfl⟩ := CaseRun.target?_eq_some_iff.mp leads
  have valid : (run.target + (n - run.first)).isValidChar := by
    simp only [Nat.isValidChar]
    omega
  rw [Char.ofNat, dif_pos valid]
  rfl

theorem target_plain (listed : run ∈ lowerRuns) (leads : run.target? n = some e) :
    IsLowered (Char.ofNat e) ∧ isCapital (Char.ofNat e) = false ∧ isSeparator (Char.ofNat e) = false := by
  obtain ⟨above, -, -, special, solid⟩ := lowerRuns_avoid run listed
  have code := toNat_target listed leads
  have small : 97 ≤ e := by
    obtain ⟨-, rfl⟩ := CaseRun.target?_eq_some_iff.mp leads
    omega
  have other : ∀ c : Char, c.toNat ∈ ['Σ'.toNat, 'İ'.toNat] → Char.ofNat e ≠ c := by
    rintro c member rfl
    have outside := CaseRun.outside_of_avoids (special _ member) leads
    omega
  have sign : ∀ c : Char, c.toNat < 97 → Char.ofNat e ≠ c := by
    rintro c below rfl
    omega
  have blank : isBlank (Char.ofNat e) = false := by
    rw [Bool.eq_false_iff, ne_eq, isBlank, Ranges.contains_iff, code]
    rintro ⟨r, range, inside⟩
    have outside := CaseRun.outside_of_avoids (solid r range) leads
    omega
  refine ⟨isLowered_of (other _ (by simp)) (other _ (by simp)) fun run' listed' => ?_, ?_, ?_⟩
  · rw [code]
    exact CaseRun.target?_of_escapes (lowerRuns_escape run listed run' listed') leads
  · rw [Bool.eq_false_iff, ne_eq, isCapital_iff]
    omega
  · simp [isSeparator, blank, sign '-' (by decide), sign '_' (by decide), sign '.' (by decide)]

end Targets

theorem lowerChar_plain (member : d ∈ lowerChar before c after) :
    IsLowered d ∧ isCapital d = false ∧ (isSeparator d = true → d = c) := by
  rcases lowerChar_cases before c after with ⟨-, spelled⟩ | ⟨run, listed, e, leads, moved⟩ |
    ⟨⟨sigma, dotted, idle⟩, same⟩
  · have plain : ([['ς'], ['σ'], ['i', Char.ofNat 0x307]].all fun part => part.all fun d =>
        decide ((d ≠ 'Σ' ∧ d ≠ 'İ' ∧ ∀ run ∈ lowerRuns, run.target? d.toNat = none) ∧
          isCapital d = false ∧ isSeparator d = false)) = true := by
      decide +kernel
    have parts := List.all_eq_true.mp plain _ spelled
    obtain ⟨⟨sigma, dotted, idle⟩, small, solid⟩ := of_decide_eq_true (List.all_eq_true.mp parts d member)
    exact ⟨isLowered_of sigma dotted idle, small, fun separator => absurd separator (by simp [solid])⟩
  · rw [moved, List.mem_singleton] at member
    obtain ⟨lowered, small, solid⟩ := target_plain listed leads
    subst member
    exact ⟨lowered, small, fun separator => absurd separator (by simp [solid])⟩
  · rw [same, List.mem_singleton] at member
    subst member
    refine ⟨isLowered_of sigma dotted idle, ?_, fun _ => rfl⟩
    -- The first run holds the capitals of ASCII.
    have unheld := idle ⟨0x41, 0x5A, 1, 0x61⟩ List.mem_cons_self
    rw [Bool.eq_false_iff, ne_eq, isCapital_iff]
    intro capital
    simp [CaseRun.target?, capital, Nat.mod_one] at unheld

end Characters

section Texts

variable {s : List Char} {d : Char}

theorem mem_lower (member : d ∈ lower s) : ∃ before c after, c ∈ s ∧ d ∈ lowerChar before c after := by
  revert member
  refine lower_induction (motive := fun s t => d ∈ t → ∃ before c after, c ∈ s ∧ d ∈ lowerChar before c after)
    nofun ?_ s
  intro before c after rest onward member
  rcases List.mem_append.mp member with here | later
  · exact ⟨before, c, after, List.mem_cons_self, here⟩
  · obtain ⟨before', c', after', inside, here⟩ := onward later
    exact ⟨before', c', after', List.mem_cons_of_mem c inside, here⟩

theorem isLowered_lower (member : d ∈ lower s) : IsLowered d := by
  obtain ⟨before, c, after, -, here⟩ := mem_lower member
  exact (lowerChar_plain here).1

theorem isCapital_lower (member : d ∈ lower s) : isCapital d = false := by
  obtain ⟨before, c, after, -, here⟩ := mem_lower member
  exact (lowerChar_plain here).2.1

theorem mem_of_isSeparator_lower (member : d ∈ lower s) (separator : isSeparator d = true) : d ∈ s := by
  obtain ⟨before, c, after, inside, here⟩ := mem_lower member
  rwa [(lowerChar_plain here).2.2 separator]

theorem lower_of_isLowered (lowered : ∀ c ∈ s, IsLowered c) : lower s = s := by
  revert lowered
  refine lower_induction (motive := fun s t => (∀ c ∈ s, IsLowered c) → t = s) (fun _ => rfl) ?_ s
  intro before c after rest onward lowered
  rw [lowered c List.mem_cons_self, onward fun d member => lowered d (List.mem_cons_of_mem c member)]
  rfl

theorem lower_lower (s : List Char) : lower (lower s) = lower s :=
  lower_of_isLowered fun _ => isLowered_lower

end Texts

end GraphGateway.Text
