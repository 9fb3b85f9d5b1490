import GraphGateway.Text.Snake

/-!
# Spellings of names

The words of a name may be joined by separators of any kind, or by nothing where a capital shows that a word begins. In
snake case all spellings of the same words are one: every joint is a single underscore.
-/

namespace GraphGateway.Text

/-- Whether a character can stand in a word behind its first letter: a small letter or a digit of ASCII. -/
def inWord (c : Char) : Bool :=
  isSmall c || c.isDigit

/-- A word of a name: a small letter, and at least one character behind it. -/
structure Word where
  initial : Char
  rest : List Char
  small : isSmall initial = true
  plain : ∀ c ∈ rest, inWord c = true
  long : rest ≠ []

namespace Word

def chars (w : Word) : List Char :=
  w.initial :: w.rest

def spell (w : Word) (capital : Bool) : List Char :=
  (if capital then w.initial.toUpper else w.initial) :: w.rest

def last (w : Word) : Char :=
  w.rest.getLast w.long

end Word

/-- A word that follows another one, behind a run of separators. Where the run is empty, a capital shows where the word
begins. -/
structure Follower where
  run : List Char
  word : Word
  capital : Bool
  separators : ∀ c ∈ run, isSeparator c = true
  shown : run = [] → capital = true

/-- A spelling of some words. -/
structure Spelling where
  first : Word
  capital : Bool
  followers : List Follower

namespace Spelling

def words (s : Spelling) : List Word :=
  s.first :: s.followers.map (·.word)

def text (s : Spelling) : List Char :=
  s.first.spell s.capital ++ s.followers.flatMap fun f => f.run ++ f.word.spell f.capital

end Spelling

section Characters

variable {c : Char}

theorem inWord_iff : inWord c = true ↔ 97 ≤ c.toNat ∧ c.toNat ≤ 122 ∨ 48 ≤ c.toNat ∧ c.toNat ≤ 57 := by
  rw [inWord, Bool.or_eq_true, isSmall_iff, Char.isDigit_iff_toNat]
  exact Iff.rfl

theorem toUpper_small (small : isSmall c = true) : isCapital c.toUpper = true ∧ c.toUpper.toLower = c := by
  rw [isSmall_iff] at small
  have mapped : ∀ n < 123, 97 ≤ n →
      isCapital (Char.ofNat n).toUpper = true ∧ (Char.ofNat n).toUpper.toLower = Char.ofNat n := by decide +kernel
  have plain := mapped c.toNat (by omega) small.1
  rwa [Char.ofNat_toNat] at plain

theorem isCapital_of_inWord (inside : inWord c = true) : isCapital c = false := by
  rw [inWord_iff] at inside
  rw [Bool.eq_false_iff, ne_eq, isCapital_iff]
  omega

theorem isSeparator_of_letter (letter : inWord c = true ∨ isCapital c = true) : isSeparator c = false := by
  rw [inWord_iff, isCapital_iff] at letter
  have apart : c ≠ '-' ∧ c ≠ '_' ∧ c ≠ '.' := by
    refine ⟨?_, ?_, ?_⟩ <;> rintro rfl <;> exact absurd letter (by decide)
  have solid : isBlank c = false := by
    simp [isBlank, blanks, Ranges.contains]
    omega
  simp [isSeparator, solid, apart]

theorem not_isDecimal_of_isBlank (blank : isBlank c = true) : isDecimal c = false := by
  have apart : ∀ r ∈ blanks, ∀ z ∈ decimalZeros, r.2 < z ∨ z + 10 ≤ r.1 := by decide
  obtain ⟨r, range, first, last⟩ := Ranges.contains_iff.mp blank
  rw [isDecimal, decimalValue, Option.isSome_map, Option.isSome_eq_false_iff, Option.isNone_iff_eq_none,
    List.find?_eq_none]
  intro z zero
  have side := apart r range z zero
  simp
  omega

theorem idle_of_isSeparator (separator : isSeparator c = true) :
    isCapital c = false ∧ (isSmall c || isDecimal c) = false := by
  have letter : ¬ (inWord c = true ∨ isCapital c = true) := fun letter => by
    rw [isSeparator_of_letter letter] at separator
    cases separator
  have capital : isCapital c = false := Bool.eq_false_iff.mpr fun capital => letter (.inr capital)
  have small : isSmall c = false := Bool.eq_false_iff.mpr fun small => letter (.inl (by simp [inWord, small]))
  refine ⟨capital, ?_⟩
  rw [small, Bool.false_or]
  simp only [isSeparator, Bool.or_eq_true, decide_eq_true_eq] at separator
  rcases separator with ((blank | rfl) | rfl) | rfl
  · exact not_isDecimal_of_isBlank blank
  all_goals decide

theorem toLower_inWord (inside : inWord c = true) : c.toLower = c := by
  have small := isCapital_of_inWord inside
  rw [Bool.eq_false_iff, ne_eq, isCapital_iff] at small
  refine dif_neg ?_
  simpa [UInt32.le_iff_toNat_le] using small

end Characters

/-- Whether a capital behind a character begins a word. -/
def opens (before : Option Char) : Bool :=
  before.any fun b => isSmall b || isDecimal b

theorem opens_inWord {c : Char} (inside : inWord c = true) : opens (some c) = true := by
  rw [inWord, Bool.or_eq_true] at inside
  rcases inside with small | digit
  · simp [opens, small]
  · simp [opens, isDecimal, decimalValue_digit digit]

namespace Word

variable (w : Word)

theorem inWord_initial : inWord w.initial = true := by
  simp [inWord, w.small]

theorem inWord_last : inWord w.last = true :=
  w.plain _ (List.getLast_mem w.long)

theorem letter_spell (capital : Bool) : ∀ c ∈ w.spell capital, inWord c = true ∨ isCapital c = true := by
  intro c member
  rcases List.mem_cons.mp member with rfl | inside
  · cases capital with
    | true => exact .inr (toUpper_small w.small).1
    | false => exact .inl w.inWord_initial
  · exact .inl (w.plain c inside)

theorem map_spell (capital : Bool) : (w.spell capital).map Char.toLower = w.chars := by
  have kept : w.rest.map Char.toLower = w.rest :=
    (List.map_congr_left fun c member => toLower_inWord (w.plain c member)).trans (List.map_id _)
  rw [spell, List.map_cons, kept, chars]
  cases capital with
  | true => rw [if_pos rfl, (toUpper_small w.small).2]
  | false => rw [if_neg nofun, toLower_inWord w.inWord_initial]

end Word

section Marking

variable {s : List Char} {before : Option Char}

theorem markWords_plain {xs : List Char} (plain : ∀ c ∈ xs, isCapital c = false) :
    markWords before (xs ++ s) = xs ++ markWords (xs.getLast?.or before) s := by
  induction xs generalizing before with
  | nil => rfl
  | cons c rest ih =>
      have small : beginsWord before c (rest ++ s).head? = false := by
        rw [beginsWord, plain c List.mem_cons_self, Bool.false_and]
      have onward := @ih (some c) fun d member => plain d (List.mem_cons_of_mem c member)
      rw [List.cons_append, markWords, small, onward, List.getLast?_cons]
      cases rest.getLast? <;> rfl

theorem markWords_spell (w : Word) (capital : Bool) (free : before.any isCapital = false) :
    markWords before (w.spell capital ++ s) =
      (if capital && opens before then ['_'] else []) ++ (w.spell capital ++ markWords (some w.last) s) := by
  have plain : ∀ c ∈ w.rest, isCapital c = false := fun c member => isCapital_of_inWord (w.plain c member)
  have small := isCapital_of_inWord w.inWord_initial
  rw [Word.spell, List.cons_append, markWords, markWords_plain plain, List.getLast?_eq_some_getLast w.long]
  cases capital with
  | true =>
      have begins : beginsWord before w.initial.toUpper (w.rest ++ s).head? = opens before := by
        rw [beginsWord, (toUpper_small w.small).1, free, Bool.true_and, Bool.false_and, Bool.false_or, opens]
      simp only [if_true, begins, Bool.true_and]
      cases opens before <;> rfl
  | false => simp [beginsWord, small, Word.last]

end Marking

section Joining

variable {xs s : List Char}

theorem joinSeparators_plain (inRun : Bool) (plain : ∀ c ∈ xs, isSeparator c = false) (some : xs ≠ []) :
    joinSeparators inRun (xs ++ s) = xs ++ joinSeparators false s := by
  induction xs generalizing inRun with
  | nil => exact absurd rfl some
  | cons c rest ih =>
      rw [List.cons_append, joinSeparators, plain c List.mem_cons_self, if_neg nofun]
      cases rest with
      | nil => rfl
      | cons d rest =>
          rw [ih false (fun e member => plain e (List.mem_cons_of_mem c member)) nofun]
          rfl

theorem joinSeparators_run (separators : ∀ c ∈ xs, isSeparator c = true) (some : xs ≠ []) :
    joinSeparators false (xs ++ s) = '_' :: joinSeparators true s := by
  have swallowed : ∀ rest : List Char, (∀ c ∈ rest, isSeparator c = true) →
      joinSeparators true (rest ++ s) = joinSeparators true s := by
    intro rest separators
    induction rest with
    | nil => rfl
    | cons c rest ih =>
        rw [List.cons_append, joinSeparators, separators c List.mem_cons_self, if_pos rfl, if_pos rfl]
        exact ih fun d member => separators d (List.mem_cons_of_mem c member)
  cases xs with
  | nil => exact absurd rfl some
  | cons c rest =>
      rw [List.cons_append, joinSeparators, separators c List.mem_cons_self, if_pos rfl, if_neg nofun,
        swallowed rest fun d member => separators d (List.mem_cons_of_mem c member)]

theorem trimBy_of_ends {p : Char → Bool} {before after : List Char} {first last : Char} (front : s = first :: after)
    (back : s = before ++ [last]) (keptFirst : p first = false) (keptLast : p last = false) : trimBy p s = s := by
  have kept : s.dropWhile p = s := by
    rw [front, List.dropWhile_cons, keptFirst, if_neg nofun]
  rw [trimBy, kept, back, List.reverse_append, List.reverse_singleton, List.singleton_append, List.dropWhile_cons,
    keptLast, if_neg nofun, List.reverse_cons, List.reverse_reverse]

end Joining

namespace Follower

variable (f : Follower)

/-- The run of separators that parts a word from the one before it, once words are marked. -/
def joint : List Char :=
  if f.run = [] then ['_'] else f.run

theorem markWords_text {before : Char} (inside : inWord before = true) (s : List Char) :
    markWords (some before) (f.run ++ f.word.spell f.capital ++ s) =
      f.joint ++ (f.word.spell f.capital ++ markWords (some f.word.last) s) := by
  by_cases none : f.run = []
  · have free : (some before).any isCapital = false := isCapital_of_inWord inside
    rw [joint, if_pos none, none, List.nil_append, markWords_spell _ _ free, f.shown none, opens_inWord inside]
    rfl
  · have plain : ∀ c ∈ f.run, isCapital c = false := fun c member => (idle_of_isSeparator (f.separators c member)).1
    have idle := idle_of_isSeparator (f.separators _ (List.getLast_mem none))
    have free : (some (f.run.getLast none)).any isCapital = false := idle.1
    have closed : opens (some (f.run.getLast none)) = false := idle.2
    rw [joint, if_neg none, List.append_assoc, markWords_plain plain, List.getLast?_eq_some_getLast none,
      Option.some_or, markWords_spell _ _ free, closed, Bool.and_false, if_neg nofun, List.nil_append]

theorem joinSeparators_text (s : List Char) :
    joinSeparators false (f.joint ++ (f.word.spell f.capital ++ s)) =
      '_' :: (f.word.spell f.capital ++ joinSeparators false s) := by
  have some : f.joint ≠ [] := by
    rw [joint]
    split
    · exact nofun
    · assumption
  have separators : ∀ c ∈ f.joint, isSeparator c = true := by
    rw [joint]
    split
    · intro c member
      rw [List.mem_singleton.mp member]
      decide
    · exact f.separators
  have plain : ∀ c ∈ f.word.spell f.capital, isSeparator c = false := fun c member =>
    isSeparator_of_letter (f.word.letter_spell f.capital c member)
  rw [joinSeparators_run separators some, joinSeparators_plain true plain nofun]

end Follower

namespace Spelling

/-- The words of a spelling, as they are spelled, with underscores between them. -/
def joined (s : Spelling) : List Char :=
  s.first.spell s.capital ++ s.followers.flatMap fun f => '_' :: f.word.spell f.capital

theorem joinSeparators_markWords (s : Spelling) : joinSeparators false (markWords none s.text) = s.joined := by
  have onward : ∀ (fs : List Follower) (before : Char), inWord before = true →
      joinSeparators false (markWords (some before) (fs.flatMap fun f => f.run ++ f.word.spell f.capital)) =
        fs.flatMap fun f => '_' :: f.word.spell f.capital := by
    intro fs
    induction fs with
    | nil => exact fun _ _ => rfl
    | cons f rest ih =>
        intro before inside
        rw [List.flatMap_cons, f.markWords_text inside, f.joinSeparators_text, ih _ f.word.inWord_last]
        rfl
  have plain : ∀ c ∈ s.first.spell s.capital, isSeparator c = false := fun c member =>
    isSeparator_of_letter (s.first.letter_spell s.capital c member)
  rw [text, markWords_spell _ _ rfl, opens, Option.any_none, Bool.and_false, if_neg nofun, List.nil_append,
    joinSeparators_plain false plain nofun, onward _ _ s.first.inWord_last, joined]

theorem joined_cons (w : Word) (capital : Bool) (f : Follower) (rest : List Follower) :
    joined ⟨w, capital, f :: rest⟩ = w.spell capital ++ '_' :: joined ⟨f.word, f.capital, rest⟩ :=
  rfl

theorem trim_joined (s : Spelling) : trimBy (· = '_') s.joined = s.joined := by
  have other : ∀ {c}, inWord c = true ∨ isCapital c = true → decide (c = '_') = false := by
    intro c letter
    rw [decide_eq_false_iff_not]
    rintro rfl
    cases isSeparator_of_letter letter
  have last : ∃ before c, s.joined = before ++ [c] ∧ inWord c = true := by
    obtain ⟨first, capital, followers⟩ := s
    induction followers generalizing first capital with
    | nil =>
        have whole : first.rest = first.rest.dropLast ++ [first.last] := (List.dropLast_concat_getLast first.long).symm
        refine ⟨(if capital then first.initial.toUpper else first.initial) :: first.rest.dropLast, first.last, ?_,
          first.inWord_last⟩
        rw [joined, List.flatMap_nil, List.append_nil, Word.spell, List.cons_append, ← whole]
    | cons f rest ih =>
        obtain ⟨before, c, whole, inside⟩ := ih f.word f.capital
        refine ⟨first.spell capital ++ '_' :: before, c, ?_, inside⟩
        rw [joined_cons, whole, List.append_assoc, List.cons_append]
  obtain ⟨before, c, whole, inside⟩ := last
  exact trimBy_of_ends rfl whole (other (s.first.letter_spell s.capital _ List.mem_cons_self)) (other (.inl inside))

theorem map_joined (s : Spelling) : s.joined.map Char.toLower = ['_'].intercalate (s.words.map Word.chars) := by
  obtain ⟨first, capital, followers⟩ := s
  induction followers generalizing first capital with
  | nil => simp [joined, words, first.map_spell]
  | cons f rest ih =>
      have onward := ih f.word f.capital
      rw [joined_cons, List.map_append, List.map_cons, first.map_spell, onward]
      rfl

theorem ascii_joined (s : Spelling) : ∀ c ∈ s.joined, c.toNat < 128 := by
  have letter : ∀ {c}, inWord c = true ∨ isCapital c = true → c.toNat < 128 := by
    intro c letter
    rw [inWord_iff, isCapital_iff] at letter
    omega
  intro c member
  rcases List.mem_append.mp member with first | later
  · exact letter (s.first.letter_spell s.capital c first)
  · obtain ⟨f, _, inside⟩ := List.mem_flatMap.mp later
    rcases List.mem_cons.mp inside with rfl | inside
    · decide
    · exact letter (f.word.letter_spell f.capital c inside)

theorem snake_text (s : Spelling) : snake s.text = ['_'].intercalate (s.words.map Word.chars) := by
  rw [snake, s.joinSeparators_markWords, s.trim_joined, lower_ascii s.ascii_joined, s.map_joined]

end Spelling

end GraphGateway.Text
