import GraphGateway.Filter.Lexer

/-!
# Names with points between them

A text of names with points between them has no other tokens than these. A name is an identifier that is no keyword; it
is read up to the next point, and its token is its normal form.
-/

namespace GraphGateway.Filter

/-- Whether a text is a word that names something: an identifier that is no keyword. -/
structure IsName (letters : List Char) : Prop where
  identifier : Text.isIdentifier letters = true
  free : String.ofList letters ∉ keywords

def dotted (first : List Char) (words : List (List Char)) : List Char :=
  first ++ words.flatMap ('.' :: ·)

def nameToken (letters : List Char) : Token :=
  .name (String.ofList (Text.normalize letters))

variable {c : Char} {letters rest : List Char}

theorem starts_of_range : ∀ r ∈ Text.identifierStart, r.1 < 128 → ∀ n < 128, r.1 ≤ n → n ≤ r.2 →
    isWordStart (Char.ofNat n) = true := by
  decide +kernel

theorem continues_of_range : ∀ r ∈ Text.identifierContinue, r.1 < 128 → ∀ n < 128, r.1 ≤ n → n ≤ r.2 →
    isWordChar (Char.ofNat n) = true := by
  decide +kernel

theorem isWordStart_of_identifierStart (starts : Text.identifierStart.contains c.toNat = true) :
    isWordStart c = true := by
  by_cases ascii : c.toNat < 128
  · obtain ⟨r, range, above, below⟩ := Text.Ranges.contains_iff.mp starts
    have start := starts_of_range r range (Nat.lt_of_le_of_lt above ascii) c.toNat ascii above below
    rwa [Char.ofNat_toNat] at start
  · simp [isWordStart, Nat.le_of_not_lt ascii]

theorem isWordChar_of_identifierContinue (continues : Text.identifierContinue.contains c.toNat = true) :
    isWordChar c = true := by
  by_cases ascii : c.toNat < 128
  · obtain ⟨r, range, above, below⟩ := Text.Ranges.contains_iff.mp continues
    have inside := continues_of_range r range (Nat.lt_of_le_of_lt above ascii) c.toNat ascii above below
    rwa [Char.ofNat_toNat] at inside
  · simp [isWordChar, Nat.le_of_not_lt ascii]

theorem isWordChar_of_isWordStart (starts : isWordStart c = true) : isWordChar c = true := by
  simp only [isWordStart, isWordChar, Char.isAlphanum, Bool.or_eq_true] at starts ⊢
  grind

theorem digits_start_nothing : ∀ n < 58, 48 ≤ n → isWordStart (Char.ofNat n) = false := by
  decide

theorem isDigit_of_isWordStart (starts : isWordStart c = true) : c.isDigit = false := by
  refine Bool.eq_false_iff.mpr fun digit => ?_
  simp only [Char.isDigit, Bool.and_eq_true, decide_eq_true_eq, UInt32.le_iff_toNat_le] at digit
  have none := digits_start_nothing c.toNat (Nat.lt_succ_of_le digit.2) digit.1
  rw [Char.ofNat_toNat, starts] at none
  cases none

theorem ne_of_isWordChar (inside : isWordChar c = true) {d : Char} (outside : isWordChar d = false) : c ≠ d := by
  rintro rfl
  rw [inside] at outside
  cases outside

theorem ranges_apart : (∀ r ∈ Text.identifierStart, ∀ b ∈ Text.blanks, r.2 < b.1 ∨ b.2 < r.1) ∧
    ∀ r ∈ Text.identifierContinue, ∀ b ∈ Text.blanks, r.2 < b.1 ∨ b.2 < r.1 := by
  decide +kernel

theorem isBlank_of_apart {ranges : Text.Ranges} (apart : ∀ r ∈ ranges, ∀ b ∈ Text.blanks, r.2 < b.1 ∨ b.2 < r.1)
    (inside : ranges.contains c.toNat = true) : Text.isBlank c = false := by
  refine Bool.eq_false_iff.mpr fun blank => ?_
  obtain ⟨r, range, above, below⟩ := Text.Ranges.contains_iff.mp inside
  obtain ⟨b, blanks, above', below'⟩ := Text.Ranges.contains_iff.mp blank
  rcases apart r range b blanks with before | behind <;> omega

theorem characters_of_identifier (identifier : Text.isIdentifier letters = true) :
    ∀ c ∈ letters, isWordChar c = true ∧ Text.isBlank c = false := by
  cases letters with
  | nil => cases identifier
  | cons first more =>
      simp only [Text.isIdentifier, Bool.and_eq_true, List.all_eq_true] at identifier
      obtain ⟨starts, continues⟩ := identifier
      intro c member
      rcases List.mem_cons.mp member with rfl | member
      · exact ⟨isWordChar_of_isWordStart (isWordStart_of_identifierStart starts),
          isBlank_of_apart ranges_apart.1 starts⟩
      · exact ⟨isWordChar_of_identifierContinue (continues c member),
          isBlank_of_apart ranges_apart.2 (continues c member)⟩

theorem IsName.word (name : IsName letters) :
    (∃ c more, letters = c :: more ∧ isWordStart c = true) ∧ ∀ c ∈ letters, isWordChar c = true := by
  refine ⟨?_, fun c member => (characters_of_identifier name.identifier c member).1⟩
  have identifier := name.identifier
  cases letters with
  | nil => cases identifier
  | cons c more =>
      simp only [Text.isIdentifier, Bool.and_eq_true] at identifier
      exact ⟨c, more, rfl, isWordStart_of_identifierStart identifier.1⟩

theorem wordOrLiteral_name (inside : ∀ c ∈ letters, isWordChar c = true)
    (ended : ∀ c ∈ rest.head?, isWordChar c = false ∧ isQuote c = false) :
    wordOrLiteral (letters ++ rest) = word (letters ++ rest) := by
  have unquoted : ∀ c, isWordChar c = true → isQuote c = false := by
    intro c word
    simp [isQuote, ne_of_isWordChar word (d := '\'') (by decide), ne_of_isWordChar word (d := '"') (by decide)]
  let run := ((letters ++ rest).take 3).takeWhile Char.isAlpha
  have within : run <+: letters := by
    have begins : run <+: letters ++ rest := (List.takeWhile_prefix _).trans (List.take_prefix _ _)
    rcases List.prefix_or_prefix_of_prefix begins (List.prefix_append letters rest) with shorter | ⟨more, longer⟩
    · exact shorter
    · cases more with
      | nil =>
          rw [List.append_nil] at longer
          exact longer ▸ List.prefix_rfl
      | cons c more =>
          rw [← longer] at begins
          obtain ⟨_, same⟩ := (List.prefix_append_right_inj letters).mp begins
          have alpha : c.isAlpha = true :=
            List.all_eq_true.mp List.all_takeWhile c (show c ∈ run by simp [← longer])
          have word : isWordChar c = true := by simp [isWordChar, Char.isAlphanum, alpha]
          rw [(ended c (by simp [← same])).1] at word
          cases word
  obtain ⟨behind, shape⟩ := within
  have left : (letters ++ rest).drop run.length = behind ++ rest := by
    rw [← shape, List.append_assoc, List.drop_left]
  have next : ∀ c ∈ (behind ++ rest).head?, isQuote c = false := by
    intro c first
    cases behind with
    | nil => exact (ended c first).2
    | cons d behind =>
        obtain rfl : d = c := Option.some.inj first
        exact unquoted d (inside d (by simp [← shape]))
  unfold wordOrLiteral
  simp only
  rw [show ((letters ++ rest).take 3).takeWhile Char.isAlpha = run from rfl, left]
  cases remaining : behind ++ rest with
  | nil => rfl
  | cons c more => simp [next c (by simp [remaining])]

theorem word_name (name : IsName letters)
    (ended : ∀ c ∈ rest.head?, isWordChar c = false) :
    word (letters ++ rest) = some (nameToken letters, rest) := by
  obtain ⟨-, inside⟩ := name.word
  have letters_eq : (letters ++ rest).takeWhile isWordChar = letters ∧
      (letters ++ rest).dropWhile isWordChar = rest := by
    rw [List.takeWhile_append_of_pos inside, List.dropWhile_append_of_pos inside]
    cases rest with
    | nil => simp
    | cons c more => simp [ended c rfl]
  have free : keywords.contains (String.ofList letters) = false := by
    simpa using name.free
  simp only [word, letters_eq, free, name.identifier, if_true, Bool.false_eq_true, if_false]
  split
  · rename_i ascii
    rw [nameToken, Text.normalize, if_pos ascii]
  · rfl

theorem readToken_name (name : IsName letters) (ended : rest = [] ∨ ∃ more, rest = '.' :: more) :
    readToken (letters ++ rest) = some (nameToken letters, rest) := by
  have quoteless : ∀ c ∈ rest.head?, isWordChar c = false ∧ isQuote c = false := by
    intro c first
    rcases ended with rfl | ⟨more, rfl⟩
    · cases first
    · obtain rfl : '.' = c := Option.some.inj first
      exact ⟨by decide, by decide⟩
  have read := word_name name fun c first => (quoteless c first).1
  obtain ⟨⟨c, more, shape, starts⟩, inside⟩ := name.word
  rw [← wordOrLiteral_name inside quoteless] at read
  have digits := isDigit_of_isWordStart starts
  have word := isWordChar_of_isWordStart starts
  have point := ne_of_isWordChar word (d := '.') (by decide)
  have quotes :=
    And.intro (ne_of_isWordChar word (d := '\'') (by decide)) (ne_of_isWordChar word (d := '"') (by decide))
  rw [shape] at read ⊢
  simpa [readToken, digits, point, isQuote, quotes, starts] using read

theorem readToken_point (undotted : c ≠ '.') (digits : c.isDigit = false) :
    readToken ('.' :: c :: rest) = some (.symbol ".", c :: rest) := by
  have found : symbols.find? (fun t => t.toList.isPrefixOf ('.' :: c :: rest)) = some "." := by
    simp [symbols, List.isPrefixOf, Ne.symm undotted]
  have plain : isQuote '.' = false ∧ isWordStart '.' = false ∧ Char.isDigit '.' = false := by decide
  have one : ".".length = 1 := rfl
  simp [readToken, digits, symbol, plain, found, one]

theorem unifyLines_of_not_mem {s : List Char} (unreturned : '\r' ∉ s) : unifyLines s = s := by
  fun_induction unifyLines s <;> simp_all

theorem tokensFrom_token {token : Token} {left : List Char} {fuel : Nat}
    (visible : isWordChar c = true ∨ c = '.') (read : readToken (c :: rest) = some (token, left))
    (plain : nest [] token = some []) :
    tokensFrom (fuel + 1) false [] (c :: rest) = (tokensFrom fuel false [] left).map (token :: ·) := by
  have apart : ∀ d, isWordChar d = false → d ≠ '.' → c ≠ d := by
    intro d outside undotted
    rcases visible with inside | rfl
    · exact ne_of_isWordChar inside outside
    · exact undotted.symm
  have space := apart ' ' (by decide) (by decide)
  have tab := apart '\t' (by decide) (by decide)
  have feed := apart '\x0c' (by decide) (by decide)
  have comment := apart '#' (by decide) (by decide)
  have line := apart '\n' (by decide) (by decide)
  have joint := apart '\\' (by decide) (by decide)
  simp only [tokensFrom, space, tab, feed, comment, line, joint, read, plain, or_self, if_false, Option.bind_eq_bind,
    Option.bind_some]
  cases tokensFrom fuel false [] left <;> rfl

theorem tokensFrom_line {fuel : Nat} (starts : isWordStart c = true) :
    tokensFrom (fuel + 1) true [] (c :: rest) = tokensFrom fuel false [] (c :: rest) := by
  have word := isWordChar_of_isWordStart starts
  have space := ne_of_isWordChar word (d := ' ') (by decide)
  have tab := ne_of_isWordChar word (d := '\t') (by decide)
  have feed := ne_of_isWordChar word (d := '\x0c') (by decide)
  have comment := ne_of_isWordChar word (d := '#') (by decide)
  have line := ne_of_isWordChar word (d := '\n') (by decide)
  have joint := ne_of_isWordChar word (d := '\\') (by decide)
  have unindented : ∀ fuel, indentation (fuel + 1) 0 0 (c :: rest) = some (0, c :: rest) := by
    intro fuel
    simp [indentation, space, tab, feed, joint]
  simp [tokensFrom, unindented, comment, line]

/-- A name, and what follows it, on a line. -/
theorem tokensFrom_name {fuel : Nat} (name : IsName letters)
    (ended : rest = [] ∨ ∃ more, rest = '.' :: more) :
    tokensFrom (fuel + 1) false [] (letters ++ rest) =
      (tokensFrom fuel false [] rest).map (nameToken letters :: ·) := by
  have read := readToken_name name ended
  obtain ⟨⟨c, more, shape, starts⟩, -⟩ := name.word
  have whole : letters ++ rest = c :: (more ++ rest) := by rw [shape, List.cons_append]
  rw [whole] at read ⊢
  exact tokensFrom_token (.inl (isWordChar_of_isWordStart starts)) read rfl

theorem ended_of_points (words : List (List Char)) :
    words.flatMap ('.' :: ·) = [] ∨ ∃ more, words.flatMap ('.' :: ·) = '.' :: more := by
  cases words with
  | nil => exact .inl rfl
  | cons word words => exact .inr ⟨_, rfl⟩

theorem length_le_points (words : List (List Char)) : words.length ≤ (words.flatMap ('.' :: ·)).length := by
  induction words with
  | nil => exact Nat.le_refl _
  | cons word words ih =>
      rw [List.flatMap_cons, List.length_append, List.length_cons, List.length_cons]
      omega

/-- The rest of a text of words with points between them gives a point and a name for each word. -/
theorem tokensFrom_dotted {words : List (List Char)} (names : ∀ word ∈ words, IsName word) {fuel : Nat}
    (enough : 2 * words.length < fuel) :
    tokensFrom fuel false [] (words.flatMap ('.' :: ·)) =
      some (words.flatMap fun word => [.symbol ".", nameToken word]) := by
  induction words generalizing fuel with
  | nil =>
      obtain ⟨fuel, rfl⟩ : ∃ n, fuel = n + 1 := ⟨fuel - 1, by omega⟩
      rfl
  | cons word words ih =>
      rw [List.length_cons] at enough
      obtain ⟨fuel, rfl⟩ : ∃ n, fuel = n + 2 := ⟨fuel - 2, by omega⟩
      have left : 2 * words.length < fuel := by omega
      have name := names word List.mem_cons_self
      have onward := ih (fun other member => names other (List.mem_cons_of_mem _ member)) left
      have point : readToken ('.' :: (word ++ words.flatMap ('.' :: ·))) =
          some (.symbol ".", word ++ words.flatMap ('.' :: ·)) := by
        obtain ⟨⟨c, more, rfl, starts⟩, -⟩ := name.word
        exact readToken_point (ne_of_isWordChar (isWordChar_of_isWordStart starts) (by decide))
          (isDigit_of_isWordStart starts)
      rw [List.flatMap_cons, List.cons_append, tokensFrom_token (.inr rfl) point (by decide),
        tokensFrom_name name (ended_of_points words), onward]
      rfl

theorem characters_dotted {first : List Char} {words : List (List Char)}
    (identifiers : ∀ word ∈ first :: words, Text.isIdentifier word = true) :
    ∀ c ∈ dotted first words, c = '.' ∨ isWordChar c = true ∧ Text.isBlank c = false := by
  intro c member
  rcases List.mem_append.mp member with member | member
  · exact .inr (characters_of_identifier (identifiers first List.mem_cons_self) c member)
  · obtain ⟨word, among, member⟩ := List.mem_flatMap.mp member
    rcases List.mem_cons.mp member with point | member
    · exact .inl point
    · exact .inr (characters_of_identifier (identifiers word (List.mem_cons_of_mem first among)) c member)

theorem not_mem_dotted {d : Char} (outside : isWordChar d = false) (undotted : d ≠ '.') {first : List Char}
    {words : List (List Char)} (identifiers : ∀ word ∈ first :: words, Text.isIdentifier word = true) :
    d ∉ dotted first words := by
  intro member
  rcases characters_dotted identifiers d member with point | ⟨inside, -⟩
  · exact undotted point
  · rw [outside] at inside
    cases inside

/-- Words with points between them have the tokens of the words with points between them. -/
theorem tokens_dotted {first : List Char} {words : List (List Char)} (name : IsName first)
    (names : ∀ word ∈ words, IsName word) :
    tokens (dotted first words) =
      some (nameToken first :: words.flatMap fun word => [.symbol ".", nameToken word]) := by
  have enough : 2 * words.length < 2 * (dotted first words).length := by
    obtain ⟨⟨c, more, rfl, -⟩, -⟩ := name.word
    have points := length_le_points words
    simp only [dotted, List.length_append, List.length_cons]
    omega
  have line : tokensFrom (2 * (dotted first words).length + 1) false [] (dotted first words) = _ :=
    tokensFrom_name name (ended_of_points words)
  rw [tokensFrom_dotted names enough] at line
  have identifiers : ∀ word ∈ first :: words, Text.isIdentifier word = true :=
    List.forall_mem_cons.mpr ⟨name.identifier, fun word member => (names word member).identifier⟩
  have unreturned : '\r' ∉ dotted first words := not_mem_dotted (by decide) (by decide) identifiers
  rw [tokens, unifyLines_of_not_mem unreturned]
  obtain ⟨⟨c, more, rfl, starts⟩, -⟩ := name.word
  exact (tokensFrom_line starts).trans line

end GraphGateway.Filter
