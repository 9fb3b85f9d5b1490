import GraphGateway.Path.Read
import GraphGateway.Path.Write

/-!
# Numerals of indices

The numeral of a number, which has no sign, no leading zero and no digit of another system, is read as that number
again. So it is the key of one item of a list.
-/

namespace GraphGateway

open Number Text

namespace Number

theorem isNumeralBlank_digit {c : Char} (digit : c.isDigit = true) : isNumeralBlank c = false := by
  have range := toNat_digit digit
  simp [isNumeralBlank, isBlank, blanks, Ranges.contains]
  omega

theorem trimNumeral_digits {s : List Char} (digits : ∀ c ∈ s, c.isDigit = true) : trimNumeral s = s := by
  have started : ∀ t : List Char, (∀ c ∈ t, c.isDigit = true) → t.dropWhile isNumeralBlank = t := by
    intro t digits
    cases t with
    | nil => rfl
    | cons c rest => simp [isNumeralBlank_digit (digits c (by simp))]
  have ended := started s.reverse fun c member => digits c (by simpa using member)
  rw [trimNumeral, trimBy, started s digits, ended, List.reverse_reverse]

theorem readDigits_digits {s : List Char} (nonempty : s ≠ []) (digits : ∀ c ∈ s, c.isDigit = true) :
    readDigits decimalValue s = some (s.map (·.toNat - 48)) := by
  fun_induction readDigits decimalValue s with
  | case1 => exact absurd rfl nonempty
  | case2 c => simp [decimalValue_digit (digits c (by simp))]
  | case3 c rest => exact absurd (digits '_' (by simp)) (by decide)
  | case4 c rest single _ ih =>
      have later : rest ≠ [] := by simpa using single
      have onward := ih later fun d member => digits d (List.mem_cons_of_mem c member)
      simp [decimalValue_digit (digits c (by simp)), onward]

/-- The numeral of a number: its decimals in ASCII, without a sign or leading zeros. -/
def numeral (n : Nat) : String :=
  toString n

theorem toList_numeral (n : Nat) : (numeral n).toList = Nat.toDigits 10 n := by
  rw [numeral, Nat.toString_eq_ofList_toDigits, String.toList_ofList]

theorem isDigit_numeral (n : Nat) : ∀ c ∈ (numeral n).toList, c.isDigit = true := fun c member =>
  Nat.isDigit_of_mem_toDigits (by decide) (by decide) (toList_numeral n ▸ member)

theorem isDecimal_numeral (n : Nat) : ∀ c ∈ (numeral n).toList, isDecimal c = true := fun c member => by
  simp [isDecimal, decimalValue_digit (isDigit_numeral n c member)]

theorem numeral_injective {m n : Nat} (same : numeral m = numeral n) : m = n := by
  have digits : Nat.toDigits 10 m = Nat.toDigits 10 n := by rw [← toList_numeral, same, toList_numeral]
  calc m = Nat.ofDigitChars 10 (Nat.toDigits 10 m) 0 := Nat.ofDigitChars_ten_toDigits.symm
    _ = n := by rw [digits, Nat.ofDigitChars_ten_toDigits]

theorem readInt_numeral (n : Nat) :
    readInt (numeral n).toList = if maxDigits < (numeral n).length then .error (.tooLong (numeral n).length)
      else .ok n := by
  have nonempty : (numeral n).toList ≠ [] := toList_numeral n ▸ Nat.toDigits_ne_nil
  have value : ofDigits 10 ((numeral n).toList.map (·.toNat - 48)) = n := by
    rw [ofDigits, List.foldl_map, toList_numeral]
    exact Nat.ofDigitChars_eq_foldl.symm.trans Nat.ofDigitChars_ten_toDigits
  rw [readInt_decimals (trimNumeral_digits (isDigit_numeral n)) (isDecimal_numeral n)
    (readDigits_digits nonempty (isDigit_numeral n)), value, List.length_map, String.length_toList]

end Number

namespace Path

/-- Whether a key is the numeral of an index up to which a list can be filled. -/
def IsNumeral (key : String) : Prop :=
  ∃ i < maxFill, key = numeral i

theorem isDigits_numeral (i : Nat) : isDigits (numeral i).toList = true := by
  have nonempty : (numeral i).toList ≠ [] := toList_numeral i ▸ Nat.toDigits_ne_nil
  have digits : ∀ c ∈ (numeral i).toList, isDigit c = true := fun c member =>
    isDigit_of_isDecimal (isDecimal_numeral i c member)
  rw [isDigits, List.all_eq_true.mpr digits]
  simpa using nonempty

theorem readInt_index {i : Nat} (inside : i < maxFill) : readInt (numeral i).toList = .ok i := by
  have small : i < 10 ^ 10 := Nat.lt_of_lt_of_le inside (by decide)
  have short : (numeral i).length ≤ 10 := by
    rw [← String.length_toList, toList_numeral]
    exact (Nat.length_toDigits_le_iff (by decide) (by decide)).mpr small
  rw [readInt_numeral, if_neg (Nat.not_lt.mpr (Nat.le_trans short (by decide)))]

theorem index_numeral {i : Nat} (inside : i < maxFill) : index (numeral i) = .ok i := by
  simp [index, isDigits_numeral, readInt_index inside]

theorem readInt_of_index {key : String} {i : Nat} (indexed : index key = .ok i) : readInt key.toList = .ok i := by
  unfold index at indexed
  split at indexed
  · cases indexed
  · rename_i digits
    have all : ∀ c ∈ key.toList, isDigit c = true := by simp_all [isDigits]
    have unsigned : '-' ∉ key.toList := fun member => absurd (all '-' member) (by decide)
    cases read : readInt key.toList with
    | error refused => cases refused <;> simp [read] at indexed
    | ok n =>
        obtain rfl : n.toNat = i := by simpa [read] using indexed
        rw [Int.toNat_of_nonneg (readInt_nonneg unsigned read)]

/-- Whether a key is a numeral, or is not read as an integer at all. Two such keys that differ lead to different items
of a list. -/
def IsCanonical (key : String) : Prop :=
  (∃ n, key = numeral n) ∨ ∃ refused, readInt key.toList = .error refused

theorem IsCanonical.numeral {key : String} {i : Int} (canonical : IsCanonical key) (read : readInt key.toList = .ok i) :
    ∃ n : Nat, key = numeral n ∧ i = n := by
  rcases canonical with ⟨n, rfl⟩ | ⟨refused, unread⟩
  · rw [readInt_numeral] at read
    split at read
    · cases read
    · exact ⟨n, rfl, (Except.ok.inj read).symm⟩
  · rw [unread] at read
    cases read

end Path

namespace Store

theorem item_of_readInt {key : String} {i : Nat} (read : readInt key.toList = .ok i) (items : List Value) :
    item items key = items[i]?.getD .null := by
  have positive : ¬ (i : Int) < 0 := by omega
  simp only [item, read, position?, if_neg positive]
  by_cases short : i < items.length
  · simp [short]
  · simp [short]

theorem item_numeral (items : List Value) {i : Nat} (inside : i < Path.maxFill) :
    item items (numeral i) = items[i]?.getD .null :=
  item_of_readInt (Path.readInt_index inside) items

theorem item_canonical {key : String} (canonical : Path.IsCanonical key) :
    (∀ items, item items key = .null) ∨ ∃ i, key = numeral i ∧ ∀ items, item items key = items[i]?.getD .null := by
  cases read : readInt key.toList with
  | error refused => exact .inl fun items => by simp [item, read]
  | ok n =>
      obtain ⟨i, rfl, rfl⟩ := canonical.numeral read
      exact .inr ⟨i, rfl, item_of_readInt read⟩

end Store

end GraphGateway
