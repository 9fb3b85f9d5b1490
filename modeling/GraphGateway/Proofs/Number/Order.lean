import GraphGateway.Number.Numeric
import Mathlib.Algebra.Order.Field.Basic
import Mathlib.Algebra.Order.Field.Rat
import Mathlib.Algebra.Order.Monoid.Unbundled.WithTop

/-!
# Numbers among the rationals

Every number but a NaN is a rational one, or below or above all of these, and numbers are compared by that.
-/

namespace GraphGateway.Number

/-- The rational numbers, with what is below and what is above all of them. -/
abbrev Extended := WithBot (WithTop ℚ)

def rational (q : ℚ) : Extended :=
  WithBot.some (WithTop.some q)

theorem rational_lt_iff {p q : ℚ} : rational p < rational q ↔ p < q :=
  WithBot.coe_lt_coe.trans WithTop.coe_lt_coe

theorem rational_le_iff {p q : ℚ} : rational p ≤ rational q ↔ p ≤ q :=
  WithBot.coe_le_coe.trans WithTop.coe_le_coe

theorem bot_lt_rational (q : ℚ) : ⊥ < rational q :=
  WithBot.bot_lt_coe _

theorem rational_lt_top (q : ℚ) : rational q < ⊤ :=
  WithBot.coe_lt_coe.mpr (WithTop.coe_lt_top q)

theorem rational_lt_add (q : ℚ) {x : Extended} (positive : 0 < x) : rational q < rational q + x := by
  cases x using WithBot.recBotCoe with
  | bot => exact absurd positive not_lt_bot
  | coe y =>
      cases y using WithTop.recTopCoe with
      | top => exact rational_lt_top q
      | coe p =>
          have positive : 0 < p := rational_lt_iff.mp positive
          exact rational_lt_iff.mpr (lt_add_of_pos_right q positive)

namespace Binary64.Exact

def value : Exact → Extended
  | .below => ⊥
  | .ratio num den => rational (num / den)
  | .above => ⊤

def Proper : Exact → Prop
  | .ratio _ den => 0 < den
  | .below | .above => True

theorem ratio_lt_iff {a c : Int} {b d : Nat} (left : 0 < b) (right : 0 < d) :
    (Exact.ratio a b).value < (Exact.ratio c d).value ↔ a * d < c * b := by
  have left : (0 : ℚ) < b := Nat.cast_pos.mpr left
  have right : (0 : ℚ) < d := Nat.cast_pos.mpr right
  rw [value, value, rational_lt_iff, div_lt_div_iff₀ left right]
  exact_mod_cast Iff.rfl

theorem compare_eq_lt_iff {x y : Exact} (left : x.Proper) (right : y.Proper) :
    x.compare y = .lt ↔ x.value < y.value := by
  cases x with
  | below =>
      cases y with
      | below => exact iff_of_false nofun (lt_irrefl _)
      | ratio c d => exact iff_of_true rfl (bot_lt_rational _)
      | above => exact iff_of_true rfl bot_lt_top
  | ratio a b =>
      cases y with
      | below => exact iff_of_false nofun not_lt_bot
      | ratio c d =>
          rw [ratio_lt_iff left right, Exact.compare]
          exact compare_lt_iff_lt
      | above => exact iff_of_true rfl (rational_lt_top _)
  | above => cases y <;> exact iff_of_false nofun not_top_lt

theorem compare_eq_gt_iff {x y : Exact} (left : x.Proper) (right : y.Proper) :
    x.compare y = .gt ↔ y.value < x.value := by
  have swapped : x.compare y = .gt ↔ y.compare x = .lt := by
    cases x <;> cases y <;> simp only [Exact.compare, reduceCtorEq]
    exact compare_gt_iff_gt.trans compare_lt_iff_lt.symm
  rw [swapped, compare_eq_lt_iff right left]

end Binary64.Exact

namespace Numeric

def value? (x : Numeric) : Option Extended :=
  x.toExact.map (·.value)

theorem toExact_proper {x : Numeric} {e : Binary64.Exact} (found : x.toExact = some e) : e.Proper := by
  cases x with
  | int n =>
      obtain rfl := Option.some.inj found
      exact Nat.one_pos
  | real y =>
      cases y with
      | finite negative significand exponent =>
          obtain rfl := Option.some.inj found
          show 0 < (Binary64.ratio significand exponent).2
          rw [Binary64.ratio]
          split
          · exact Nat.one_pos
          · exact Nat.pow_pos (by decide)
      | infinite negative => cases negative <;> (obtain rfl := Option.some.inj found; trivial)
      | nan => cases found

theorem value?_int (n : Int) : (Numeric.int n).value? = some (rational n) := by
  rw [value?, toExact, Option.map_some, Binary64.Exact.value, Nat.cast_one, div_one]

section Order

variable {a b : Numeric} {x y : Extended} (left : a.value? = some x) (right : b.value? = some y)
include left right

theorem lt_iff : a.lt b = true ↔ x < y := by
  obtain ⟨p, first, rfl⟩ := Option.map_eq_some_iff.mp left
  obtain ⟨q, second, rfl⟩ := Option.map_eq_some_iff.mp right
  rw [lt, Numeric.compare, first, second, decide_eq_true_iff, Option.some.injEq]
  exact Binary64.Exact.compare_eq_lt_iff (toExact_proper first) (toExact_proper second)

theorem le_iff : a.le b = true ↔ x ≤ y := by
  obtain ⟨p, first, rfl⟩ := Option.map_eq_some_iff.mp left
  obtain ⟨q, second, rfl⟩ := Option.map_eq_some_iff.mp right
  have greater := Binary64.Exact.compare_eq_gt_iff (toExact_proper first) (toExact_proper second)
  rw [← not_lt, ← greater]
  simp only [le, Numeric.compare, first, second]
  cases p.compare q <;> simp

end Order

theorem int_lt_iff {m n : Int} : (Numeric.int m).lt (.int n) = true ↔ m < n := by
  rw [lt_iff (value?_int m) (value?_int n), rational_lt_iff, Int.cast_lt]

end Numeric

end GraphGateway.Number
