import DuplexStream.Binary64.Basic
import Mathlib.Algebra.Order.Field.Basic
import Mathlib.Algebra.Order.Field.Rat
import Mathlib.Data.Rat.Cast.Order
import Mathlib.Order.Monotone.Basic
import Mathlib.Tactic.Positivity

/-!
# Patterns sort as the numbers they stand for

`Binary64.value` is the number that a pattern stands for. Counting up through the magnitudes the
number grows at every step, also where the exponent changes, so that comparing patterns as signed
magnitudes is comparing numbers. Hence forcing a pattern into the range from zero to one takes the
greater and the smaller of two numbers (`value_clampUnit`), and a draw lies below a pattern exactly
if it lies below the number (`unitBelow_iff`).
-/

namespace DuplexStream.Binary64

/-- A pattern's number, counted in the least positive one. -/
def signedScale (x : Binary64) : ℤ :=
  if x.isNegative then -(x.scaled : ℤ) else x.scaled

/-- The number that a pattern stands for. An infinity counts as the power of two above all finite
numbers. -/
def value (x : Binary64) : ℚ :=
  x.signedScale / 2 ^ 1074

section Magnitudes

/-- What a magnitude stands for, counted in the least positive number. -/
def scaleOf (m : Nat) : Nat :=
  (if m / leadingBit = 0 then m else leadingBit + m % leadingBit) <<< (m / leadingBit - 1)

theorem scaled_eq (x : Binary64) : x.scaled = scaleOf x.magnitude := rfl

/-- Each magnitude stands for more than the one before. After the last fraction the exponent grows
by one, which doubles the unit. -/
theorem scaleOf_lt_succ (m : Nat) : scaleOf m < scaleOf (m + 1) := by
  have bit : leadingBit = 2 ^ 52 := rfl
  simp only [scaleOf, Nat.shiftLeft_eq, bit]
  -- the step from the last fraction of an exponent to the first of the next one stands apart
  by_cases last : m % 2 ^ 52 + 1 = 2 ^ 52
  · have exponent : (m + 1) / 2 ^ 52 = m / 2 ^ 52 + 1 := by omega
    have fraction : (m + 1) % 2 ^ 52 = 0 := by omega
    rw [exponent, fraction, if_neg (Nat.succ_ne_zero _), Nat.add_sub_cancel]
    by_cases least : m / 2 ^ 52 = 0
    · rw [if_pos least, least]
      omega
    · obtain ⟨e, larger⟩ := Nat.exists_eq_succ_of_ne_zero least
      have unit : 0 < 2 ^ e := Nat.two_pow_pos e
      rw [if_neg least, larger, Nat.succ_sub_one]
      calc (2 ^ 52 + m % 2 ^ 52) * 2 ^ e < (2 ^ 52 * 2) * 2 ^ e :=
            Nat.mul_lt_mul_of_pos_right (by omega) unit
        _ = (2 ^ 52 + 0) * 2 ^ (e + 1) := by rw [Nat.add_zero, Nat.mul_assoc, ← Nat.pow_succ']
  · have exponent : (m + 1) / 2 ^ 52 = m / 2 ^ 52 := by omega
    have fraction : (m + 1) % 2 ^ 52 = m % 2 ^ 52 + 1 := by omega
    rw [exponent, fraction]
    apply Nat.mul_lt_mul_of_pos_right
    · split <;> omega
    · exact Nat.two_pow_pos _

theorem strictMono_scaleOf : StrictMono scaleOf :=
  strictMono_nat_of_lt_succ scaleOf_lt_succ

theorem scaled_le_scaled_iff {x y : Binary64} :
    x.scaled ≤ y.scaled ↔ x.magnitude ≤ y.magnitude := by
  rw [scaled_eq, scaled_eq, strictMono_scaleOf.le_iff_le]

theorem scaled_eq_zero_iff {x : Binary64} : x.scaled = 0 ↔ x.magnitude = 0 := by
  rw [scaled_eq]
  exact strictMono_scaleOf.injective.eq_iff' (by decide)

end Magnitudes

section Comparison

variable {x y : Binary64}

theorem signedScale_le_signedScale_iff : x.signedScale ≤ y.signedScale ↔ x.key ≤ y.key := by
  have upward := scaled_le_scaled_iff (x := x) (y := y)
  have downward := scaled_le_scaled_iff (x := y) (y := x)
  have left := scaled_eq_zero_iff (x := x)
  have right := scaled_eq_zero_iff (x := y)
  simp only [signedScale, key]
  split <;> split <;> omega

/-- Patterns are compared as the numbers they stand for. -/
theorem value_le_value_iff : x.value ≤ y.value ↔ x.key ≤ y.key := by
  have unit : (0 : ℚ) < 2 ^ 1074 := by positivity
  rw [value, value, div_le_div_iff_of_pos_right unit, Int.cast_le, signedScale_le_signedScale_iff]

theorem le_iff (left : x.isNaN = false) (right : y.isNaN = false) :
    x.le y = true ↔ x.value ≤ y.value := by
  simp [le, left, right, value_le_value_iff]

theorem lt_iff (left : x.isNaN = false) (right : y.isNaN = false) :
    x.lt y = true ↔ x.value < y.value := by
  rw [← not_le, value_le_value_iff]
  simp [lt, left, right]

end Comparison

@[simp] theorem value_zero : zero.value = 0 := by
  have scale : zero.signedScale = 0 := by decide
  rw [value, scale, Int.cast_zero, zero_div]

@[simp] theorem value_one : one.value = 1 := by
  have scale : one.signedScale = 2 ^ 1074 := by decide +kernel
  have unit : (2 : ℚ) ^ 1074 ≠ 0 := by positivity
  rw [value, scale, Int.cast_pow, Int.cast_ofNat, div_self unit]

/-- A pattern is forced into the range from zero to one as its number is. -/
theorem value_clampUnit {x : Binary64} (number : x.isNaN = false) :
    x.clampUnit.value = max 0 (min x.value 1) := by
  have below : x.lt zero = true ↔ x.value < 0 := by
    rw [lt_iff number (by decide), value_zero]
  have above : one.lt x = true ↔ 1 < x.value := by
    rw [lt_iff (by decide) number, value_one]
  rw [clampUnit, number, if_neg Bool.false_ne_true]
  by_cases low : x.value < 0
  · rw [if_pos (below.mpr low), value_zero, max_eq_left ((min_le_left _ _).trans low.le)]
  · rw [if_neg (mt below.mp low)]
    by_cases high : 1 < x.value
    · rw [if_pos (above.mpr high), value_one, min_eq_right high.le, max_eq_right zero_le_one]
    · rw [if_neg (mt above.mp high), min_eq_left (not_lt.mp high), max_eq_right (not_lt.mp low)]

/-- The sign of a zero does not change the number. -/
theorem signedScale_of_nonneg {x : Binary64} (nonneg : 0 ≤ x.value) : x.signedScale = x.scaled := by
  have unit : (0 : ℚ) < 2 ^ 1074 := by positivity
  have scale : 0 ≤ x.signedScale := by
    rwa [value, le_div_iff₀ unit, zero_mul, Int.cast_nonneg_iff] at nonneg
  simp only [signedScale] at scale ⊢
  split at scale <;> simp_all

theorem div_two_pow_lt_iff {k s n d : ℕ} :
    (k : ℚ) / 2 ^ d < s / 2 ^ (n + d) ↔ k <<< n < s := by
  have parts : (0 : ℚ) < 2 ^ d := by positivity
  have unit : (0 : ℚ) < 2 ^ (n + d) := by positivity
  have whole : (k : ℚ) * 2 ^ n = (k <<< n : ℕ) := by
    rw [Nat.shiftLeft_eq, Nat.cast_mul, Nat.cast_pow, Nat.cast_ofNat]
  rw [div_lt_div_iff₀ parts unit, pow_add, ← mul_assoc, mul_lt_mul_iff_of_pos_right parts, whole,
    Nat.cast_lt]

/-- A draw lies below a pattern exactly if it lies below the number. -/
theorem unitBelow_iff {k : Nat} {x : Binary64} (nonneg : 0 ≤ x.value) :
    unitBelow k x = true ↔ (k : ℚ) / 2 ^ 53 < x.value := by
  rw [value, signedScale_of_nonneg nonneg, Int.cast_natCast, unitBelow, decide_eq_true_iff]
  exact (div_two_pow_lt_iff (n := 1021)).symm

end DuplexStream.Binary64
