import DuplexStream.Proofs.Binary64.Seconds

/-!
# Whole numbers as patterns

The exponent of a whole number says how large it is at least. So the pattern of a number above one
is above the pattern of one, and the only whole numbers between zero and one are these two.
-/

namespace DuplexStream.Binary64

section Patterns

variable {x : Binary64} {m : Nat}

theorem toNat_ofMagnitude (negative : Bool) (small : m < signBit) :
    (ofMagnitude negative m).bits.toNat = if negative then signBit + m else m := by
  have size : UInt64.size = 2 * signBit := rfl
  rw [ofMagnitude, UInt64.toNat_ofNat_of_lt']
  split <;> omega

theorem magnitude_ofMagnitude (negative : Bool) (small : m < signBit) :
    (ofMagnitude negative m).magnitude = m := by
  rw [magnitude, toNat_ofMagnitude negative small]
  split
  · rw [Nat.add_mod_left, Nat.mod_eq_of_lt small]
  · exact Nat.mod_eq_of_lt small

theorem isNegative_ofMagnitude (negative : Bool) (small : m < signBit) :
    (ofMagnitude negative m).isNegative = negative := by
  rw [isNegative, toNat_ofMagnitude negative small]
  cases negative <;> simp [small]

/-- The magnitude of one. -/
def oneMagnitude : Nat := 1023 * leadingBit

/-- A pattern above the magnitude of one is no number between zero and one. -/
theorem isUnit_eq_false_of_lt (large : oneMagnitude < x.magnitude) : x.isUnit = false := by
  have keyZero : zero.key = 0 := by decide
  have keyOne : one.key = oneMagnitude := by decide
  have outside : 0 ≤ x.key → ¬ x.key ≤ oneMagnitude := by
    rw [key]
    split <;> omega
  rw [← keyZero, ← keyOne] at outside
  simp only [isUnit, le, Bool.and_eq_false_iff, decide_eq_false_iff_not]
  by_cases above : zero.key ≤ x.key
  · exact .inr (.inr (outside above))
  · exact .inl (.inr above)

end Patterns

section Whole

variable {k : Nat}

theorem binaryOrder_one (nonzero : k ≠ 0) : binaryOrder k 1 = k.log2 := by
  have fits : 1 <<< k.log2 ≤ k := by
    rw [Nat.one_shiftLeft]
    exact Nat.log2_self_le nonzero
  have unit : Nat.log2 1 = 0 := by decide
  simp [binaryOrder, unit, fits]

/-- The exponent of a whole number, and a leading bit that rounding does not take away. -/
theorem le_magnitude_ofQuotient (negative : Bool) (nonzero : k ≠ 0) :
    min ((k.log2 + 1023) * leadingBit) infiniteMagnitude ≤
      (ofQuotient negative k 1).magnitude := by
  have bit : leadingBit = 2 ^ 52 := rfl
  have exponents : 52 + (k.log2 + 1022) = k.log2 + 1074 := by omega
  have large : leadingBit ≤ roundHalfEven (k <<< 1074) (1 <<< (k.log2 + 1022)) := by
    refine le_trans ?_ (div_le_roundHalfEven _ _)
    rw [Nat.one_shiftLeft, Nat.shiftLeft_eq, Nat.le_div_iff_mul_le (Nat.two_pow_pos _)]
    calc leadingBit * 2 ^ (k.log2 + 1022) = 2 ^ k.log2 * 2 ^ 1074 := by
          rw [bit, ← Nat.pow_add, ← Nat.pow_add, exponents]
      _ ≤ k * 2 ^ 1074 := Nat.mul_le_mul_right _ (Nat.log2_self_le nonzero)
  have offset : ((k.log2 : Int) - 52 + 1074).toNat = k.log2 + 1022 := by omega
  have next : (k.log2 + 1023) * leadingBit = (k.log2 + 1022) * leadingBit + leadingBit :=
    Nat.succ_mul (k.log2 + 1022) leadingBit
  have bound : infiniteMagnitude < signBit := by decide
  rw [ofQuotient, if_neg nonzero, binaryOrder_one nonzero, offset,
    magnitude_ofMagnitude negative (by omega)]
  omega

theorem isNegative_ofQuotient (negative : Bool) (nonzero : k ≠ 0) :
    (ofQuotient negative k 1).isNegative = negative := by
  have bound : infiniteMagnitude < signBit := by decide
  rw [ofQuotient, if_neg nonzero, isNegative_ofMagnitude negative (by omega)]

end Whole

/-- Zero and one are the only whole numbers between zero and one. -/
theorem isUnit_ofInt {n : Int} : (ofInt n).isUnit = true ↔ 0 ≤ n ∧ n ≤ 1 := by
  constructor
  · intro unit
    by_contra outside
    refine Bool.eq_false_iff.1 ?_ unit
    have nonzero : n.natAbs ≠ 0 := by omega
    have large := le_magnitude_ofQuotient (decide (n < 0)) nonzero
    have bit : leadingBit = 2 ^ 52 := rfl
    have infinite : infiniteMagnitude = 2047 * leadingBit := rfl
    by_cases below : n < 0
    · -- minus one has the magnitude of one, so the sign has to tell
      have negative := isNegative_ofQuotient (decide (n < 0)) nonzero
      refine isUnit_eq_false_iff.2 (.inr (.inl ((value_neg_iff _).2 ⟨?_, ?_⟩)))
      · exact negative.trans (decide_eq_true below)
      · intro zero
        have same : (ofQuotient (decide (n < 0)) n.natAbs 1).magnitude = 0 := zero
        have exponent := Nat.mul_le_mul_right leadingBit (Nat.le_add_left 1023 n.natAbs.log2)
        omega
    · refine isUnit_eq_false_of_lt (lt_of_lt_of_le ?_ large)
      have order : 1 ≤ n.natAbs.log2 := (Nat.le_log2 nonzero).2 (by omega)
      have exponent := Nat.mul_le_mul_right leadingBit (Nat.add_le_add_right order 1023)
      have oneBits : oneMagnitude = 1023 * leadingBit := rfl
      omega
  · rintro ⟨low, high⟩
    obtain rfl | rfl : n = 0 ∨ n = 1 := by omega
    · decide
    · decide +kernel

end DuplexStream.Binary64
