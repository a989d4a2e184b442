import DuplexStream.Duration
import DuplexStream.Proofs.Binary64.Value

/-!
# Which numbers of seconds are a span of time

A pattern is no span exactly if it is a NaN or an infinity, or stands for a negative number or for
`2 ^ 64` and more (`Duration.ofBinarySeconds?_eq_none_iff`). Rounding to nanoseconds does not blur
the upper bound, since the greatest number below it lies more than a second below it. The range from
zero to one is told in the same terms (`Binary64.isUnit_eq_false_iff`).
-/

namespace DuplexStream

namespace Binary64

section Sign

variable (x : Binary64)

theorem toNat_bits : x.bits.toNat = (if x.isNegative then signBit else 0) + x.magnitude := by
  have size : x.bits.toNat < 2 * signBit := x.bits.toNat_lt
  have half : 0 < signBit := by decide
  simp only [isNegative, magnitude, decide_eq_true_eq]
  by_cases high : signBit ≤ x.bits.toNat
  · rw [if_pos high, Nat.mod_eq_sub_mod high, Nat.mod_eq_of_lt (by omega)]
    omega
  · rw [if_neg high, Nat.mod_eq_of_lt (Nat.lt_of_not_le high), Nat.zero_add]

/-- A pattern is its sign and its magnitude. -/
theorem ofMagnitude_magnitude : ofMagnitude x.isNegative x.magnitude = x := by
  have bits := x.toNat_bits
  have same : (if x.isNegative = true then signBit + x.magnitude else x.magnitude) =
      x.bits.toNat := by
    split at bits <;> simp_all
  rw [ofMagnitude, same, UInt64.ofNat_toNat]

/-- A sign in front of a zero does not make it negative. -/
theorem value_neg_iff : x.value < 0 ↔ x.isNegative = true ∧ x.magnitude ≠ 0 := by
  have unit : (0 : ℚ) < 2 ^ 1074 := by positivity
  have zero := scaled_eq_zero_iff (x := x)
  rw [value, div_lt_iff₀ unit, zero_mul, Int.cast_lt_zero, signedScale]
  split <;> simp_all [Nat.pos_iff_ne_zero]

end Sign

/-- A pattern that stands for no real number is a NaN or an infinity. -/
theorem isFinite_eq_false_iff {x : Binary64} :
    x.isFinite = false ↔ x.isNaN = true ∨ ∃ negative, x = .infinity negative := by
  constructor
  · intro large
    simp only [isFinite, decide_eq_false_iff_not, Nat.not_lt] at large
    rcases Nat.lt_or_eq_of_le large with above | edge
    · exact Or.inl (decide_eq_true above)
    · right
      exact ⟨x.isNegative, by rw [infinity, edge, ofMagnitude_magnitude]⟩
  · rintro (nan | ⟨negative, rfl⟩)
    · simp only [isNaN, decide_eq_true_eq] at nan
      exact decide_eq_false (Nat.not_lt.mpr nan.le)
    · cases negative <;> decide

/-- What is outside the range from zero to one. -/
theorem isUnit_eq_false_iff {x : Binary64} :
    x.isUnit = false ↔ x.isNaN = true ∨ x.value < 0 ∨ 1 < x.value := by
  cases number : x.isNaN with
  | true => simp [isUnit, le, number]
  | false =>
      rw [← Bool.not_eq_true, isUnit, Bool.and_eq_true, le_iff (by decide) number,
        le_iff number (by decide), value_zero, value_one, not_and_or, not_le, not_le]
      simp

section Bound

variable {x : Binary64}

/-- One, counted in the least positive number. -/
def oneScale : Nat := 1 <<< 1074

theorem cast_one_shiftLeft (k : Nat) : ((1 <<< k : ℕ) : ℚ) = 2 ^ k := by
  rw [Nat.one_shiftLeft, Nat.cast_pow, Nat.cast_ofNat]

theorem cast_oneScale : (oneScale : ℚ) = 2 ^ 1074 :=
  cast_one_shiftLeft 1074

theorem oneScale_pos : 0 < oneScale := by decide +kernel

/-- The magnitude of `2 ^ 64`. -/
def boundMagnitude : Nat := (1023 + 64) * leadingBit

theorem scaleOf_bound : scaleOf boundMagnitude = 2 ^ 64 * oneScale := by decide +kernel

/-- The numbers below `2 ^ 64` end well below it. -/
theorem scaleOf_below_bound : scaleOf (boundMagnitude - 1) = (2 ^ 64 - 2048) * oneScale := by
  decide +kernel

theorem bound_le_value_iff (nonneg : 0 ≤ x.value) :
    2 ^ 64 ≤ x.value ↔ 2 ^ 64 * oneScale ≤ x.scaled := by
  have unit : (0 : ℚ) < 2 ^ 1074 := by positivity
  rw [value, signedScale_of_nonneg nonneg, Int.cast_natCast, le_div_iff₀ unit, ← cast_oneScale]
  exact_mod_cast Iff.rfl

theorem scaled_le_of_lt_bound (below : x.scaled < 2 ^ 64 * oneScale) :
    x.scaled ≤ (2 ^ 64 - 2048) * oneScale := by
  rw [← scaleOf_bound, scaled_eq, strictMono_scaleOf.lt_iff_lt] at below
  rw [← scaleOf_below_bound, scaled_eq, strictMono_scaleOf.le_iff_le]
  exact Nat.le_sub_one_of_lt below

end Bound

end Binary64

section Rounding

theorem div_le_roundHalfEven (n d : Nat) : n / d ≤ roundHalfEven n d := by
  simp only [roundHalfEven]
  split
  · exact Nat.le_refl _
  · split
    · exact Nat.le_succ _
    · split
      · exact Nat.le_refl _
      · exact Nat.le_succ _

theorem roundHalfEven_le_succ (n d : Nat) : roundHalfEven n d ≤ n / d + 1 := by
  simp only [roundHalfEven]
  split
  · exact Nat.le_succ _
  · split
    · exact Nat.le_refl _
    · split
      · exact Nat.le_succ _
      · exact Nat.le_refl _

/-- A quotient that stays more than one below a bound is not rounded up to it. -/
theorem le_roundHalfEven_iff {n d bound : Nat} (positive : 0 < d)
    (gap : n < bound * d → n / d + 1 < bound) : bound ≤ roundHalfEven n d ↔ bound * d ≤ n := by
  constructor
  · intro large
    by_contra below
    have rounded := roundHalfEven_le_succ n d
    have far := gap (Nat.lt_of_not_le below)
    omega
  · intro large
    calc bound ≤ n / d := (Nat.le_div_iff_mul_le positive).mpr large
      _ ≤ roundHalfEven n d := div_le_roundHalfEven n d

end Rounding

namespace Duration

open Binary64

variable {x : Binary64}

/-- The nanoseconds of a number that is not negative, before the bound is looked at. -/
def nanosOf (x : Binary64) : Nat :=
  roundHalfEven (x.scaled * nanosPerSecond) oneScale

theorem ofBinarySeconds?_eq_none (x : Binary64) : ofBinarySeconds? x = none ↔
    x.isFinite = false ∨ x.value < 0 ∨ 2 ^ 64 * nanosPerSecond ≤ nanosOf x := by
  have scale : (x.significand * nanosPerSecond) <<< x.exponentOffset =
      x.scaled * nanosPerSecond := by
    rw [scaled, Nat.shiftLeft_eq, Nat.shiftLeft_eq, Nat.mul_right_comm]
  have rounded : roundHalfEven (x.scaled * nanosPerSecond) (1 <<< 1074) = nanosOf x := rfl
  have size : UInt64.size = 2 ^ 64 := rfl
  simp only [ofBinarySeconds?, scale, rounded, size, value_neg_iff]
  cases finite : x.isFinite with
  | false => simp
  | true =>
      cases negative : x.isNegative <;> by_cases zero : x.magnitude = 0 <;> simp [zero]

/-- Rounding to nanoseconds carries no number over the bound. -/
theorem bound_le_nanosOf_iff (nonneg : 0 ≤ x.value) :
    2 ^ 64 * nanosPerSecond ≤ nanosOf x ↔ 2 ^ 64 ≤ x.value := by
  have second : 0 < nanosPerSecond := by decide
  rw [bound_le_value_iff nonneg, nanosOf, le_roundHalfEven_iff oneScale_pos, Nat.mul_right_comm,
    Nat.mul_le_mul_right_iff second]
  intro below
  rw [Nat.mul_right_comm, Nat.mul_lt_mul_right second] at below
  have most := Nat.mul_le_mul_right nanosPerSecond (scaled_le_of_lt_bound below)
  have quotient : x.scaled * nanosPerSecond / oneScale ≤ (2 ^ 64 - 2048) * nanosPerSecond := by
    apply Nat.div_le_of_le_mul
    rwa [Nat.mul_left_comm, ← Nat.mul_assoc]
  calc x.scaled * nanosPerSecond / oneScale + 1 ≤ (2 ^ 64 - 2048) * nanosPerSecond + 1 :=
        Nat.succ_le_succ quotient
    _ < 2 ^ 64 * nanosPerSecond := by decide

/-- The numbers of seconds that are no span of time. -/
theorem ofBinarySeconds?_eq_none_iff : ofBinarySeconds? x = none ↔
    x.isNaN = true ∨ (∃ negative, x = .infinity negative) ∨ x.value < 0 ∨ 2 ^ 64 ≤ x.value := by
  rw [ofBinarySeconds?_eq_none, ← or_assoc (a := x.isNaN = true), ← isFinite_eq_false_iff]
  by_cases negative : x.value < 0
  · simp [negative]
  · rw [bound_le_nanosOf_iff (not_lt.mp negative)]

end Duration

end DuplexStream
