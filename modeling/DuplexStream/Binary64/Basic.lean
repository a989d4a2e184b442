import DuplexStream.Rounding

/-!
# Double-precision numbers

A number is its 64-bit pattern: a sign, eleven bits of exponent and fifty-two bits of fraction.
Read as a signed magnitude the pattern sorts as the number it stands for, so comparisons are
comparisons of `key`; both zeros have the key zero and a NaN compares with nothing.

`ofQuotient` gives the number nearest to a fraction. `scaled` gives the value back: a finite
number is `scaled` times the least positive number, with its sign.
-/

namespace DuplexStream

/-- A double-precision number, by its bit pattern. -/
structure Binary64 where
  bits : UInt64
  deriving DecidableEq

namespace Binary64

/-- The value of the sign bit. -/
def signBit : Nat := 0x8000000000000000

/-- The value of the lowest bit of the exponent, and of the bit in front of the fraction, which is
not written. -/
def leadingBit : Nat := 0x10000000000000

/-- The pattern without its sign bit. -/
def magnitude (x : Binary64) : Nat :=
  x.bits.toNat % signBit

/-- The sign bit. It is set for negative zero too. -/
def isNegative (x : Binary64) : Bool :=
  decide (signBit ≤ x.bits.toNat)

/-- The magnitude of the infinities; the finite magnitudes lie below it, the NaNs above. -/
def infiniteMagnitude : Nat := 0x7FF * leadingBit

/-- The pattern stands for no number. -/
def isNaN (x : Binary64) : Bool :=
  decide (infiniteMagnitude < x.magnitude)

/-- The pattern stands for a real number. -/
def isFinite (x : Binary64) : Bool :=
  decide (x.magnitude < infiniteMagnitude)

/-- The pattern as a signed magnitude. -/
def key (x : Binary64) : Int :=
  if x.isNegative then -(x.magnitude : Int) else x.magnitude

/-- Strictly smaller; false as soon as one side is a NaN. -/
def lt (x y : Binary64) : Bool :=
  !x.isNaN && !y.isNaN && decide (x.key < y.key)

/-- Smaller or equal; false as soon as one side is a NaN. -/
def le (x y : Binary64) : Bool :=
  !x.isNaN && !y.isNaN && decide (x.key ≤ y.key)

/-- The number with a given sign and magnitude. -/
def ofMagnitude (negative : Bool) (m : Nat) : Binary64 :=
  ⟨UInt64.ofNat (if negative then signBit + m else m)⟩

/-- Positive zero. -/
def zero : Binary64 := ⟨0⟩

/-- One. -/
def one : Binary64 := ⟨0x3FF0000000000000⟩

/-- The quiet NaN. -/
def nan : Binary64 := ⟨0x7FF8000000000000⟩

/-- Infinity with a sign. -/
def infinity (negative : Bool) : Binary64 :=
  ofMagnitude negative infiniteMagnitude

/-- The same number with the other sign. -/
def negate (x : Binary64) : Binary64 :=
  ofMagnitude (!x.isNegative) x.magnitude

/-- The whole number that a finite number scales by a power of two. -/
def significand (x : Binary64) : Nat :=
  if x.magnitude / leadingBit = 0 then x.magnitude else leadingBit + x.magnitude % leadingBit

/-- How far a finite number's exponent lies above the least one, which is `-1074`. -/
def exponentOffset (x : Binary64) : Nat :=
  x.magnitude / leadingBit - 1

/-- The binary order of a fraction: the `e` with `2 ^ e ≤ n / d < 2 ^ (e + 1)`. -/
def binaryOrder (n d : Nat) : Int :=
  let guess : Int := (Nat.log2 n : Int) - Nat.log2 d
  let fits : Bool :=
    if 0 ≤ guess then decide (d <<< guess.toNat ≤ n) else decide (d ≤ n <<< (-guess).toNat)
  if fits then guess else guess - 1

/-- The number nearest to `n / d` with a given sign; a tie goes to the even significand and
what is too large becomes infinite. A significand that rounds up to the next power of two
carries into the exponent by itself, since the exponent stands just above the fraction. -/
def ofQuotient (negative : Bool) (n d : Nat) : Binary64 :=
  if n = 0 then ofMagnitude negative 0
  else
    let offset : Nat := (binaryOrder n d - 52 + 1074).toNat
    let m := offset * leadingBit + roundHalfEven (n <<< 1074) (d <<< offset)
    ofMagnitude negative (min m infiniteMagnitude)

/-- The number nearest to a whole number. -/
def ofInt (n : Int) : Binary64 :=
  ofQuotient (decide (n < 0)) n.natAbs 1

/-- The number forced into the range from zero to one; a NaN becomes zero. -/
def clampUnit (x : Binary64) : Binary64 :=
  if x.isNaN then zero
  else if x.lt zero then zero
  else if one.lt x then one
  else x

/-- The number lies between zero and one, both included. -/
def isUnit (x : Binary64) : Bool :=
  zero.le x && x.le one

/-- The absolute value of a finite number, counted in the least positive number `2⁻¹⁰⁷⁴`. -/
def scaled (x : Binary64) : Nat :=
  x.significand <<< x.exponentOffset

/-- The fraction `k · 2⁻⁵³` lies below a finite number that is not negative. -/
def unitBelow (k : Nat) (x : Binary64) : Bool :=
  decide (k <<< 1021 < x.scaled)

end Binary64

end DuplexStream
