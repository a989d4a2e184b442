import DuplexStream.Binary64.Basic

/-!
# Numbers from and to decimals

`Binary64.ofDecimal` reads `digits · 10 ^ exponent` as the nearest number. `Binary64.shortest`
goes back: the fewest decimal digits that read as the number, and of those the digits nearest to
it. `Binary64.render` writes these digits positionally, never with an exponent.
-/

namespace DuplexStream.Binary64

/-- A power of ten. -/
def powerOfTen (n : Nat) : Nat :=
  Nat.pow 10 n

/-- The number nearest to `digits · 10 ^ exponent`. Decimals beyond `10 ^ 400` or below
`10 ^ -400` are decided without writing the power out. -/
def ofDecimal (negative : Bool) (digits : Nat) (exponent : Int) : Binary64 :=
  if digits = 0 then ofMagnitude negative 0
  else if 400 < exponent then infinity negative
  else if exponent + (Nat.log2 digits + 1) < -400 then ofMagnitude negative 0
  else if 0 ≤ exponent then ofQuotient negative (digits * powerOfTen exponent.toNat) 1
  else ofQuotient negative digits (powerOfTen (-exponent).toNat)

/-- A decimal: a coefficient and the power of ten that scales it. -/
structure Decimal where
  coefficient : Nat
  exponent : Int
  deriving DecidableEq

/-- The reals that read as one positive finite number, over a common denominator: the number
itself, the ends of the range, and whether the ends belong to it. -/
structure ReadingRange where
  value : Nat
  lower : Nat
  upper : Nat
  closed : Bool
  denominator : Nat

/-- The range of a positive finite number. It reaches halfway to both neighbours; below a power
of two the neighbour is half as far. The ends belong to it when the significand is even. -/
def readingRange (x : Binary64) : ReadingRange :=
  let m := x.significand
  let below := if m = leadingBit ∧ 0 < x.exponentOffset then 1 else 2
  { value := (4 * m) <<< x.exponentOffset
    lower := (4 * m - below) <<< x.exponentOffset
    upper := (4 * m + 2) <<< x.exponentOffset
    closed := m % 2 == 0
    denominator := 4 <<< 1074 }

/-- The fraction `n / d` lies in the range. -/
def ReadingRange.contains (r : ReadingRange) (n d : Nat) : Bool :=
  let here := n * r.denominator
  if r.closed then decide (r.lower * d ≤ here ∧ here ≤ r.upper * d)
  else decide (r.lower * d < here ∧ here < r.upper * d)

/-- The point nearest to the value among the multiples of `10 ^ e` in the range, if there is one.
Only the two multiples beside the value need a look; the larger one wins a tie. -/
def ReadingRange.onGrid? (r : ReadingRange) (e : Int) : Option Decimal :=
  let up := powerOfTen e.toNat
  let down := powerOfTen (-e).toNat
  let k := r.value * down / (r.denominator * up)
  let low := r.contains (k * up) down
  let high := r.contains ((k + 1) * up) down
  if low && high then
    if 2 * (r.value * down) < (2 * k + 1) * (r.denominator * up) then some ⟨k, e⟩
    else some ⟨k + 1, e⟩
  else if low then some ⟨k, e⟩
  else if high then some ⟨k + 1, e⟩
  else none

/-- The coarsest grid with a point in the range, looking at `steps` grids from `10 ^ e` down. -/
def ReadingRange.coarsest (r : ReadingRange) : Nat → Int → Decimal
  | 0, e => ⟨0, e⟩
  | steps + 1, e =>
    match r.onGrid? e with
    | some d => d
    | none => r.coarsest steps (e - 1)

/-- The fewest digits that read back as a positive finite number, and of those the nearest. -/
def shortest (x : Binary64) : Decimal :=
  x.readingRange.coarsest 660 309

/-- A decimal written positionally: no exponent, and no point in a whole number. -/
def Decimal.render (d : Decimal) : String :=
  let digits := Nat.toDigits 10 d.coefficient
  if 0 ≤ d.exponent then
    String.ofList (digits ++ List.replicate d.exponent.toNat '0')
  else
    let places := (-d.exponent).toNat
    let padded := List.replicate (places + 1 - digits.length) '0' ++ digits
    let whole := padded.length - places
    String.ofList (padded.take whole ++ '.' :: padded.drop whole)

/-- The text of a number. -/
def render (x : Binary64) : String :=
  if x.isNaN then "NaN"
  else
    let body :=
      if !x.isFinite then "inf"
      else if x.magnitude = 0 then "0"
      else x.shortest.render
    if x.isNegative then "-" ++ body else body

end DuplexStream.Binary64
