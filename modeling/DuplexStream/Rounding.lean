/-!
# Rounding a quotient

`roundHalfEven n d` is the whole number nearest to `n / d`; of two equally near ones it is the
even one. It is the one rounding rule of the library: reading decimals and reading seconds both
use it.
-/

namespace DuplexStream

/-- The whole number nearest to `n / d`, a tie going to the even one. -/
def roundHalfEven (n d : Nat) : Nat :=
  let q := n / d
  let twice := 2 * (n % d)
  if twice < d then q
  else if d < twice then q + 1
  else if q % 2 = 0 then q else q + 1

end DuplexStream
