import DuplexStream.Binary64.Decimal

/-!
# Numerals on a command line

A whole number is a run of ASCII digits with an optional plus sign, or minus sign where negative
numbers are read. A real number is a decimal with an optional sign, point and exponent, or one of
the words `inf`, `infinity` and `nan` in any case. Blanks and separators are never part of a
numeral.
-/

namespace DuplexStream.Text

/-- An ASCII digit. -/
def isDigit (c : Char) : Bool :=
  decide ('0' ≤ c ∧ c ≤ '9')

/-- The value of an ASCII digit. -/
def digitValue (c : Char) : Nat :=
  c.toNat - 48

/-- The value of a run of digits in a base. -/
def valueOfDigits (base : Nat) (digits : List Nat) : Nat :=
  digits.foldl (fun n d => n * base + d) 0

/-- The value of a run of decimal digits. -/
def decimalValue (cs : List Char) : Nat :=
  valueOfDigits 10 (cs.map digitValue)

/-- The number a non-empty run of decimal digits stands for. -/
def digits? (cs : List Char) : Option Nat :=
  if cs.isEmpty || !cs.all isDigit then none else some (decimalValue cs)

/-- A sign and what follows it. -/
def splitSign : List Char → Bool × List Char
  | '+' :: cs => (false, cs)
  | '-' :: cs => (true, cs)
  | cs => (false, cs)

/-- A whole number below `2 ^ 64`. -/
def readWord (s : String) : Option UInt64 :=
  let body := match s.toList with
    | '+' :: cs => cs
    | cs => cs
  match digits? body with
  | some n => if n < UInt64.size then some (UInt64.ofNat n) else none
  | none => none

/-- A whole number from zero to below `2 ^ 32`. It is read as a signed number first, so a negative
zero is a zero. -/
def readCount (s : String) : Option UInt32 :=
  let (negative, body) := splitSign s.toList
  match digits? body with
  | some n => if n < UInt32.size ∧ (n = 0 ∨ negative = false) then some (UInt32.ofNat n) else none
  | none => none

/-- The decimal exponent behind a mantissa: none is zero. -/
def readExponent : List Char → Option Int
  | [] => some 0
  | c :: cs =>
    if c == 'e' || c == 'E' then
      let (negative, body) := splitSign cs
      (digits? body).map fun n => if negative then -(n : Int) else n
    else none

/-- The decimal with the digits `whole`, a point, the digits `fraction` and a power of ten. -/
def decimalOf (negative : Bool) (whole fraction : List Char) (exponent : Int) : Binary64 :=
  Binary64.ofDecimal negative (decimalValue (whole ++ fraction)) (exponent - fraction.length)

/-- A decimal without its sign: digits on at least one side of an optional point. -/
def readDecimal (negative : Bool) (cs : List Char) : Option Binary64 :=
  let whole := cs.takeWhile isDigit
  let (fraction, rest) := match cs.dropWhile isDigit with
    | '.' :: cs' => (cs'.takeWhile isDigit, cs'.dropWhile isDigit)
    | cs' => ([], cs')
  if whole.isEmpty && fraction.isEmpty then none
  else (readExponent rest).map (decimalOf negative whole fraction)

/-- A real number. -/
def readReal (s : String) : Option Binary64 :=
  let (negative, body) := splitSign s.toList
  let word := String.ofList (body.map Char.toLower)
  if word == "inf" || word == "infinity" then some (Binary64.infinity negative)
  else if word == "nan" then
    some (if negative then Binary64.nan.negate else Binary64.nan)
  else readDecimal negative body

end DuplexStream.Text
