import DuplexStream.Text.Numeral
import DuplexStream.Toml.Node

/-!
# Words of a document

A value that is no text, array or table is one word of letters, digits and a few signs: a boolean,
a whole number, a real number, or a date, a time or both. `scalar?` reads a whole word. Digits may
be grouped by single underscores between them.
-/

namespace DuplexStream.Toml

open Text (isDigit digitValue decimalValue valueOfDigits splitSign)

/-- The digits of a number without the underscores that group them. Each underscore stands between
two digits. -/
def ungroup (ok : Char → Bool) : List Char → Option (List Char)
  | [] => none
  | [c] => if ok c then some [c] else none
  | c :: '_' :: rest => if ok c then (ungroup ok rest).map (c :: ·) else none
  | c :: rest => if ok c then (ungroup ok rest).map (c :: ·) else none

/-- Decimal digits without a leading zero, apart from zero itself. -/
def plainDigits (cs : List Char) : Option (List Char) :=
  match ungroup isDigit cs with
  | some ['0'] => some ['0']
  | some ('0' :: _) => none
  | digits => digits

/-- The value of a hexadecimal digit. -/
def hexValue (c : Char) : Option Nat :=
  if isDigit c then some (c.toNat - 48)
  else if 'a' ≤ c ∧ c ≤ 'f' then some (c.toNat - 87)
  else if 'A' ≤ c ∧ c ≤ 'F' then some (c.toNat - 55)
  else none

/-- A digit of a base up to sixteen. -/
def isDigitOf (base : Nat) (c : Char) : Bool :=
  match hexValue c with
  | some d => decide (d < base)
  | none => false

/-- The numbers of a signed word lie below this. -/
def signedLimit : Nat := UInt64.size / 2

/-- A whole number, if it fits a signed word. -/
def signed? (negative : Bool) (n : Nat) : Option Node :=
  if negative then (if n ≤ signedLimit then some (.integer (-(n : Int))) else none)
  else (if n < signedLimit then some (.integer n) else none)

/-- A whole number in another base, behind its mark. -/
def based? (base : Nat) (cs : List Char) : Option Node :=
  match ungroup (isDigitOf base) cs with
  | some digits => signed? false (valueOfDigits base (digits.map fun c => (hexValue c).getD 0))
  | none => none

/-- A whole number. -/
def integer? (cs : List Char) : Option Node :=
  match cs with
  | '0' :: 'x' :: rest => based? 16 rest
  | '0' :: 'o' :: rest => based? 8 rest
  | '0' :: 'b' :: rest => based? 2 rest
  | _ =>
    let (negative, body) := splitSign cs
    match plainDigits body with
    | some digits => signed? negative (decimalValue digits)
    | none => none

/-- An exponent mark. -/
def isExponentMark (c : Char) : Bool :=
  c == 'e' || c == 'E'

/-- The exponent behind its mark. -/
def exponent? (cs : List Char) : Option Int :=
  let (negative, body) := splitSign cs
  (ungroup isDigit body).map fun digits =>
    let n : Int := decimalValue digits
    if negative then -n else n

/-- A decimal whose value is not too large to be a number. A negative one may be. -/
def finiteUp? (x : Binary64) : Option Node :=
  if x = Binary64.infinity false then none else some (.real x)

/-- A real number with a point, an exponent, or both. -/
def decimal? (cs : List Char) : Option Node :=
  let (negative, body) := splitSign cs
  let whole := body.takeWhile fun c => c != '.' && !isExponentMark c
  match plainDigits whole, body.dropWhile fun c => c != '.' && !isExponentMark c with
  | some digits, '.' :: rest =>
    let fraction := rest.takeWhile fun c => !isExponentMark c
    match ungroup isDigit fraction, rest.dropWhile fun c => !isExponentMark c with
    | some places, [] => finiteUp? (Text.decimalOf negative digits places 0)
    | some places, _ :: tail =>
      match exponent? tail with
      | some e => finiteUp? (Text.decimalOf negative digits places e)
      | none => none
    | none, _ => none
  | some digits, _ :: tail =>
    match exponent? tail with
    | some e => finiteUp? (Text.decimalOf negative digits [] e)
    | none => none
  | _, _ => none

/-- An infinity or a NaN. -/
def special? (cs : List Char) : Option Node :=
  let (negative, body) := splitSign cs
  if body == "inf".toList then some (.real (Binary64.infinity negative))
  else if body == "nan".toList then
    some (.real (if negative then Binary64.nan.negate else Binary64.nan))
  else none

/-- A boolean. -/
def boolean? (cs : List Char) : Option Node :=
  if cs == "true".toList then some (.boolean true)
  else if cs == "false".toList then some (.boolean false)
  else none

/-- Two digits between two bounds, and what follows. -/
def twoDigits (low high : Nat) : List Char → Option (Nat × List Char)
  | a :: b :: rest =>
    let n := decimalValue [a, b]
    if isDigit a && isDigit b && decide (low ≤ n ∧ n ≤ high) then some (n, rest) else none
  | _ => none

/-- The number of days of a month. -/
def daysIn (year month : Nat) : Nat :=
  if month = 2 then
    if year % 4 = 0 ∧ (year % 100 ≠ 0 ∨ year % 400 = 0) then 29 else 28
  else if month = 4 ∨ month = 6 ∨ month = 9 ∨ month = 11 then 30
  else 31

/-- A date, and what follows. -/
def afterDate : List Char → Option (List Char)
  | a :: b :: c :: d :: '-' :: rest =>
    if [a, b, c, d].all isDigit then
      match twoDigits 1 12 rest with
      | some (month, '-' :: rest') =>
        match twoDigits 1 31 rest' with
        | some (day, rest'') =>
          if day ≤ daysIn (decimalValue [a, b, c, d]) month then some rest'' else none
        | none => none
      | _ => none
    else none
  | _ => none

/-- Minutes and seconds behind an hour, and what follows. The seconds may have places. -/
def afterHour (rest : List Char) : Option (List Char) :=
  match twoDigits 0 59 rest with
  | some (_, ':' :: rest') =>
    match twoDigits 0 60 rest' with
    | some (_, '.' :: c :: places) => if isDigit c then some (places.dropWhile isDigit) else none
    | some (_, ['.']) => none
    | some (_, rest'') => some rest''
    | none => none
  | _ => none

/-- A time of day, and what follows. -/
def afterTime (cs : List Char) : Option (List Char) :=
  match twoDigits 0 23 cs with
  | some (_, ':' :: rest) => afterHour rest
  | _ => none

/-- A time zone, if there is one at all. -/
def isOffset (cs : List Char) : Bool :=
  match cs with
  | [] => true
  | ['Z'] => true
  | ['z'] => true
  | c :: rest =>
    (c == '+' || c == '-') &&
      match twoDigits 0 23 rest with
      | some (_, ':' :: rest') => (twoDigits 0 59 rest').map Prod.snd == some []
      | _ => false

/-- A time of day, perhaps with a time zone. -/
def isZonedTime (cs : List Char) : Bool :=
  match afterTime cs with
  | some rest => isOffset rest
  | none => false

/-- The word is a date without a time. -/
def isDate (cs : List Char) : Bool :=
  afterDate cs == some []

/-- A date, a time, or both. -/
def datetime? (cs : List Char) : Option Node :=
  if afterTime cs == some [] then some .datetime
  else
    match afterDate cs with
    | some [] => some .datetime
    | some (c :: rest) =>
      if (c == 'T' || c == 't') && isZonedTime rest then some .datetime else none
    | none => none

/-- A word as a value. -/
def scalar? (cs : List Char) : Option Node :=
  (boolean? cs).or ((integer? cs).or ((decimal? cs).or ((special? cs).or (datetime? cs))))

/-- A character of a word. -/
def isWordChar (c : Char) : Bool :=
  isDigit c || ('a' ≤ c && c ≤ 'z') || ('A' ≤ c && c ≤ 'Z') || c == '+' || c == '-' || c == '_' ||
    c == '.' || c == ':'

/-- Reads a word as a value. A date may go on, behind a single space, with a time of day. -/
def readScalar (cs : List Char) : Option (Node × List Char) :=
  let word := cs.takeWhile isWordChar
  let rest := cs.dropWhile isWordChar
  match rest with
  | ' ' :: after =>
    if isDate word && after.head?.any isWordChar then
      if isZonedTime (after.takeWhile isWordChar) then
        some (.datetime, after.dropWhile isWordChar)
      else none
    else (scalar? word).map fun v => (v, rest)
  | _ => (scalar? word).map fun v => (v, rest)

end DuplexStream.Toml
