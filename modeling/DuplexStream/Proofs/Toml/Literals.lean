import DuplexStream.Toml.Scalar
import Mathlib.Data.List.TakeWhile

/-!
# Literals as they are written

A literal is described by how it is spelled: its sign, its digits and the underscores between them,
its base, its point and its exponent. `scalar?` reads every spelling, and reads it as the value that
the digits stand for.
-/

namespace DuplexStream.Toml

open Text (isDigit digitValue decimalValue valueOfDigits splitSign decimalOf)

/-- Digits as they are written. Each but the first may have an underscore in front of it. -/
structure Digits (ok : Char → Bool) where
  first : {c : Char // ok c = true}
  rest : List (Bool × {c : Char // ok c = true})

namespace Digits

variable {ok : Char → Bool}

/-- The characters without underscores. -/
def plain (d : Digits ok) : List Char :=
  d.first.1 :: d.rest.map (·.2.1)

/-- The characters with underscores. -/
def spelling (d : Digits ok) : List Char :=
  d.first.1 :: d.rest.flatMap fun (grouped, c) => if grouped then ['_', c.1] else [c.1]

/-- There is no zero in front of other digits. -/
def Canonical (d : Digits ok) : Prop :=
  d.first.1 = '0' → d.rest = []

end Digits

/-- A run of characters ends where another one follows. -/
theorem span_at {p : Char → Bool} {front : List Char} (inside : ∀ c ∈ front, p c = true) {c : Char}
    (other : p c = false) (cs : List Char) :
    (front ++ c :: cs).takeWhile p = front ∧ (front ++ c :: cs).dropWhile p = c :: cs := by
  constructor
  · rw [List.takeWhile_append_of_pos inside, List.takeWhile_cons_of_neg (by simp [other]),
      List.append_nil]
  · rw [List.dropWhile_append_of_pos inside, List.dropWhile_cons_of_neg (by simp [other])]

section Grouping

variable {ok : Char → Bool}

theorem ungroup_cons {c c' : Char} {cs : List Char} (plain : c' ≠ '_') :
    ungroup ok (c :: c' :: cs) = if ok c then (ungroup ok (c' :: cs)).map (c :: ·) else none :=
  ungroup.eq_4 _ _ _ nofun (by simpa using plain)

/-- Digits are read without their underscores. -/
theorem ungroup_spelling (mark : ok '_' = false) (d : Digits ok) :
    ungroup ok d.spelling = some d.plain := by
  obtain ⟨first, rest⟩ := d
  induction rest generalizing first with
  | nil => simp [Digits.spelling, Digits.plain, ungroup, first.2]
  | cons next rest ih =>
      obtain ⟨grouped, c⟩ := next
      have others := ih c
      simp only [Digits.spelling, Digits.plain] at others ⊢
      cases grouped with
      | true =>
          simp only [List.flatMap_cons, if_true, List.cons_append, List.nil_append, List.map_cons]
          rw [ungroup, if_pos first.2, others]
          rfl
      | false =>
          have digit : c.1 ≠ '_' := fun h => by simpa [h, mark] using c.2
          simp only [List.flatMap_cons, Bool.false_eq_true, if_false, List.cons_append,
            List.nil_append, List.map_cons]
          rw [ungroup_cons digit, if_pos first.2, others]
          rfl

/-- What is read as digits is made of digits and underscores. -/
theorem mem_of_ungroup {cs ds : List Char} (read : ungroup ok cs = some ds) :
    ∀ c ∈ cs, ok c = true ∨ c = '_' := by
  fun_induction ungroup ok cs generalizing ds with
  | case1 => simp at read
  | case2 c digit => simp [digit]
  | case3 c => simp at read
  | case4 c rest digit ih =>
      obtain ⟨_, others, -⟩ := Option.map_eq_some_iff.1 read
      simpa [digit] using ih others
  | case5 => simp at read
  | case6 c rest _ _ digit ih =>
      obtain ⟨_, others, -⟩ := Option.map_eq_some_iff.1 read
      simpa [digit] using ih others
  | case7 => simp at read

theorem ungroup_eq_none {cs : List Char} {c : Char} (mem : c ∈ cs) (other : ok c = false)
    (mark : c ≠ '_') : ungroup ok cs = none := by
  by_contra readable
  obtain ⟨ds, read⟩ := Option.ne_none_iff_exists'.1 readable
  rcases mem_of_ungroup read c mem with digit | rfl
  · simp [digit] at other
  · exact mark rfl

theorem mem_spelling (mark : ok '_' = false) {d : Digits ok} {c : Char} (mem : c ∈ d.spelling) :
    ok c = true ∨ c = '_' :=
  mem_of_ungroup (ungroup_spelling mark d) c mem

end Grouping

/-- The sign of a number, if one is written. -/
inductive Sign where
  | none
  | plus
  | minus
  deriving DecidableEq

namespace Sign

def spelling : Sign → List Char
  | none => []
  | plus => ['+']
  | minus => ['-']

/-- The number is written as a negative one. -/
def negative (s : Sign) : Bool :=
  s == minus

end Sign

/-- A character that does not look like a sign. -/
def NoSign (c : Char) : Prop := c ≠ '+' ∧ c ≠ '-'

theorem splitSign_cons {c : Char} (noSign : NoSign c) (cs : List Char) :
    splitSign (c :: cs) = (false, c :: cs) := by
  unfold splitSign
  split
  · exact absurd (List.cons.inj ‹_›).1 noSign.1
  · exact absurd (List.cons.inj ‹_›).1 noSign.2
  · rfl

theorem splitSign_spelling (s : Sign) {c : Char} (noSign : NoSign c) (cs : List Char) :
    splitSign (s.spelling ++ c :: cs) = (s.negative, c :: cs) := by
  cases s with
  | none => exact splitSign_cons noSign cs
  | plus => rfl
  | minus => rfl

/-- The bases other than ten. -/
inductive Base where
  | hexadecimal
  | octal
  | binary

namespace Base

def mark : Base → Char
  | hexadecimal => 'x'
  | octal => 'o'
  | binary => 'b'

def value : Base → Nat
  | hexadecimal => 16
  | octal => 8
  | binary => 2

end Base

/-- A whole number as it is written. -/
inductive IntegerLiteral where
  | decimal (sign : Sign) (digits : Digits isDigit) (canonical : digits.Canonical)
  | based (base : Base) (digits : Digits (isDigitOf base.value))

namespace IntegerLiteral

def spelling : IntegerLiteral → List Char
  | decimal sign digits _ => sign.spelling ++ digits.spelling
  | based base digits => '0' :: base.mark :: digits.spelling

/-- The number that is written. -/
def value : IntegerLiteral → Int
  | decimal sign digits _ =>
    if sign.negative then -(decimalValue digits.plain : Int) else decimalValue digits.plain
  | based base digits =>
    valueOfDigits base.value (digits.plain.map fun c => (hexValue c).getD 0)

/-- The number fits a signed word. -/
def Fits (l : IntegerLiteral) : Prop :=
  -(signedLimit : Int) ≤ l.value ∧ l.value < signedLimit

instance (l : IntegerLiteral) : Decidable l.Fits :=
  inferInstanceAs (Decidable (_ ∧ _))

/-- The value of the literal, if there is one. -/
def node? (l : IntegerLiteral) : Option Node :=
  if l.Fits then some (.integer l.value) else none

end IntegerLiteral

section Integers

theorem noSign_of_isDigit {c : Char} (digit : isDigit c = true) : NoSign c := by
  constructor <;> rintro rfl <;> simp [isDigit] at digit

theorem splitSign_append (s : Sign) (d : Digits isDigit) (cs : List Char) :
    splitSign (s.spelling ++ (d.spelling ++ cs)) = (s.negative, d.spelling ++ cs) :=
  splitSign_spelling s (noSign_of_isDigit d.first.2) _

theorem splitSign_digits (s : Sign) (d : Digits isDigit) :
    splitSign (s.spelling ++ d.spelling) = (s.negative, d.spelling) :=
  splitSign_spelling s (noSign_of_isDigit d.first.2) _

theorem plainDigits_spelling {d : Digits isDigit} (canonical : d.Canonical) :
    plainDigits d.spelling = some d.plain := by
  obtain ⟨first, rest⟩ := d
  have read := ungroup_spelling (by decide) ⟨first, rest⟩
  simp only [plainDigits, read]
  by_cases zero : first.1 = '0'
  · obtain rfl : rest = [] := canonical zero
    simp [Digits.plain, zero]
  · simp only [Digits.plain]
    split
    · simp_all
    · simp_all
    · rfl

theorem signed?_eq (negative : Bool) (n : Nat) :
    signed? negative n =
      if -(signedLimit : Int) ≤ (if negative then -(n : Int) else n) ∧
          (if negative then -(n : Int) else n) < signedLimit then
        some (.integer (if negative then -(n : Int) else n)) else none := by
  have limit : 0 < signedLimit := by decide
  cases negative with
  | true =>
      simp only [signed?, if_true]
      congr 1
      simp only [eq_iff_iff]
      omega
  | false =>
      simp only [signed?, Bool.false_eq_true, if_false]
      congr 1
      simp only [eq_iff_iff]
      omega

/-- A zero in front is the whole number. -/
theorem head?_of_zero_cons {sign : Sign} {d : Digits isDigit} (canonical : d.Canonical)
    {cs more : List Char} {c : Char}
    (same : sign.spelling ++ (d.spelling ++ cs) = '0' :: c :: more) : cs.head? = some c := by
  cases sign with
  | none =>
      obtain ⟨first, others⟩ := List.cons.inj same
      rw [canonical first] at others
      rw [show cs = c :: more from others]
      rfl
  | plus => exact absurd (List.cons.inj same).1 (by decide)
  | minus => exact absurd (List.cons.inj same).1 (by decide)

/-- A number is not taken for one in another base. -/
theorem integer?_append (sign : Sign) {d : Digits isDigit} (canonical : d.Canonical)
    (cs : List Char) (noMark : ∀ base : Base, cs.head? ≠ some base.mark) :
    integer? (sign.spelling ++ (d.spelling ++ cs)) =
      (plainDigits (d.spelling ++ cs)).bind fun digits =>
        signed? sign.negative (decimalValue digits) := by
  unfold integer?
  split
  · exact absurd (head?_of_zero_cons canonical ‹_›) (noMark .hexadecimal)
  · exact absurd (head?_of_zero_cons canonical ‹_›) (noMark .octal)
  · exact absurd (head?_of_zero_cons canonical ‹_›) (noMark .binary)
  · simp only [splitSign_append]
    cases plainDigits (d.spelling ++ cs) <;> rfl

theorem isDigitOf_underscore (base : Nat) : isDigitOf base '_' = false := by
  have noDigit : hexValue '_' = none := by decide
  simp [isDigitOf, noDigit]

theorem based?_spelling (base : Base) (digits : Digits (isDigitOf base.value)) :
    based? base.value digits.spelling = (IntegerLiteral.based base digits).node? := by
  simp only [based?, ungroup_spelling (isDigitOf_underscore base.value) digits]
  exact signed?_eq false _

/-- A whole number is read as the number that is written, if it fits. -/
theorem integer?_spelling (l : IntegerLiteral) : integer? l.spelling = l.node? := by
  cases l with
  | decimal sign digits canonical =>
      have read := integer?_append sign canonical [] (fun _ => nofun)
      simp only [List.append_nil, plainDigits_spelling canonical, Option.bind_some] at read
      exact read.trans (signed?_eq sign.negative _)
  | based base digits =>
      rw [← based?_spelling]
      cases base <;> rfl

end Integers

/-- An exponent as it is written, with its mark. -/
structure Exponent where
  capital : Bool
  sign : Sign
  digits : Digits isDigit

namespace Exponent

def mark (e : Exponent) : Char :=
  if e.capital then 'E' else 'e'

def spelling (e : Exponent) : List Char :=
  e.mark :: (e.sign.spelling ++ e.digits.spelling)

def value (e : Exponent) : Int :=
  if e.sign.negative then -(decimalValue e.digits.plain : Int) else decimalValue e.digits.plain

end Exponent

/-- What makes a real number of digits: a point with places, an exponent, or both. -/
inductive RealTail where
  | fraction (places : Digits isDigit) (exponent : Option Exponent)
  | exponent (e : Exponent)

namespace RealTail

def spelling : RealTail → List Char
  | fraction places e => '.' :: (places.spelling ++ (e.map Exponent.spelling).getD [])
  | exponent e => e.spelling

/-- The digits behind the point. -/
def places : RealTail → List Char
  | fraction places _ => places.plain
  | exponent _ => []

/-- The power of ten. -/
def power : RealTail → Int
  | fraction _ e => (e.map Exponent.value).getD 0
  | exponent e => e.value

end RealTail

/-- A real number as it is written. -/
inductive RealLiteral where
  | decimal (sign : Sign) (digits : Digits isDigit) (canonical : digits.Canonical) (tail : RealTail)
  | infinity (sign : Sign)
  | nan (sign : Sign)

namespace RealLiteral

def spelling : RealLiteral → List Char
  | decimal sign digits _ tail => sign.spelling ++ (digits.spelling ++ tail.spelling)
  | infinity sign => sign.spelling ++ "inf".toList
  | nan sign => sign.spelling ++ "nan".toList

/-- The number that is written, as near as there is one. -/
def value : RealLiteral → Binary64
  | decimal sign digits _ tail => decimalOf sign.negative digits.plain tail.places tail.power
  | infinity sign => .infinity sign.negative
  | nan sign => if sign.negative then Binary64.nan.negate else Binary64.nan

/-- The value of the literal. A decimal that is too large has none. -/
def node? (l : RealLiteral) : Option Node :=
  match l with
  | decimal .. => finiteUp? l.value
  | _ => some (.real l.value)

end RealLiteral

section Reals

variable {sign : Sign} {digits : Digits isDigit}

/-- A character of digits, not of what comes behind them. -/
def isWholeChar (c : Char) : Bool :=
  c != '.' && !isExponentMark c

theorem isWholeChar_of_mem {c : Char} (mem : c ∈ digits.spelling) : isWholeChar c = true := by
  rcases mem_spelling (by decide) mem with digit | rfl
  · by_contra other
    simp only [isWholeChar, isExponentMark, Bool.and_eq_true, bne_iff_ne, Bool.not_eq_true',
      Bool.or_eq_false_iff, beq_eq_false_iff_ne, not_and_or, not_not] at other
    rcases other with rfl | rfl | rfl <;> simp [isDigit] at digit
  · decide

theorem Exponent.mark_cases (e : Exponent) : e.mark = 'E' ∨ e.mark = 'e' := by
  unfold mark
  split
  · exact .inl rfl
  · exact .inr rfl

theorem exponent?_spelling (e : Exponent) :
    exponent? (e.sign.spelling ++ e.digits.spelling) = some e.value := by
  simp only [exponent?, splitSign_digits, ungroup_spelling (by decide) e.digits]
  rfl

/-- The places behind a point are read up to the exponent. -/
theorem span_places (places : Digits isDigit) (e : Option Exponent) :
    let rest := places.spelling ++ (e.map Exponent.spelling).getD []
    rest.takeWhile (fun c => !isExponentMark c) = places.spelling ∧
      rest.dropWhile (fun c => !isExponentMark c) = (e.map Exponent.spelling).getD [] := by
  have inside (c : Char) (mem : c ∈ places.spelling) : (!isExponentMark c) = true :=
    (Bool.and_eq_true_iff.1 (isWholeChar_of_mem mem)).2
  cases e with
  | none =>
      simp only [Option.map_none, Option.getD_none, List.append_nil]
      exact ⟨List.takeWhile_eq_self_iff.2 inside, List.dropWhile_eq_nil_iff.2 inside⟩
  | some e =>
      have mark : (!isExponentMark e.mark) = false := by
        rcases e.mark_cases with h | h <;> rw [h] <;> decide
      exact span_at inside mark (e.sign.spelling ++ e.digits.spelling)

/-- A decimal is read as the number nearest to it. -/
theorem decimal?_spelling (canonical : digits.Canonical) (tail : RealTail) :
    decimal? (sign.spelling ++ (digits.spelling ++ tail.spelling)) =
      (RealLiteral.decimal sign digits canonical tail).node? := by
  have whole (c : Char) (mem : c ∈ digits.spelling) : isWholeChar c = true := isWholeChar_of_mem mem
  cases tail with
  | fraction places e =>
      have point : isWholeChar '.' = false := by decide
      have ⟨taken, left⟩ := span_at whole point
        (places.spelling ++ (e.map Exponent.spelling).getD [])
      have ⟨taken', left'⟩ := span_places places e
      unfold isWholeChar at taken left
      simp only [decimal?, RealTail.spelling, splitSign_append, taken, left,
        plainDigits_spelling canonical, taken', left', ungroup_spelling (by decide) places]
      cases e with
      | none => rfl
      | some e =>
          simp only [Option.map_some, Option.getD_some, Exponent.spelling, exponent?_spelling]
          rfl
  | exponent e =>
      have other : isWholeChar e.mark = false := by
        rcases e.mark_cases with h | h <;> rw [h] <;> decide
      have ⟨taken, left⟩ := span_at whole other (e.sign.spelling ++ e.digits.spelling)
      unfold isWholeChar at taken left
      simp only [decimal?, RealTail.spelling, Exponent.spelling, splitSign_append, taken, left,
        plainDigits_spelling canonical]
      rcases e.mark_cases with h | h <;> simp [h, exponent?_spelling] <;> rfl

end Reals

section Apart

/-- Nothing that begins with another character is a date or a time. -/
theorem datetime?_cons_eq_none {c : Char} (other : isDigit c = false) (cs : List Char) :
    datetime? (c :: cs) = none := by
  have noTime : afterTime (c :: cs) = none := by
    cases cs with
    | nil => rfl
    | cons d cs => simp [afterTime, twoDigits, other]
  have noDate : afterDate (c :: cs) = none := by
    unfold afterDate
    split
    · rename_i same
      obtain ⟨rfl, -⟩ := List.cons.inj same
      simp [other]
    · rfl
  simp [datetime?, noTime, noDate]

theorem dropWhile_of_twoDigits {low high n : Nat} {cs rest : List Char}
    (read : twoDigits low high cs = some (n, rest)) :
    cs.dropWhile isDigit = rest.dropWhile isDigit := by
  unfold twoDigits at read
  split at read
  · simp only [Option.ite_none_right_eq_some, Bool.and_eq_true, Option.some.injEq,
      Prod.mk.injEq] at read
    obtain ⟨⟨⟨a, b⟩, -⟩, -, rfl⟩ := read
    rw [List.dropWhile_cons_of_pos a, List.dropWhile_cons_of_pos b]
  · cases read

/-- Behind the first digits of a date stands a hyphen, behind those of a time a colon. -/
theorem datetime?_eq_none {cs : List Char} (hyphen : (cs.dropWhile isDigit).head? ≠ some '-')
    (colon : (cs.dropWhile isDigit).head? ≠ some ':') : datetime? cs = none := by
  have noTime : afterTime cs = none := by
    unfold afterTime
    split
    · rename_i read
      rw [dropWhile_of_twoDigits read] at colon
      exact absurd rfl colon
    · rfl
  have noDate : afterDate cs = none := by
    unfold afterDate
    split
    · split
      · rename_i all
        simp only [List.all_cons, List.all_nil, Bool.and_true, Bool.and_eq_true] at all
        obtain ⟨a, b, c, d⟩ := all
        rw [List.dropWhile_cons_of_pos a, List.dropWhile_cons_of_pos b,
          List.dropWhile_cons_of_pos c, List.dropWhile_cons_of_pos d] at hyphen
        exact absurd rfl hyphen
      · rfl
    · rfl
  simp [datetime?, noTime, noDate]

variable {sign : Sign} {digits : Digits isDigit} {c : Char}

/-- A word that begins like a number is no boolean and no special number. -/
theorem boolean?_numeral (sign : Sign) (digit : isDigit c = true) (cs : List Char) :
    boolean? (sign.spelling ++ c :: cs) = none := by
  have differs {d : Char} (other : isDigit d = false) : c ≠ d := fun same => by
    simp [same, other] at digit
  cases sign with
  | none =>
      simp [boolean?, Sign.spelling, differs (d := 't') (by decide), differs (d := 'f') (by decide)]
  | plus => simp [boolean?, Sign.spelling]
  | minus => simp [boolean?, Sign.spelling]

theorem special?_numeral (sign : Sign) (digit : isDigit c = true) (cs : List Char) :
    special? (sign.spelling ++ c :: cs) = none := by
  have differs {d : Char} (other : isDigit d = false) : c ≠ d := fun same => by
    simp [same, other] at digit
  simp [special?, splitSign_spelling sign (noSign_of_isDigit digit),
    differs (d := 'i') (by decide), differs (d := 'n') (by decide)]

/-- Behind the first digits of a number stands an underscore or what follows the number. -/
theorem head?_dropWhile_spelling (digits : Digits isDigit) (cs : List Char) :
    ((digits.spelling ++ cs).dropWhile isDigit).head? = some '_' ∨
      (digits.spelling ++ cs).dropWhile isDigit = cs.dropWhile isDigit := by
  obtain ⟨first, rest⟩ := digits
  induction rest generalizing first with
  | nil => exact .inr (List.dropWhile_cons_of_pos first.2)
  | cons next rest ih =>
      obtain ⟨grouped, c⟩ := next
      have skip (more : List Char) :
          (first.1 :: more).dropWhile isDigit = more.dropWhile isDigit :=
        List.dropWhile_cons_of_pos first.2
      cases grouped with
      | true =>
          left
          simp only [Digits.spelling, List.flatMap_cons, if_true, List.cons_append,
            List.nil_append, skip]
          rfl
      | false =>
          have others := ih c
          simp only [Digits.spelling, List.flatMap_cons, Bool.false_eq_true, if_false,
            List.cons_append, List.nil_append] at others ⊢
          rwa [skip]

theorem datetime?_numeral (sign : Sign) (digits : Digits isDigit) (cs : List Char)
    (hyphen : (cs.dropWhile isDigit).head? ≠ some '-')
    (colon : (cs.dropWhile isDigit).head? ≠ some ':') :
    datetime? (sign.spelling ++ (digits.spelling ++ cs)) = none := by
  cases sign with
  | none =>
      have behind := head?_dropWhile_spelling digits cs
      refine datetime?_eq_none ?_ ?_ <;> simp only [Sign.spelling, List.nil_append]
      · rcases behind with h | h <;> rw [h]
        · decide
        · exact hyphen
      · rcases behind with h | h <;> rw [h]
        · decide
        · exact colon
  | plus => exact datetime?_cons_eq_none (by decide) _
  | minus => exact datetime?_cons_eq_none (by decide) _

end Apart

/-- A literal of a document that is no text, array or table. -/
inductive Literal where
  | integer (l : IntegerLiteral)
  | real (l : RealLiteral)
  | boolean (b : Bool)

namespace Literal

def spelling : Literal → List Char
  | integer l => l.spelling
  | real l => l.spelling
  | boolean b => if b then "true".toList else "false".toList

/-- The value of the literal, if there is one. -/
def node? : Literal → Option Node
  | integer l => l.node?
  | real l => l.node?
  | boolean b => some (.boolean b)

end Literal

section Words

theorem RealTail.exists_mark (tail : RealTail) : ∃ c rest, tail.spelling = c :: rest ∧
    (c = '.' ∨ c = 'E' ∨ c = 'e') := by
  cases tail with
  | fraction places e => exact ⟨_, _, rfl, .inl rfl⟩
  | exponent e => exact ⟨_, _, rfl, .inr e.mark_cases⟩

/-- A real number is no whole number. -/
theorem integer?_real (sign : Sign) {digits : Digits isDigit} (canonical : digits.Canonical)
    (tail : RealTail) : integer? (sign.spelling ++ (digits.spelling ++ tail.spelling)) = none := by
  obtain ⟨c, rest, same, mark⟩ := tail.exists_mark
  rw [same]
  have other : isDigit c = false ∧ c ≠ '_' := by rcases mark with rfl | rfl | rfl <;> decide
  have noMark (base : Base) : (c :: rest).head? ≠ some base.mark := by
    rcases mark with rfl | rfl | rfl <;> cases base <;> simp [Base.mark]
  have unread : plainDigits (digits.spelling ++ c :: rest) = none := by
    rw [plainDigits, ungroup_eq_none (c := c) (by simp) other.1 other.2]
  rw [integer?_append sign canonical _ noMark, unread, Option.bind_none]

/-- A whole number is no real number. -/
theorem decimal?_integer (l : IntegerLiteral) : decimal? l.spelling = none := by
  cases l with
  | decimal sign digits canonical =>
      have nothing : digits.spelling.dropWhile isWholeChar = [] :=
        List.dropWhile_eq_nil_iff.2 fun _ => isWholeChar_of_mem
      unfold isWholeChar at nothing
      simp only [IntegerLiteral.spelling, decimal?, splitSign_digits, nothing]
      split <;> first | rfl | contradiction
  | based base digits =>
      have noSign : NoSign '0' := ⟨by decide, by decide⟩
      have mark : isWholeChar base.mark = true ∧ isDigit base.mark = false ∧ base.mark ≠ '_' := by
        cases base <;> decide
      have unread (cs : List Char) :
          plainDigits (('0' :: base.mark :: cs).takeWhile isWholeChar) = none := by
        rw [List.takeWhile_cons_of_pos (by decide), List.takeWhile_cons_of_pos mark.1, plainDigits,
          ungroup_eq_none (c := base.mark) (by simp) mark.2.1 mark.2.2]
      unfold isWholeChar at unread
      simp only [IntegerLiteral.spelling, decimal?, splitSign_cons noSign, unread]

theorem datetime?_integer (l : IntegerLiteral) : datetime? l.spelling = none := by
  cases l with
  | decimal sign digits canonical =>
      have apart := datetime?_numeral sign digits [] nofun nofun
      rwa [List.append_nil] at apart
  | based base digits =>
      have behind : (IntegerLiteral.based base digits).spelling.dropWhile isDigit =
          base.mark :: digits.spelling := by
        have mark : isDigit base.mark = false := by cases base <;> decide
        rw [IntegerLiteral.spelling, List.dropWhile_cons_of_pos (by decide),
          List.dropWhile_cons_of_neg (by simp [mark])]
      refine datetime?_eq_none ?_ ?_ <;> rw [behind] <;> cases base <;> simp [Base.mark]

theorem datetime?_real (sign : Sign) (digits : Digits isDigit) (tail : RealTail) :
    datetime? (sign.spelling ++ (digits.spelling ++ tail.spelling)) = none := by
  obtain ⟨c, rest, same, mark⟩ := tail.exists_mark
  have behind : (tail.spelling.dropWhile isDigit).head? = some c := by
    have other : isDigit c = false := by rcases mark with rfl | rfl | rfl <;> decide
    rw [same, List.dropWhile_cons_of_neg (by simp [other])]
    rfl
  refine datetime?_numeral sign digits _ ?_ ?_ <;> rw [behind] <;>
    rcases mark with rfl | rfl | rfl <;> decide

/-- A literal begins like a number unless it is a word. -/
theorem IntegerLiteral.exists_numeral (l : IntegerLiteral) :
    ∃ (sign : Sign) (c : Char) (cs : List Char), l.spelling = sign.spelling ++ c :: cs ∧
      isDigit c = true := by
  cases l with
  | decimal sign digits canonical => exact ⟨sign, _, _, rfl, digits.first.2⟩
  | based base digits => exact ⟨.none, '0', _, rfl, by decide⟩

/-- A literal is read as what it stands for. -/
theorem scalar?_spelling (l : Literal) : scalar? l.spelling = l.node? := by
  cases l with
  | integer l =>
      obtain ⟨sign, c, cs, same, digit⟩ := l.exists_numeral
      have noBoolean : boolean? l.spelling = none := same ▸ boolean?_numeral sign digit cs
      have noSpecial : special? l.spelling = none := same ▸ special?_numeral sign digit cs
      simp only [Literal.spelling, scalar?, noBoolean, noSpecial, integer?_spelling,
        decimal?_integer, datetime?_integer, Option.none_or, Option.or_none]
      rfl
  | real l =>
      cases l with
      | decimal sign digits canonical tail =>
          have noBoolean : boolean? (sign.spelling ++ (digits.spelling ++ tail.spelling)) = none :=
            boolean?_numeral sign digits.first.2 _
          have noSpecial : special? (sign.spelling ++ (digits.spelling ++ tail.spelling)) = none :=
            special?_numeral sign digits.first.2 _
          simp only [Literal.spelling, RealLiteral.spelling, scalar?, noBoolean, noSpecial,
            integer?_real sign canonical, decimal?_spelling canonical, datetime?_real,
            Option.none_or, Option.or_none]
          rfl
      | infinity sign => cases sign <;> rfl
      | nan sign => cases sign <;> rfl
  | boolean b => cases b <;> rfl

end Words

end DuplexStream.Toml
